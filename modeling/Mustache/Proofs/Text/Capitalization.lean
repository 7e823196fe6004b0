import Mathlib.Data.List.Chain
import Mathlib.Logic.Unique
import Mustache.Library

/-!
# Capitalization by words

A text falls into its words, which are maximal runs of word characters, and the separators
around them, and it does so in one way only.  Capitalization reads the text once and remembers
no more of it than whether a word is under way.  This raises the first character of every word
and lowers the others: behind a word comes a separator or the end of the text, where it does
not matter what is remembered, and behind a separator no word is under way.

The case mappings may make several characters of one, so a text can become longer, and
capitalizing it again can change it once more.  Neither happens in an alphabet on which the
mappings settle at once, as they do on ASCII.
-/

namespace Mustache

namespace Text

variable {isWord : Char → Bool} {raise sink : Char → List Char} {s : List Char}

/-! ## Words and separators -/

/-- A run of word characters, or one character of another kind. -/
inductive Piece (isWord : Char → Bool) where
  | word (first : Char) (others : List Char) (h : ∀ c ∈ first :: others, isWord c = true)
  | separator (c : Char) (h : isWord c = false)

namespace Piece

def chars : Piece isWord → List Char
  | word first others _ => first :: others
  | separator c _ => [c]

def isSeparator : Piece isWord → Bool
  | word .. => false
  | separator .. => true

@[simp] theorem isSeparator_word (first : Char) (others : List Char)
    (h : ∀ c ∈ first :: others, isWord c = true) : (word first others h).isSeparator = false := rfl

@[simp] theorem isSeparator_separator (c : Char) (h : isWord c = false) :
    (separator c h).isSeparator = true := rfl

/-- Raises the first character of a word, lowers its others, and keeps a separator. -/
def capitalized (raise sink : Char → List Char) : Piece isWord → List Char
  | word first others _ => raise first ++ others.flatMap sink
  | separator c _ => [c]

/-- No two words stand side by side, so each of them is a maximal run. -/
def Separated (pieces : List (Piece isWord)) : Prop :=
  pieces.IsChain fun p q => p.isSeparator || q.isSeparator

section Separated

variable {p q : Piece isWord} {pieces : List (Piece isWord)}

theorem Separated.tail (h : Separated (p :: pieces)) : Separated pieces :=
  (List.isChain_cons.1 h).2

theorem Separated.neighbour (h : Separated (p :: q :: pieces)) :
    (p.isSeparator || q.isSeparator) = true :=
  (List.isChain_cons_cons.1 h).1

/-- A longer or a shorter word in front has the same neighbour. -/
theorem Separated.replace_head (h : Separated (p :: pieces))
    (hkind : q.isSeparator = p.isSeparator) : Separated (q :: pieces) := by
  obtain ⟨hneighbour, hpieces⟩ := List.isChain_cons.1 h
  refine List.isChain_cons.2 ⟨?_, hpieces⟩
  rwa [hkind]

theorem Separated.cons_separator (h : Separated pieces) (c : Char) (hc : isWord c = false) :
    Separated (separator c hc :: pieces) :=
  List.isChain_cons.2 ⟨fun _ _ => rfl, h⟩

end Separated

/-- Puts a character in front.  A word character begins a word or continues the one behind it. -/
def push (c : Char) (pieces : List (Piece isWord)) : List (Piece isWord) :=
  if hc : isWord c then
    match pieces with
    | [] => [word c [] (by simp [hc])]
    | word first others h :: rest =>
        word c (first :: others) (List.forall_mem_cons.2 ⟨hc, h⟩) :: rest
    | separator d h :: rest => word c [] (by simp [hc]) :: separator d h :: rest
  else separator c (by simpa using hc) :: pieces

/-- The pieces of a text, found from its end on. -/
def divide (isWord : Char → Bool) (s : List Char) : List (Piece isWord) :=
  s.foldr push []

theorem flatMap_chars_push (c : Char) (pieces : List (Piece isWord)) :
    (push c pieces).flatMap chars = c :: pieces.flatMap chars := by
  unfold push
  split
  · split <;> rfl
  · rfl

theorem Separated.push {pieces : List (Piece isWord)} (h : Separated pieces) (c : Char) :
    Separated (push c pieces) := by
  unfold Piece.push
  split
  · split
    · exact List.isChain_singleton _
    · exact h.replace_head rfl
    · exact List.isChain_cons_cons.2 ⟨rfl, h⟩
  · exact h.cons_separator c _

theorem flatMap_chars_divide (isWord : Char → Bool) (s : List Char) :
    (divide isWord s).flatMap chars = s := by
  induction s with
  | nil => rfl
  | cons c s ih => exact (flatMap_chars_push c _).trans (congrArg (c :: ·) ih)

theorem separated_divide (isWord : Char → Bool) (s : List Char) : Separated (divide isWord s) := by
  induction s with
  | nil => exact List.isChain_nil
  | cons c s ih => exact ih.push c

/-- Put in front one by one, the characters of a piece make up that piece again. -/
theorem foldr_push_chars {p : Piece isWord} {pieces : List (Piece isWord)}
    (h : Separated (p :: pieces)) : p.chars.foldr push pieces = p :: pieces := by
  cases p with
  | separator c hc => simp [chars, push, hc]
  | word first others hword =>
      induction others generalizing first with
      | nil =>
          have hfirst : isWord first = true := hword first List.mem_cons_self
          cases pieces with
          | nil => simp [chars, push, hfirst]
          | cons q rest =>
              cases q with
              | separator d hd => simp [chars, push, hfirst]
              | word => simpa using h.neighbour
      | cons second others ih =>
          obtain ⟨hfirst, hrest⟩ := List.forall_mem_cons.1 hword
          have htail := ih second hrest (h.replace_head rfl)
          simp only [chars] at htail ⊢
          rw [List.foldr_cons, htail]
          simp [push, hfirst]

theorem divide_flatMap_chars {pieces : List (Piece isWord)} (h : Separated pieces) :
    divide isWord (pieces.flatMap chars) = pieces := by
  induction pieces with
  | nil => rfl
  | cons p pieces ih =>
      have hrest := ih h.tail
      rw [divide] at hrest ⊢
      rw [List.flatMap_cons, List.foldr_append, hrest, foldr_push_chars h]

end Piece

/-- A text cut into its words and the separators around them. -/
@[ext]
structure Division (isWord : Char → Bool) (s : List Char) where
  pieces : List (Piece isWord)
  flatMap_chars : pieces.flatMap Piece.chars = s
  separated : Piece.Separated pieces

namespace Division

instance : Unique (Division isWord s) where
  default := ⟨Piece.divide isWord s, Piece.flatMap_chars_divide isWord s,
    Piece.separated_divide isWord s⟩
  uniq d := by
    have hdivide := Piece.divide_flatMap_chars d.separated
    rw [d.flatMap_chars] at hdivide
    ext1
    exact hdivide.symm

/-- No word reaches over a separator, so the texts on its two sides are divided separately. -/
def around {t : List Char} (d : Division isWord s) (sep : Char) (hsep : isWord sep = false)
    (e : Division isWord t) : Division isWord (s ++ sep :: t) where
  pieces := d.pieces ++ .separator sep hsep :: e.pieces
  flatMap_chars := by
    simp [d.flatMap_chars, e.flatMap_chars, Piece.chars]
  separated := by
    refine List.isChain_append.2 ⟨d.separated, e.separated.cons_separator sep hsep, ?_⟩
    intro p _ q hq
    obtain rfl := Option.some.inj hq
    exact Bool.or_true _

end Division

/-! ## Capitalized pieces -/

theorem capitalizeWith_cons_word {c : Char} (hc : isWord c = true) (atStart : Bool)
    (s : List Char) :
    capitalizeWith isWord raise sink atStart (c :: s) =
      (if atStart then raise else sink) c ++ capitalizeWith isWord raise sink false s := by
  cases atStart <;> simp [capitalizeWith, hc]

theorem capitalizeWith_cons_separator {c : Char} (hc : isWord c = false) (atStart : Bool)
    (s : List Char) :
    capitalizeWith isWord raise sink atStart (c :: s) =
      c :: capitalizeWith isWord raise sink true s := by
  simp [capitalizeWith, hc]

/-- Whether a word is under way matters only in front of a word character. -/
theorem capitalizeWith_of_head_eq_false (hhead : ∀ c ∈ s.head?, isWord c = false) :
    capitalizeWith isWord raise sink false s = capitalizeWith isWord raise sink true s := by
  cases s with
  | nil => rfl
  | cons c s =>
      have hc : isWord c = false := hhead c rfl
      rw [capitalizeWith_cons_separator hc, capitalizeWith_cons_separator hc]

/-- While a word is under way, its characters are lowered. -/
theorem capitalizeWith_append {others : List Char} (hothers : ∀ c ∈ others, isWord c = true)
    (s : List Char) :
    capitalizeWith isWord raise sink false (others ++ s) =
      others.flatMap sink ++ capitalizeWith isWord raise sink false s := by
  induction others with
  | nil => rfl
  | cons c others ih =>
      obtain ⟨hc, hrest⟩ := List.forall_mem_cons.1 hothers
      rw [List.cons_append, capitalizeWith_cons_word hc, ih hrest, List.flatMap_cons,
        List.append_assoc]
      rfl

namespace Piece

theorem capitalizeWith_chars_append (p : Piece isWord)
    (hnext : p.isSeparator = false → ∀ c ∈ s.head?, isWord c = false) :
    capitalizeWith isWord raise sink true (p.chars ++ s) =
      p.capitalized raise sink ++ capitalizeWith isWord raise sink true s := by
  cases p with
  | separator c hc => exact capitalizeWith_cons_separator hc true s
  | word first others h =>
      obtain ⟨hfirst, hothers⟩ := List.forall_mem_cons.1 h
      calc
        capitalizeWith isWord raise sink true (first :: (others ++ s)) =
            raise first ++ capitalizeWith isWord raise sink false (others ++ s) :=
          capitalizeWith_cons_word hfirst true _
        _ = raise first ++
              (others.flatMap sink ++ capitalizeWith isWord raise sink true s) := by
          rw [capitalizeWith_append hothers, capitalizeWith_of_head_eq_false (hnext rfl)]
        _ = raise first ++ others.flatMap sink ++ capitalizeWith isWord raise sink true s :=
          (List.append_assoc ..).symm

theorem Separated.head?_eq_false {p : Piece isWord} {pieces : List (Piece isWord)}
    (h : Separated (p :: pieces)) (hword : p.isSeparator = false) :
    ∀ c ∈ (pieces.flatMap chars).head?, isWord c = false := by
  intro c hc
  cases pieces with
  | nil => simp at hc
  | cons q rest =>
      cases q with
      | separator d hd => exact Option.some.inj hc ▸ hd
      | word => simpa [hword] using h.neighbour

theorem Separated.capitalizeWith_flatMap_chars {pieces : List (Piece isWord)}
    (h : Separated pieces) :
    capitalizeWith isWord raise sink true (pieces.flatMap chars) =
      pieces.flatMap (capitalized raise sink) := by
  induction pieces with
  | nil => rfl
  | cons p pieces ih =>
      rw [List.flatMap_cons, List.flatMap_cons, p.capitalizeWith_chars_append h.head?_eq_false,
        ih h.tail]

end Piece

theorem Division.capitalizeWith_eq (d : Division isWord s) (raise sink : Char → List Char) :
    capitalizeWith isWord raise sink true s = d.pieces.flatMap (Piece.capitalized raise sink) := by
  rw [← d.separated.capitalizeWith_flatMap_chars, d.flatMap_chars]

theorem capitalizeWith_append_separator {sep : Char} (hsep : isWord sep = false)
    (s t : List Char) :
    capitalizeWith isWord raise sink true (s ++ sep :: t) =
      capitalizeWith isWord raise sink true s ++
        sep :: capitalizeWith isWord raise sink true t := by
  let d : Division isWord s := default
  let e : Division isWord t := default
  rw [d.capitalizeWith_eq, e.capitalizeWith_eq, (d.around sep hsep e).capitalizeWith_eq]
  simp [Division.around, Piece.capitalized]

/-! ## Alphabets on which capitalization settles -/

/-- Takes a word character of the alphabet to a single other one, which it takes to itself. -/
def SettlesOn (isWord : Char → Bool) (alphabet : Char → Prop) (map : Char → List Char) : Prop :=
  ∀ c, alphabet c → isWord c = true →
    ∃ d, map c = [d] ∧ alphabet d ∧ isWord d = true ∧ map d = [d]

variable {alphabet : Char → Prop}

/-- One step makes a single character, which a second run meets in the same state and keeps. -/
theorem exists_capitalizeWith_cons (hraise : SettlesOn isWord alphabet raise)
    (hsink : SettlesOn isWord alphabet sink) {c : Char} (hc : alphabet c) (atStart : Bool) :
    ∃ d, alphabet d ∧ ∀ x ∈ [c, d], ∀ s,
      capitalizeWith isWord raise sink atStart (x :: s) =
        d :: capitalizeWith isWord raise sink (!isWord c) s := by
  cases hword : isWord c with
  | false =>
      refine ⟨c, hc, ?_⟩
      simp [capitalizeWith_cons_separator hword]
  | true =>
      have hmap : SettlesOn isWord alphabet (if atStart then raise else sink) := by
        cases atStart
        · exact hsink
        · exact hraise
      obtain ⟨d, hone, hd, hdword, hagain⟩ := hmap c hc hword
      refine ⟨d, hd, ?_⟩
      simp [capitalizeWith_cons_word hword, capitalizeWith_cons_word hdword, hone, hagain]

/-- Over such alphabets a run makes as many characters as it reads, and a second run changes
none of them. -/
theorem capitalizeWith_settled (hraise : SettlesOn isWord alphabet raise)
    (hsink : SettlesOn isWord alphabet sink) (hs : ∀ c ∈ s, alphabet c) (atStart : Bool) :
    let result := capitalizeWith isWord raise sink atStart s
    (∀ c ∈ result, alphabet c) ∧ result.length = s.length ∧
      capitalizeWith isWord raise sink atStart result = result := by
  induction s generalizing atStart with
  | nil => simp [capitalizeWith]
  | cons c s ih =>
      obtain ⟨hc, hrest⟩ := List.forall_mem_cons.1 hs
      obtain ⟨d, hd, hstep⟩ := exists_capitalizeWith_cons hraise hsink hc atStart
      obtain ⟨halphabet, hlength, hagain⟩ := ih hrest (!isWord c)
      have hfirst := hstep c (by simp)
      have hsecond := hstep d (by simp)
      simp only [hfirst, hsecond, hagain, List.length_cons, hlength, and_self, and_true]
      exact List.forall_mem_cons.2 ⟨hd, halphabet⟩

/-- On ASCII the mappings move single characters, and there are few enough to try all. -/
theorem settlesOn_ascii {map : Char → List Char} {move : Char → Char}
    (hmap : ∀ c : Char, c.toNat < 0x80 → map c = [move c])
    (hmove : ∀ n < 0x80, (move (Char.ofNat n)).toNat < 0x80 ∧
      (move (Char.ofNat n)).isAlphanum = (Char.ofNat n).isAlphanum ∧
      move (move (Char.ofNat n)) = move (Char.ofNat n)) :
    SettlesOn isAlphanumeric (fun c => c.toNat < 0x80) map := by
  intro c hc hword
  obtain ⟨hascii, halphanum, hagain⟩ := hmove c.toNat hc
  rw [Char.ofNat_toNat] at hascii halphanum hagain
  rw [isAlphanumeric, if_pos hc] at hword
  refine ⟨move c, hmap c hc, hascii, ?_, ?_⟩
  · rw [isAlphanumeric, if_pos hascii, halphanum, hword]
  · rw [hmap _ hascii, hagain]

theorem settlesOn_upperChar : SettlesOn isAlphanumeric (fun c => c.toNat < 0x80) upperChar :=
  settlesOn_ascii (fun _ hc => if_pos hc) (by decide)

theorem settlesOn_lowerChar : SettlesOn isAlphanumeric (fun c => c.toNat < 0x80) lowerChar :=
  settlesOn_ascii (fun _ hc => if_pos hc) (by decide)

end Text

/-! ## The filter -/

open Text

variable {κ : Type}

theorem StandardFilter.convertText_of_text? {v : Value κ} {s : String} (hkind : v.kind ≠ .empty)
    (htext : v.text? = some s) (f : StandardFilter) (convert : List Char → List Char) :
    f.convertText convert v = .ok (.ofString (String.ofList (convert s.toList))) := by
  rw [convertText, htext]
  split
  · contradiction
  · next htext' _ => rw [← Option.some.inj htext']
  · contradiction

/-- A text is cut into words and separators in exactly one way, and capitalization goes by them,
whatever the case mappings make of a character.  So the texts on the two sides of a separator
are capitalized separately, and an ASCII text keeps its length and is capitalized once and for
all.  The filter does this to the text of any scalar. -/
theorem capitalize_by_words :
    (∀ s : List Char, ∃ d : Division isAlphanumeric s, (∀ e : Division isAlphanumeric s, e = d) ∧
      capitalize s = d.pieces.flatMap (Piece.capitalized upperChar lowerChar) ∧
      ∀ raise sink : Char → List Char,
        capitalizeWith isAlphanumeric raise sink true s =
          d.pieces.flatMap (Piece.capitalized raise sink)) ∧
    (∀ (s t : List Char) (sep : Char), isAlphanumeric sep = false →
      capitalize (s ++ sep :: t) = capitalize s ++ sep :: capitalize t) ∧
    (∀ s : List Char, (∀ c ∈ s, c.toNat < 0x80) →
      (∀ c ∈ capitalize s, c.toNat < 0x80) ∧ (capitalize s).length = s.length ∧
        capitalize (capitalize s) = capitalize s) ∧
    ∀ (v : Value κ) (s : String), v.kind ≠ .empty → v.text? = some s →
      StandardFilter.capitalized.apply v =
        .ok (.ofString (String.ofList (capitalize s.toList))) := by
  refine ⟨?pieces, ?separator, ?ascii, ?filter⟩
  case pieces =>
    intro s
    let d : Division isAlphanumeric s := default
    exact ⟨d, Unique.eq_default, d.capitalizeWith_eq upperChar lowerChar, d.capitalizeWith_eq⟩
  case separator =>
    intro s t sep hsep
    exact capitalizeWith_append_separator hsep s t
  case ascii =>
    intro s hs
    exact capitalizeWith_settled settlesOn_upperChar settlesOn_lowerChar hs true
  case filter =>
    intro v s hkind htext
    exact StandardFilter.convertText_of_text? hkind htext .capitalized capitalize

/-- A sharp s at the start of a word becomes two characters, and a second run lowers the second
of them. -/
theorem capitalize_by_words_sharp_s :
    let s := "hELLO".toList
    let t := "ßIG 2b".toList
    let v : Value Unit := .ofString "hELLO,ßIG 2b"
    (∀ c ∈ s, c.toNat < 0x80) ∧ isAlphanumeric ',' = false ∧ v.kind ≠ .empty ∧
      v.text? = some (String.ofList (s ++ ',' :: t)) ∧
      StandardFilter.capitalized.apply v = .ok (.ofString "Hello,SSig 2b") ∧
      capitalize (capitalize s) = capitalize s ∧
      capitalize (capitalize t) = "Ssig 2b".toList := by
  intro s t v
  obtain ⟨-, hseparator, hascii, hfilter⟩ := @capitalize_by_words Unit
  have hall : s.all (fun c => c.toNat < 0x80) = true := by decide
  have hs : ∀ c ∈ s, c.toNat < 0x80 := fun c hc => of_decide_eq_true (List.all_eq_true.1 hall c hc)
  have hcomma : isAlphanumeric ',' = false := by decide
  have hkind : v.kind ≠ .empty := by decide
  have htext : v.text? = some (String.ofList (s ++ ',' :: t)) := rfl
  obtain ⟨-, -, hagain⟩ := hascii s hs
  refine ⟨hs, hcomma, hkind, htext, ?_, hagain, by decide⟩
  rw [hfilter v _ hkind htext, String.toList_ofList, hseparator s t ',' hcomma]
  rfl

end Mustache
