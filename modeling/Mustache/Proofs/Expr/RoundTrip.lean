import Mustache.Expr.Reader

/-!
# Written expressions are read back

An expression may be written with blanks after each opening parenthesis and before each
closing one; its text is the writing without any.  The reader takes every writing of an
expression for that expression and stops where the writing ends, provided that no
character of a name follows.  That proviso is what the induction needs, since it holds
in front of each dot and each parenthesis, and after the blanks of a call.

The reader does not insist on the one dot of a member of the innermost scope and takes two
as well, so reading is followed for the texts that it accepts.
-/

namespace Mustache

open Mustache.Text

namespace Expr

def IsName (id : String) : Prop :=
  id ≠ "" ∧ ∀ c ∈ id.toList, isNameChar c = true

instance (id : String) : Decidable (IsName id) :=
  decidable_of_iff (id ≠ "" ∧ id.toList.all isNameChar = true) (by simp [IsName])

def WellFormed : Expr → Prop
  | .implicit => True
  | .name id => IsName id
  | .member base key => base.WellFormed ∧ IsName key
  | .call filter argument => filter.WellFormed ∧ argument.WellFormed

def Blanks (s : List Char) : Prop :=
  ∀ c ∈ s, isBlank c = true

instance (s : List Char) : Decidable (Blanks s) :=
  decidable_of_iff (s.all isBlank = true) (by simp [Blanks])

/-- The ways to write an expression. -/
inductive Written : Expr → List Char → Prop where
  | implicit : Written .implicit ['.']
  | name {id : String} : IsName id → Written (.name id) id.toList
  | implicitMember {key : String} :
      IsName key → Written (.member .implicit key) ('.' :: key.toList)
  | member {base : Expr} {s : List Char} {key : String} :
      base ≠ .implicit → Written base s → IsName key →
        Written (.member base key) (s ++ '.' :: key.toList)
  | call {filter argument : Expr} {s left t right : List Char} :
      Written filter s → Blanks left → Written argument t → Blanks right →
        Written (.call filter argument) (s ++ '(' :: (left ++ t ++ right ++ [')']))

/-- The texts that are read as an expression: its writings, and those in which a member of
the innermost scope has two dots. -/
inductive Accepted : Expr → List Char → Prop where
  | implicit : Accepted .implicit ['.']
  | name {id : String} : IsName id → Accepted (.name id) id.toList
  | implicitMember {key : String} :
      IsName key → Accepted (.member .implicit key) ('.' :: key.toList)
  | member {base : Expr} {s : List Char} {key : String} :
      Accepted base s → IsName key → Accepted (.member base key) (s ++ '.' :: key.toList)
  | call {filter argument : Expr} {s left t right : List Char} :
      Accepted filter s → Blanks left → Accepted argument t → Blanks right →
        Accepted (.call filter argument) (s ++ '(' :: (left ++ t ++ right ++ [')']))

theorem Written.accepted {e : Expr} {s : List Char} (h : Written e s) : Accepted e s := by
  induction h with
  | implicit => exact .implicit
  | name hid => exact .name hid
  | implicitMember hkey => exact .implicitMember hkey
  | member _ _ hkey ih => exact .member ih hkey
  | call _ hleft _ hright ihfilter ihargument => exact .call ihfilter hleft ihargument hright

theorem text_implicitMember (key : String) :
    (Expr.member .implicit key).text.toList = '.' :: key.toList := by
  simp [text, String.toList_append]

theorem text_member {base : Expr} (h : base ≠ .implicit) (key : String) :
    (Expr.member base key).text.toList = base.text.toList ++ '.' :: key.toList := by
  cases base <;> simp_all [text, String.toList_append]

theorem text_call (filter argument : Expr) :
    (Expr.call filter argument).text.toList =
      filter.text.toList ++ '(' :: (argument.text.toList ++ [')']) := by
  simp [text, String.toList_append]

theorem written_text {e : Expr} (he : e.WellFormed) : Written e e.text.toList := by
  induction e with
  | implicit => exact .implicit
  | name id => exact .name he
  | member base key ih =>
      obtain ⟨hbase, hkey⟩ := he
      by_cases himplicit : base = .implicit
      · subst himplicit
        rw [text_implicitMember]
        exact .implicitMember hkey
      · rw [text_member himplicit]
        exact .member himplicit (ih hbase) hkey
  | call filter argument ihfilter ihargument =>
      have hnone : Blanks [] := by simp [Blanks]
      have hcall := Written.call (ihfilter he.1) hnone (ihargument he.2) hnone
      rwa [List.nil_append, List.append_nil, ← text_call] at hcall

/-! ## Characters -/

theorem not_isBlank_of_isNameChar {c : Char} (h : isNameChar c = true) :
    isBlank c = false := by
  delta isNameChar Char.isAlphanum Char.isAlpha Char.isUpper Char.isLower Char.isDigit at h
  simp only [Bool.or_eq_true, Bool.and_eq_true, beq_iff_eq, decide_eq_true_eq,
    UInt32.le_iff_toNat_le, ge_iff_le] at h
  change ((((((65 ≤ c.toNat ∧ c.toNat ≤ 90) ∨ (97 ≤ c.toNat ∧ c.toNat ≤ 122)) ∨
    (48 ≤ c.toNat ∧ c.toNat ≤ 57)) ∨ c = '_') ∨ c = '$') ∨ c = '@') ∨ c = '-' at h
  rcases h with (((hascii | rfl) | rfl) | rfl) | rfl
  · simp only [isBlank, Bool.or_eq_false_iff, Bool.and_eq_false_iff, beq_eq_false_iff_ne,
      decide_eq_false_iff_not]
    omega
  all_goals decide

theorem not_isNameChar_of_isBlank {c : Char} (h : isBlank c = true) : isNameChar c = false := by
  cases hname : isNameChar c with
  | false => rfl
  | true => simp [not_isBlank_of_isNameChar hname] at h

theorem not_isBlank_of_head {c : Char} (h : c = '.' ∨ isNameChar c = true) :
    isBlank c = false := by
  rcases h with rfl | hname
  · rfl
  · exact not_isBlank_of_isNameChar hname

theorem Accepted.exists_head {e : Expr} {s : List Char} (h : Accepted e s) :
    ∃ c t, s = c :: t ∧ (c = '.' ∨ isNameChar c = true) := by
  induction h with
  | implicit => exact ⟨'.', [], rfl, .inl rfl⟩
  | @name id hid =>
      have hne : id.toList ≠ [] := by simpa using hid.1
      obtain ⟨c, t, hct⟩ := List.exists_cons_of_ne_nil hne
      have hc : c ∈ id.toList := by simp [hct]
      exact ⟨c, t, hct, .inr (hid.2 c hc)⟩
  | @implicitMember key _ => exact ⟨'.', key.toList, rfl, .inl rfl⟩
  | member _ _ ih | call _ _ _ _ ih _ =>
      obtain ⟨c, t, rfl, hc⟩ := ih
      exact ⟨c, _, List.cons_append, hc⟩

theorem Written.exists_head {e : Expr} {s : List Char} (h : Written e s) :
    ∃ c t, s = c :: t ∧ (c = '.' ∨ isNameChar c = true) :=
  h.accepted.exists_head

theorem Written.exists_last {e : Expr} {s : List Char} (h : Written e s) :
    ∃ t c, s = t ++ [c] ∧ isBlank c = false := by
  have hlastName : ∀ {id : String}, IsName id →
      ∃ t c, id.toList = t ++ [c] ∧ isBlank c = false := by
    intro id hid
    rcases List.eq_nil_or_concat id.toList with hnil | ⟨t, c, hconcat⟩
    · exact absurd hnil (by simpa using hid.1)
    · refine ⟨t, c, by simpa using hconcat, not_isBlank_of_isNameChar (hid.2 c ?_)⟩
      simp [hconcat]
  cases h with
  | implicit => exact ⟨[], '.', rfl, rfl⟩
  | name hid => exact hlastName hid
  | implicitMember hkey =>
      obtain ⟨t, c, ht, hc⟩ := hlastName hkey
      exact ⟨'.' :: t, c, by rw [ht]; rfl, hc⟩
  | @member base s key _ _ hkey =>
      obtain ⟨t, c, ht, hc⟩ := hlastName hkey
      exact ⟨s ++ '.' :: t, c, by simp [ht], hc⟩
  | @call filter argument s left t right _ _ _ _ =>
      exact ⟨s ++ '(' :: (left ++ t ++ right), ')', by simp, rfl⟩

theorem Written.brace_notMem {e : Expr} {s : List Char} (h : Written e s) : '}' ∉ s := by
  have hname : ∀ {id : String}, IsName id → '}' ∉ id.toList :=
    fun hid hbrace => absurd (hid.2 _ hbrace) (by decide)
  have hblanks : ∀ {left : List Char}, Blanks left → '}' ∉ left :=
    fun hleft hbrace => absurd (hleft _ hbrace) (by decide)
  induction h with
  | implicit => decide
  | name hid => exact hname hid
  | implicitMember hkey => simpa using hname hkey
  | member _ _ hkey ih => simpa [ih] using hname hkey
  | call _ hleft _ hright ihfilter ihargument =>
      simp [ihfilter, ihargument, hblanks hleft, hblanks hright]

theorem Written.trim_eq {e : Expr} {s : List Char} (h : Written e s) : trim s = s := by
  obtain ⟨c, t, hhead, hc⟩ := h.exists_head
  obtain ⟨u, d, hlast, hd⟩ := h.exists_last
  exact trim_eq_self hhead (not_isBlank_of_head hc) hlast hd

/-! ## Reading names -/

/-- No name goes on with these characters. -/
def EndsName (rest : List Char) : Prop :=
  ∀ c, rest.head? = some c → isNameChar c = false

theorem readName?_of_endsName {rest : List Char} (h : EndsName rest) :
    readName? rest = none := by
  cases rest with
  | nil => rfl
  | cons c rest =>
      have hc : isNameChar c = false := h c rfl
      simp [readName?, List.takeWhile, hc]

theorem readName?_append {id : String} (hid : IsName id) {rest : List Char}
    (hrest : EndsName rest) : readName? (id.toList ++ rest) = some (id, rest) := by
  have htake : (id.toList ++ rest).takeWhile isNameChar = id.toList := by
    rw [List.takeWhile_append_of_pos hid.2]
    cases rest with
    | nil => simp
    | cons c rest => simp [List.takeWhile, hrest c rfl]
  have hdrop : (id.toList ++ rest).dropWhile isNameChar = rest := by
    rw [List.dropWhile_append_of_pos hid.2]
    cases rest with
    | nil => simp
    | cons c rest => simp [List.dropWhile, hrest c rfl]
  have hne : id.toList ≠ [] := by simpa using hid.1
  obtain ⟨c, t, hct⟩ := List.exists_cons_of_ne_nil hne
  unfold readName?
  rw [htake, hdrop, hct]
  simp [← hct]

/-! ## Reading expressions -/

def readFrom? (pending : List Expr) (s : List Char) : Option Expr :=
  match readHead? s with
  | some (e, rest) => readTail? pending e rest
  | none => none

theorem readFrom?_implicit {rest : List Char} (hrest : EndsName rest)
    (pending : List Expr) :
    readFrom? pending ('.' :: rest) = readTail? pending .implicit rest := by
  simp only [readFrom?, readHead?, readName?_of_endsName hrest]

theorem readFrom?_implicitMember {key : String} (hkey : IsName key) {rest : List Char}
    (hrest : EndsName rest) (pending : List Expr) :
    readFrom? pending ('.' :: (key.toList ++ rest)) =
      readTail? pending (.member .implicit key) rest := by
  simp only [readFrom?, readHead?, readName?_append hkey hrest]

theorem readFrom?_name {id : String} (hid : IsName id) {rest : List Char}
    (hrest : EndsName rest) (pending : List Expr) :
    readFrom? pending (id.toList ++ rest) = readTail? pending (.name id) rest := by
  have hhead : readHead? (id.toList ++ rest) = some (.name id, rest) := by
    unfold readHead?
    split
    · next t hdot =>
      have hname := readName?_append hid hrest
      rw [hdot] at hname
      simp [readName?, List.takeWhile, isNameChar] at hname
    · rw [readName?_append hid hrest]
      rfl
  simp only [readFrom?, hhead]

theorem readTail?_member {key : String} (hkey : IsName key) {rest : List Char}
    (hrest : EndsName rest) (pending : List Expr) (e : Expr) :
    readTail? pending e ('.' :: (key.toList ++ rest)) =
      readTail? pending (.member e key) rest := by
  have hname := readName?_append hkey hrest
  rw [readTail?]
  split
  · next key' rest' hname' =>
    rw [hname] at hname'
    obtain ⟨rfl, rfl⟩ := Prod.mk.inj (Option.some.inj hname')
    rfl
  · next hnone => simp [hname] at hnone

theorem readTail?_open (pending : List Expr) (e : Expr) (t : List Char) :
    readTail? pending e ('(' :: t) = readFrom? (e :: pending) (trimStart t) := by
  rw [readTail?, readFrom?]
  split
  · next hhead => rw [hhead]
  · next hhead => rw [hhead]

theorem trimStart_append {left : List Char} (hleft : Blanks left) (rest : List Char) :
    trimStart (left ++ rest) = trimStart rest :=
  List.dropWhile_append_of_pos hleft

/-- After a call's argument nothing but blanks and its parenthesis is read. -/
theorem head_of_blanks {right rest t : List Char} {c : Char} (hright : Blanks right)
    (h : right ++ ')' :: rest = c :: t) : isBlank c = true ∨ c = ')' := by
  cases right with
  | nil =>
      obtain ⟨rfl, -⟩ := List.cons.inj h
      exact .inr rfl
  | cons d right =>
      obtain ⟨rfl, -⟩ := List.cons.inj h
      exact .inl (hright d List.mem_cons_self)

theorem endsName_of_blanks {right : List Char} (hright : Blanks right) (rest : List Char) :
    EndsName (right ++ ')' :: rest) := by
  intro c hc
  obtain ⟨t, ht⟩ := List.head?_eq_some_iff.1 hc
  rcases head_of_blanks hright ht with hblank | rfl
  · exact not_isNameChar_of_isBlank hblank
  · rfl

theorem readTail?_close {right : List Char} (hright : Blanks right) (filter e : Expr)
    (pending : List Expr) (rest : List Char) :
    readTail? (filter :: pending) e (right ++ ')' :: rest) =
      readTail? pending (.call filter e) rest := by
  have htrim : trimStart (right ++ ')' :: rest) = ')' :: rest := by
    rw [trimStart_append hright]
    rfl
  rw [readTail?]
  · split
    · next closed hclose =>
      rw [htrim] at hclose
      obtain ⟨-, rfl⟩ := List.cons.inj hclose
      rfl
    · next hopen => exact absurd htrim (hopen rest)
  · intro t ht
    exact absurd (head_of_blanks hright ht) (by decide)
  · intro t ht
    exact absurd (head_of_blanks hright ht) (by decide)

/-- The reader takes a text for its expression and goes on after it. -/
theorem readFrom?_accepted {e : Expr} {s : List Char} (h : Accepted e s) {rest : List Char}
    (hrest : EndsName rest) (pending : List Expr) :
    readFrom? pending (s ++ rest) = readTail? pending e rest := by
  induction h generalizing rest pending with
  | implicit => exact readFrom?_implicit hrest pending
  | name hid => exact readFrom?_name hid hrest pending
  | implicitMember hkey => exact readFrom?_implicitMember hkey hrest pending
  | @member base s key _ hkey ih =>
      have hdot : EndsName ('.' :: (key.toList ++ rest)) := by simp [EndsName, isNameChar]
      rw [List.append_assoc, List.cons_append, ih hdot, readTail?_member hkey hrest]
  | @call filter argument s left t right _ hleft ht hright ihfilter ihargument =>
      have hopen : EndsName ('(' :: (left ++ (t ++ (right ++ ')' :: rest)))) := by
        simp [EndsName, isNameChar]
      have htrim : trimStart (t ++ (right ++ ')' :: rest)) = t ++ (right ++ ')' :: rest) := by
        obtain ⟨c, u, rfl, hc⟩ := ht.exists_head
        exact trimStart_cons (not_isBlank_of_head hc) _
      calc readFrom? pending (s ++ '(' :: (left ++ t ++ right ++ [')']) ++ rest)
          = readFrom? pending (s ++ '(' :: (left ++ (t ++ (right ++ ')' :: rest)))) := by
            simp
        _ = readTail? pending filter ('(' :: (left ++ (t ++ (right ++ ')' :: rest)))) :=
            ihfilter hopen pending
        _ = readFrom? (filter :: pending) (t ++ (right ++ ')' :: rest)) := by
            rw [readTail?_open, trimStart_append hleft, htrim]
        _ = readTail? (filter :: pending) argument (right ++ ')' :: rest) :=
            ihargument (endsName_of_blanks hright rest) (filter :: pending)
        _ = readTail? pending (.call filter argument) rest :=
            readTail?_close hright filter argument pending rest

theorem read?_accepted {e : Expr} {s : List Char} (h : Accepted e s) : read? s = some e := by
  have hend : EndsName [] := by simp [EndsName]
  have hread := readFrom?_accepted h hend []
  rw [List.append_nil, readTail?] at hread
  · exact hread
  all_goals simp

theorem read?_written {e : Expr} {s : List Char} (h : Written e s) : read? s = some e :=
  read?_accepted h.accepted

theorem parse_written {e : Expr} {s : List Char} (h : Written e s) (line : Nat) :
    parse line s = .ok e := by
  obtain ⟨c, t, rfl, -⟩ := h.exists_head
  rw [parse, h.trim_eq]
  simp only [read?_written h]

end Expr
end Mustache
