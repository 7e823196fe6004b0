/-!
# Blank characters

Blanks are the characters with the Unicode property `White_Space`.  They are
trimmed from both ends of a tag's content and of an expression, and they
separate the two marks of a delimiter change.  All functions work on lists of
characters; none of them ever makes its argument longer.
-/

namespace Mustache.Text

/-- The twenty-five characters with the property `White_Space`. -/
def isBlank (c : Char) : Bool :=
  let n := c.toNat
  (9 ≤ n && n ≤ 13) || n == 0x20 || n == 0x85 || n == 0xA0 || n == 0x1680 ||
    (0x2000 ≤ n && n ≤ 0x200A) || n == 0x2028 || n == 0x2029 || n == 0x202F ||
    n == 0x205F || n == 0x3000

def trimStart (s : List Char) : List Char :=
  s.dropWhile isBlank

def trimEnd (s : List Char) : List Char :=
  (s.reverse.dropWhile isBlank).reverse

def trim (s : List Char) : List Char :=
  trimEnd (trimStart s)

theorem length_dropWhile_le (p : Char → Bool) (s : List Char) :
    (s.dropWhile p).length ≤ s.length :=
  (List.dropWhile_sublist p).length_le

theorem length_trimStart_le (s : List Char) : (trimStart s).length ≤ s.length :=
  length_dropWhile_le isBlank s

theorem trimStart_cons {c : Char} (hc : isBlank c = false) (t : List Char) :
    trimStart (c :: t) = c :: t := by
  simp [trimStart, hc]

theorem trimEnd_concat {c : Char} (hc : isBlank c = false) (s : List Char) :
    trimEnd (s ++ [c]) = s ++ [c] := by
  simp [trimEnd, hc]

theorem trimEnd_trimEnd (s : List Char) : trimEnd (trimEnd s) = trimEnd s := by
  simp only [trimEnd, List.reverse_reverse]
  cases h : s.reverse.dropWhile isBlank with
  | nil => rfl
  | cons c t =>
      have hc : isBlank c = false := by
        have hhead := List.head?_dropWhile_not isBlank s.reverse
        simpa [h] using hhead
      simp [hc]

/-- Nothing is trimmed from a text that begins and ends with other characters. -/
theorem trim_eq_self {s t u : List Char} {c d : Char} (hhead : s = c :: t)
    (hc : isBlank c = false) (hlast : s = u ++ [d]) (hd : isBlank d = false) :
    trim s = s := by
  rw [trim, hhead, trimStart_cons hc, ← hhead, hlast, trimEnd_concat hd]

theorem trim_cons {c : Char} (hc : isBlank c = false) (s : List Char) :
    trim (c :: s) = c :: trimEnd s := by
  rw [trim, trimStart_cons hc, trimEnd, trimEnd, List.reverse_cons, List.dropWhile_append]
  by_cases hnil : (s.reverse.dropWhile isBlank).isEmpty = true
  · have hrest : s.reverse.dropWhile isBlank = [] := by simpa using hnil
    simp [hrest, hc]
  · simp [hnil]

theorem trim_cons_of_trimmed {c : Char} {s : List Char} (hc : isBlank c = false)
    (hs : trim s = s) : trim (c :: s) = c :: s := by
  have hend : trimEnd s = s := by
    rw [← hs, trim, trimEnd_trimEnd]
  rw [trim_cons hc, hend]

/-- The maximal runs of characters that are not blank, in order. -/
def words (s : List Char) : List (List Char) :=
  match _hs : trimStart s with
  | [] => []
  | c :: t => (c :: t.takeWhile (!isBlank ·)) :: words (t.dropWhile (!isBlank ·))
termination_by s.length
decreasing_by
  have hrest := length_dropWhile_le (!isBlank ·) t
  have htrim := length_trimStart_le s
  rw [_hs] at htrim
  simp only [List.length_cons] at htrim
  omega

@[simp] theorem words_nil : words [] = [] := by
  rw [words]
  rfl

/-- The first word ends where the text does or in front of a blank. -/
theorem words_of_trimStart {s w rest : List Char} (htrim : trimStart s = w ++ rest)
    (hne : w ≠ []) (hw : ∀ c ∈ w, isBlank c = false)
    (hrest : ∀ c, rest.head? = some c → isBlank c = true) : words s = w :: words rest := by
  obtain ⟨c, t, rfl⟩ := List.exists_cons_of_ne_nil hne
  have ht : ∀ x ∈ t, (!isBlank x) = true := by
    intro x hx
    simp [hw x (List.mem_cons_of_mem c hx)]
  rw [words]
  split
  · next hnil => simp [htrim] at hnil
  · next c' t' hcons =>
    rw [htrim, List.cons_append] at hcons
    obtain ⟨rfl, rfl⟩ := List.cons.inj hcons
    rw [List.takeWhile_append_of_pos ht, List.dropWhile_append_of_pos ht]
    cases rest with
    | nil => simp
    | cons b rest => simp [hrest b rfl]

/-- A word is never empty. -/
theorem ne_nil_of_mem_words {s w : List Char} (h : w ∈ words s) : w ≠ [] := by
  induction s using words.induct with
  | case1 s hs =>
      rw [words] at h
      split at h
      · simp at h
      · next hs' => rw [hs] at hs'; simp at hs'
  | case2 s c t hs ih =>
      rw [words] at h
      split at h
      · simp at h
      · next c' t' hs' =>
        rw [hs] at hs'
        obtain ⟨rfl, rfl⟩ := List.cons.inj hs'
        rcases List.mem_cons.1 h with rfl | h
        · simp
        · exact ih h

end Mustache.Text
