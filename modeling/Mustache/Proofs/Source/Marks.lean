import Mustache.Source.Delimiters

/-!
# First occurrences of marks

Where a text is cut depends on the mark and on what precedes its first occurrence,
never on what follows it.  A text is unmarked when no occurrence of the mark begins
inside it even if the mark comes right after it; such a text is cut off as a whole in
front of any continuation.  Texts that `breakAt` cuts off are unmarked, and so is every
text without the first character of the mark.
-/

namespace Mustache

/-- In the text followed by the mark, the mark does not begin before the text ends. -/
def Unmarked (mark t : List Char) : Prop :=
  ¬ mark <:+: t ++ mark.dropLast

variable {mark s t before after : List Char}

theorem breakAt_nil_left (s : List Char) : breakAt [] s = some ([], s) := by
  unfold breakAt
  simp

theorem breakAt_mark_append (mark after : List Char) :
    breakAt mark (mark ++ after) = some ([], after) := by
  unfold breakAt
  have hstarts : mark.isPrefixOf (mark ++ after) = true :=
    List.isPrefixOf_iff_prefix.2 (List.prefix_append mark after)
  simp [hstarts]

theorem breakAt_cons {c : Char} (h : ¬ mark <+: c :: s) :
    breakAt mark (c :: s) =
      (breakAt mark s).map fun (before, after) => (c :: before, after) := by
  have hstarts : ¬ mark.isPrefixOf (c :: s) = true :=
    fun hmark => h (List.isPrefixOf_iff_prefix.1 hmark)
  rw [breakAt, if_neg hstarts]

theorem breakAt_eq_none_iff : breakAt mark s = none ↔ ¬ mark <:+: s := by
  induction s with
  | nil =>
      cases mark with
      | nil => simp [breakAt_nil_left]
      | cons m rest => simp [breakAt]
  | cons c s ih =>
      by_cases hstarts : mark <+: c :: s
      · obtain ⟨after, hafter⟩ := hstarts
        have hoccurs : mark <:+: c :: s := ⟨[], after, hafter⟩
        rw [← hafter, breakAt_mark_append, hafter]
        simp [hoccurs]
      · rw [breakAt_cons hstarts, Option.map_eq_none_iff, ih, List.infix_cons_iff]
        simp [hstarts]

theorem append_dropLast_starts (t mark rest : List Char) :
    t ++ mark.dropLast <+: t ++ (mark ++ rest) := by
  have hmark : mark.dropLast <+: mark ++ rest :=
    (List.dropLast_prefix mark).trans (List.prefix_append mark rest)
  exact (List.prefix_append_right_inj t).2 hmark

/-- The mark is too long to begin in a text and end after the mark that follows. -/
theorem Unmarked.not_starts {c : Char} (h : Unmarked mark (c :: t)) (rest : List Char) :
    ¬ mark <+: c :: (t ++ (mark ++ rest)) := by
  intro hstarts
  apply h
  apply List.IsPrefix.isInfix
  apply List.prefix_of_prefix_length_le hstarts
  · exact append_dropLast_starts (c :: t) mark rest
  · simp only [List.length_append, List.length_cons, List.length_dropLast]
    omega

theorem Unmarked.tail {c : Char} (h : Unmarked mark (c :: t)) : Unmarked mark t := by
  intro hoccurs
  exact h (List.infix_cons_iff.2 (Or.inr hoccurs))

theorem Unmarked.breakAt_append (h : Unmarked mark t) (rest : List Char) :
    breakAt mark (t ++ (mark ++ rest)) = some (t, rest) := by
  induction t with
  | nil => exact breakAt_mark_append mark rest
  | cons c t ih =>
      rw [List.cons_append, breakAt_cons (h.not_starts rest), ih h.tail]
      rfl

theorem Unmarked.breakAt_eq_none (h : Unmarked mark t) : breakAt mark t = none := by
  rw [breakAt_eq_none_iff]
  intro hoccurs
  exact h (hoccurs.trans (List.prefix_append t mark.dropLast).isInfix)

theorem unmarked_of_breakAt (hmark : mark ≠ []) (h : breakAt mark s = some (before, after)) :
    Unmarked mark before := by
  intro hoccurs
  induction s generalizing before with
  | nil =>
      have hsplit := eq_append_of_breakAt h
      simp [hmark] at hsplit
  | cons c s ih =>
      by_cases hstarts : mark <+: c :: s
      · obtain ⟨after', hafter⟩ := hstarts
        rw [← hafter, breakAt_mark_append] at h
        obtain ⟨rfl, -⟩ := Prod.mk.inj (Option.some.inj h)
        have hlength := hoccurs.length_le
        have hpos := List.length_pos_iff.2 hmark
        simp only [List.nil_append, List.length_dropLast] at hlength
        omega
      · rw [breakAt_cons hstarts] at h
        obtain ⟨⟨b, a⟩, hbreak, hpair⟩ := Option.map_eq_some_iff.1 h
        obtain ⟨rfl, rfl⟩ := Prod.mk.inj hpair
        rcases List.infix_cons_iff.1 hoccurs with hhere | hlater
        · apply hstarts
          rw [eq_append_of_breakAt hbreak, List.append_assoc]
          exact hhere.trans (append_dropLast_starts (c :: b) mark a)
        · exact ih hbreak hlater

/-! ## Texts that are unmarked -/

/-- An occurrence would begin with the first character of the mark. -/
theorem unmarked_of_head_notMem {m : Char} (h : m ∉ t) : Unmarked (m :: mark) t := by
  intro hoccurs
  obtain ⟨x, y, hxy⟩ := hoccurs
  have hlength : x.length < t.length := by
    have hlengths := congrArg List.length hxy
    simp only [List.length_append, List.length_cons, List.length_dropLast] at hlengths
    omega
  have hat : t[x.length]? = some m := by
    have hmark : (t ++ (m :: mark).dropLast)[x.length]? = some m := by
      simp [← hxy]
    rw [List.getElem?_append_left hlength] at hmark
    exact hmark
  exact h (List.mem_of_getElem? hat)

theorem unmarked_double {m : Char} (hdouble : ¬ [m, m] <:+: t) (hlast : t.getLast? ≠ some m) :
    Unmarked [m, m] t := by
  intro hoccurs
  rcases List.infix_concat_iff.1 hoccurs with hsuffix | hinside
  · rcases List.suffix_concat_iff.1 hsuffix with hnil | ⟨u, hu, hsuffix⟩
    · simp at hnil
    · have hconcat : [m] ++ [m] = u ++ [m] := hu
      obtain rfl : [m] = u := List.append_cancel_right hconcat
      obtain ⟨x, rfl⟩ := hsuffix
      simp at hlast
  · exact hdouble hinside

end Mustache
