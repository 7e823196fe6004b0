import Mustache.Proofs.Expr.Descent
import Mustache.Proofs.Source.Printing
import Mustache.Proofs.Source.Turns

/-!
# Progress of the scanning loop

Every turn that finds a tag begins the next one further on, or else the source is rejected, so
the bytes that are left bound the number of turns, and the loop comes to the same end as
compilation.  The same is said of the calls by which the expression of a tag is read: they have
ever less of it to read.
-/

namespace Mustache

open Mustache.Text
open String (utf8Len)

namespace Cursor

variable {c : Cursor} {b : Builder} {d : Delimiters} {source : String} {line : Nat}
  {rest : List Char}

/-- What holds of a turn: its delimiters and slices are sound, lines are never counted twice,
and if it finds a tag then it rejects the source or moves on within it. -/
structure Progresses (c : Cursor) (source : String) : Prop where
  opener_ne_nil : c.opener ≠ []
  closer_ne_nil : c.closer ≠ []
  in_range : c.turn source ≠ .error .outOfRange
  counted_le : ∀ tagStart, c.tagStart? source = .ok (some tagStart) → c.counted ≤ tagStart
  moves : ∀ tagStart, c.tagStart? source = .ok (some tagStart) →
    (∃ err, c.turn source = .error (.rejected err)) ∨
      ∃ c', c.turn source = .ok (.next c') ∧ c.pos < c'.pos ∧ c'.pos ≤ source.utf8ByteSize

theorem at_start (source : String) : ({} : Cursor).At source {} .standard 1 source.toList where
  holds := ⟨rfl, rfl, rfl, rfl, rfl⟩
  source_eq := rfl
  pos_eq := rfl
  exists_counted := ⟨[], [], rfl, rfl, rfl⟩

theorem Reached.exists_at (h : Reached source c) : ∃ b d line rest, c.At source b d line rest := by
  induction h with
  | start => exact ⟨_, _, _, _, at_start source⟩
  | next _ hturn ih =>
      obtain ⟨b, d, line, rest, hat⟩ := ih
      rcases hat.turn_cases with hend | ⟨c', b', d', line', rest', hnext, hat', -, -⟩
      · rw [hturn] at hend
        cases hresult : b.complete d line rest <;> rw [hresult] at hend <;> cases hend
      · rw [hturn] at hnext
        obtain rfl := Turn.next.inj (Except.ok.inj hnext)
        exact ⟨b', d', line', rest', hat'⟩

/-- Turns suffice that are as many as the bytes that are left, whatever is assumed of turns
after these. -/
theorem At.iterate_loop (h : c.At source b d line rest) (again : Cursor → Except Stop Compiled)
    {n : Nat} (hn : utf8Len rest < n) :
    (loop source)^[n] again c = rejecting (b.complete d line rest) := by
  induction n generalizing c b d line rest with
  | zero => exact absurd hn (Nat.not_lt_zero _)
  | succ n ih =>
      rw [Function.iterate_succ_apply', loop]
      rcases h.turn_cases with hend | ⟨c', b', d', line', rest', hnext, hat', hcomplete, hlt⟩
      · rw [hend]
        cases b.complete d line rest <;> rfl
      · rw [hnext, ← hcomplete]
        exact ih hat' (Nat.lt_of_lt_of_le hlt (Nat.le_of_lt_succ hn))

theorem At.counted_le (h : c.At source b d line rest) : c.counted ≤ c.pos := by
  obtain ⟨counted, passed, hconsumed, hcounted, -⟩ := h.exists_counted
  rw [hcounted, h.pos_eq, hconsumed, String.utf8Len_append]
  exact Nat.le_add_right _ _

theorem At.pos_add (h : c.At source b d line rest) :
    c.pos + utf8Len rest = source.utf8ByteSize := by
  rw [h.pos_eq, utf8ByteSize_eq h.source_eq]

theorem At.progresses (h : c.At source b d line rest) : c.Progresses source where
  opener_ne_nil := h.holds.opener_eq ▸ d.opener_ne_nil
  closer_ne_nil := h.holds.closer_eq ▸ d.closer_ne_nil
  in_range := by
    rcases h.turn_cases with hend | ⟨c', b', d', line', rest', hnext, -, -, -⟩
    · rw [hend]
      cases b.complete d line rest <;> exact nofun
    · rw [hnext]
      exact nofun
  counted_le := by
    intro tagStart htag
    rw [h.tagStart?_eq] at htag
    obtain ⟨found, -, rfl⟩ := Option.map_eq_some_iff.1 (Except.ok.inj htag)
    exact Nat.le_trans h.counted_le (Nat.le_add_right _ _)
  moves := by
    intro tagStart htag
    rcases h.turn_cases with hend | ⟨c', b', d', line', rest', hnext, hat, -, hlt⟩
    · cases hresult : b.complete d line rest with
      | error err =>
          left
          exact ⟨err, by rw [hend, hresult]; rfl⟩
      | ok compiled =>
          rw [turn, htag, hresult] at hend
          change Turn.next <$> c.textAndTag source tagStart = _ at hend
          cases htext : c.textAndTag source tagStart <;> rw [htext] at hend <;> cases hend
    · have hpos := h.pos_add
      have hpos' := hat.pos_add
      exact .inr ⟨c', hnext, by omega, by omega⟩

end Cursor

theorem ne_nil_of_readMarks? {s opener closer : List Char}
    (h : readMarks? s = some (opener, closer)) : opener ≠ [] ∧ closer ≠ [] := by
  rw [readMarks?_eq] at h
  obtain ⟨d, -, hpair⟩ := Option.map_eq_some_iff.1 h
  obtain ⟨rfl, rfl⟩ := Prod.mk.inj hpair
  exact ⟨d.opener_ne_nil, d.closer_ne_nil⟩

/-- Marks that a tag sets are never empty, and every turn of the loop is sound and moves on.  So
the loop ends after at most as many turns as the source has bytes and one more, with what the
source compiles to, and reading an expression, whose calls have ever less to read, ends too. -/
theorem compile_progress (source : String) :
    (∀ s opener closer, readMarks? s = some (opener, closer) → opener ≠ [] ∧ closer ≠ []) ∧
    (∀ c, Cursor.Reached source c → c.Progresses source) ∧
    (∀ n again, source.utf8ByteSize < n →
      (Cursor.loop source)^[n] again {} = rejecting (compile source)) ∧
    (∀ (call : Expr.Descent) again,
      (∀ inner : Expr.Descent, inner.remainder.length < call.remainder.length →
        again inner = inner.answer) →
      Expr.descend again call = call.answer) ∧
    (∀ line text n again, text.length < n →
      Expr.parseWith (Expr.descend^[n] again) line text = rejecting (Expr.parse line text)) := by
  refine ⟨fun _ _ _ => ne_nil_of_readMarks?, ?_, ?_, ?_, ?_⟩
  · intro c hreached
    obtain ⟨b, d, line, rest, hat⟩ := hreached.exists_at
    exact hat.progresses
  · intro n again hn
    have hstart := Cursor.at_start source
    have hsize := hstart.pos_add
    rw [hstart.iterate_loop again (by omega)]
    rfl
  · intro call again hinner
    exact Expr.descend_eq_answer call hinner
  · intro line text n again hn
    exact Expr.parseWith_iterate line text hn

/-- Where the next turn begins. -/
def Turn.next? : Turn → Option Cursor
  | .next c => some c
  | .finished _ => none

theorem Turn.eq_next {r : Except Stop Turn} {c : Cursor} (h : r.toOption.bind next? = some c) :
    r = .ok (.next c) := by
  cases r with
  | error stop => cases h
  | ok turn =>
      cases turn with
      | next c' => rw [Option.some.inj h]
      | finished compiled => cases h

/-- The marks change once, and the turn behind the change goes by the new ones. -/
theorem compile_progress_wide_marks :
    let source := "é\x7b\x7b=→ ←=\x7d\x7d→a"
    compile source = .error (.unclosedTag 1) ∧
      (Cursor.loop source)^[20] (fun _ => .error .outOfRange) {} =
        .error (.rejected (.unclosedTag 1)) ∧
      ({} : Cursor).Progresses source ∧
      ∃ c, ({} : Cursor).turn source = .ok (.next c) ∧
        (c.opener, c.closer, c.pos) = (['→'], ['←'], 15) ∧ c.Progresses source := by
  intro source
  let d : Delimiters := ⟨['→'], ['←'], by decide, by decide⟩
  have hplain : ∀ c ∈ d.opener ++ d.closer, isBlank c = false ∧ c ∉ ['=', '{', '}'] := by
    simp only [d, List.cons_append, List.nil_append, List.forall_mem_cons, List.not_mem_nil,
      false_implies, implies_true]
    decide
  have hhead : ∀ m, d.closer.head? = some m → m ∉ ['#', '^', '/', '&', '>'] := by
    intro m hm
    obtain rfl : '←' = m := Option.some.inj hm
    decide
  have hd : d.Settable := ⟨hplain, hhead⟩
  have hcompile : compile source = .error (.unclosedTag 1) := by
    have hsource : source.toList =
        ['é'] ++ ((TagContent.plain d.setting).raw .standard ++ ['→', 'a']) := by decide
    have htext : Unmarked Delimiters.standard.opener ['é'] := unmarked_of_head_notMem (by decide)
    have hopen : breakAt d.opener ['→', 'a'] = some ([], ['a']) := rfl
    have hread : TagContent.read? d ['a'] = none := rfl
    calc compile source
        = ({} : Builder).complete .standard 1 source.toList := rfl
      _ = .error (.unclosedTag 1) := by
          rw [hsource, Builder.complete_text htext (TagContent.boundary_raw _ _ _),
            Builder.complete_tag (Delimiters.closed_setting hd), Delimiters.means_setting hd]
          exact Builder.complete_of_unclosed hopen hread
  obtain ⟨-, hturns, hloop, -, -⟩ := compile_progress source
  have hrun := hloop 20 (fun _ => .error .outOfRange) (by decide)
  rw [hcompile] at hrun
  have hbehind : (((({} : Cursor).turn source).toOption.bind Turn.next?).map
      fun c => (c.opener, c.closer, c.pos)) = some (['→'], ['←'], 15) := by decide +kernel
  obtain ⟨c, hnext, hplace⟩ := Option.map_eq_some_iff.1 hbehind
  have hturn : ({} : Cursor).turn source = .ok (.next c) := Turn.eq_next hnext
  exact ⟨hcompile, hrun, hturns {} .start, c, hturn, hplace, hturns c (.next .start hturn)⟩

end Mustache
