import Mustache.Proofs.Source.ClosingTags
import Mustache.Proofs.Source.Positions

/-!
# Compilation errors point at a tag

Compilation follows the tokens from left to right and stops at the first tag that is at
fault.  So whatever is in front of that tag can be compiled, but for sections that are not
closed there, and the error carries the line of the tag.

If no tag is at fault but a section stays open, the error points at the opening tag of the
innermost one.  Behind it only sections follow that are opened and closed again, which is
the invariant of the open sections: tokens are added to the innermost one, until its closing
tag makes it a part of what follows the next one.
-/

namespace Mustache

/-! ## Open sections -/

/-- Each section that is opened in the tokens is closed there as well, and no other is. -/
inductive Balanced : List Token → Prop where
  | nil : Balanced []
  | text {content : List Char} {rest : List Token} :
      Balanced rest → Balanced (.text content :: rest)
  | leaf {line : Nat} {raw : List Char} {directive : Directive} {rest : List Token} :
      directive.leaf?.isSome → Balanced rest → Balanced (.tag line raw directive :: rest)
  | enclosed {line line' : Nat} {raw raw' name : List Char} {inverted : Bool} {e : Expr}
      {body rest : List Token} :
      Balanced body → Balanced rest →
        Balanced (.tag line raw (.openSection inverted e) ::
          (body ++ .tag line' raw' (.closeSection name) :: rest))

theorem Balanced.append {earlier later : List Token} (h : Balanced earlier)
    (hlater : Balanced later) : Balanced (earlier ++ later) := by
  induction h with
  | nil => exact hlater
  | text _ ih => exact .text ih
  | leaf hleaf _ ih => exact .leaf hleaf ih
  | enclosed hbody _ _ ih =>
      rw [List.cons_append, List.append_assoc, List.cons_append]
      exact .enclosed hbody ih

/-- The sections that are still open behind the tokens, innermost first. -/
inductive LeavesOpen : List Token → List OpenSection → Prop where
  | none {tokens : List Token} : Balanced tokens → LeavesOpen tokens []
  | inside {earlier later : List Token} {o : OpenSection} {rest : List OpenSection} :
      LeavesOpen earlier rest → Balanced later →
        LeavesOpen (earlier ++ .tag o.line o.openTag (.openSection o.inverted o.expr) :: later)
          (o :: rest)

namespace LeavesOpen

variable {tokens later : List Token} {opened : List OpenSection} {b b' : Builder}

theorem append (h : LeavesOpen tokens opened) (hlater : Balanced later) :
    LeavesOpen (tokens ++ later) opened := by
  cases h with
  | none htokens => exact .none (htokens.append hlater)
  | inside houter hinner =>
      rw [List.append_assoc, List.cons_append]
      exact .inside houter (hinner.append hlater)

theorem close {o : OpenSection} (h : LeavesOpen tokens (o :: opened)) (line : Nat)
    (raw name : List Char) :
    LeavesOpen (tokens ++ [.tag line raw (.closeSection name)]) opened := by
  cases h with
  | inside houter hinner =>
      rw [List.append_assoc, List.cons_append]
      exact houter.append (.enclosed hinner .nil)

theorem step {token : Token} (h : LeavesOpen tokens b.opened) (hstep : b.step token = .ok b') :
    LeavesOpen (tokens ++ [token]) b'.opened := by
  cases token with
  | text content =>
      rw [Builder.step_text] at hstep
      obtain rfl := Except.ok.inj hstep
      exact h.append (.text .nil)
  | tag line raw directive =>
      change b.follow line raw directive = .ok b' at hstep
      cases hleaf : directive.leaf? with
      | some found =>
          obtain ⟨level, -, -, hfollow⟩ := b.follow_of_leaf hleaf line raw
          rw [hfollow] at hstep
          obtain rfl := Except.ok.inj hstep
          exact h.append (.leaf (Option.isSome_of_eq_some hleaf) .nil)
      | none =>
          cases directive with
          | comment | pragma | delimiters | variableTag | partialTag => exact nomatch hleaf
          | faulty err => exact nomatch hstep
          | openSection inverted e =>
              obtain rfl := Except.ok.inj hstep
              let o : OpenSection :=
                { inverted, expr := e, line, openTag := raw, outer := b.level }
              exact .inside (o := o) h .nil
          | closeSection name =>
              obtain ⟨o, rest, hopened, -, rfl⟩ := Builder.closed_of_follow hstep
              rw [hopened] at h
              exact h.close line raw name

theorem run (h : LeavesOpen tokens b.opened) (hrun : later.foldlM Builder.step b = .ok b') :
    LeavesOpen (tokens ++ later) b'.opened := by
  induction later generalizing tokens b with
  | nil =>
      obtain rfl := Except.ok.inj hrun
      rw [List.append_nil]
      exact h
  | cons token later ih =>
      rw [List.foldlM_cons] at hrun
      cases hstep : b.step token with
      | error err =>
          rw [hstep] at hrun
          exact nomatch hrun
      | ok next =>
          rw [hstep] at hrun
          have hnext := ih (h.step hstep) hrun
          rw [List.append_assoc] at hnext
          exact hnext

/-- Behind the opening tag of the innermost open section, all is closed that is opened. -/
theorem exists_innermost {o : OpenSection} {rest : List OpenSection}
    (h : LeavesOpen tokens opened) (hopened : opened = o :: rest) :
    ∃ earlier later,
      tokens = earlier ++ .tag o.line o.openTag (.openSection o.inverted o.expr) :: later ∧
        Balanced later := by
  cases h with
  | none _ => exact nomatch hopened
  | inside _ hinner =>
      obtain ⟨rfl, -⟩ := List.cons.inj hopened
      exact ⟨_, _, rfl, hinner⟩

end LeavesOpen

/-! ## Where compilation fails -/

namespace Builder

variable {b : Builder} {err : CompileError}

/-- What follows the first token at fault is not looked at. -/
theorem exists_fault {tokens : List Token} (h : tokens.foldlM Builder.step b = .error err) :
    ∃ earlier token later b', tokens = earlier ++ token :: later ∧
      earlier.foldlM Builder.step b = .ok b' ∧ b'.step token = .error err := by
  induction tokens generalizing b with
  | nil => exact nomatch h
  | cons token tokens ih =>
      rw [List.foldlM_cons] at h
      cases hstep : b.step token with
      | error err' =>
          rw [hstep] at h
          obtain rfl := Except.error.inj h
          exact ⟨[], token, tokens, b, rfl, rfl, hstep⟩
      | ok next =>
          rw [hstep] at h
          obtain ⟨earlier, token', later, b', rfl, hearlier, hfault⟩ := ih h
          refine ⟨token :: earlier, token', later, b', rfl, ?_, hfault⟩
          rw [List.foldlM_cons, hstep]
          exact hearlier

theorem exists_of_append {earlier later : List Token} {b' : Builder}
    (h : (earlier ++ later).foldlM Builder.step b = .ok b') :
    ∃ next, earlier.foldlM Builder.step b = .ok next := by
  rw [List.foldlM_append] at h
  cases hearlier : earlier.foldlM Builder.step b with
  | ok next => exact ⟨next, rfl⟩
  | error err =>
      rw [hearlier] at h
      exact nomatch h

theorem finish_eq_error (h : b.finish = .error err) :
    ∃ o rest, b.opened = o :: rest ∧ err = .unclosedSection o.expr.text o.line := by
  unfold finish at h
  cases hopened : b.opened with
  | nil => simp [hopened] at h
  | cons o rest =>
      rw [hopened] at h
      exact ⟨o, rest, rfl, (Except.error.inj h).symm⟩

theorem ofTag_of_accepts {o : OpenSection} {line : Nat} {name : List Char}
    (h : o.accepts line name = .error err) : err.OfTag line := by
  unfold OpenSection.accepts at h
  by_cases hname : name = []
  · rw [if_pos hname] at h
    exact nomatch h
  · rw [if_neg hname] at h
    rcases Expr.parse_onLines line line name with ⟨e, he, -⟩ | ⟨err', herr', he, -⟩
    · rw [he] at h
      by_cases htext : e.text = o.expr.text
      · simp [bind, Except.bind, htext] at h
      · simp only [bind, Except.bind, htext, if_false] at h
        obtain rfl := Except.error.inj h
        exact ⟨rfl, by simp⟩
    · rw [he] at h
      obtain rfl := Except.error.inj h
      exact herr'

/-- If a directive cannot be followed, then the error is one of its tag. -/
theorem ofTag_of_follow {line : Nat} {raw : List Char} {directive : Directive}
    (hfaulty : ∀ err', directive = .faulty err' → err'.OfTag line)
    (h : b.follow line raw directive = .error err) : err.OfTag line := by
  cases directive with
  | comment | pragma | delimiters | variableTag | partialTag | openSection => exact nomatch h
  | faulty err' =>
      obtain rfl := Except.error.inj h
      exact hfaulty err' rfl
  | closeSection name =>
      unfold follow at h
      cases hopened : b.opened with
      | nil =>
          simp only [hopened] at h
          obtain rfl := Except.error.inj h
          exact ⟨rfl, by simp⟩
      | cons o rest =>
          simp only [hopened] at h
          cases haccepts : o.accepts line name with
          | ok =>
              rw [haccepts] at h
              exact nomatch h
          | error err' =>
              rw [haccepts] at h
              obtain rfl := Except.error.inj h
              exact ofTag_of_accepts haccepts

end Builder

section Compiling

variable {source : String} {err : CompileError}

theorem compile_eq_fold (source : String) :
    compile source =
      (Token.scan .standard 1 source.toList).foldlM Builder.step {} >>= Builder.finish := rfl

/-- A source whose tokens can all be followed compiles, or else sections are left open. -/
theorem compile_of_fold {b : Builder}
    (h : (Token.scan .standard 1 source.toList).foldlM Builder.step {} = .ok b) :
    compile source = b.finish := by
  rw [compile_eq_fold, h]
  rfl

def errorOf? : Except CompileError Compiled → Option CompileError
  | .ok _ => none
  | .error err => some err

theorem eq_error_of_errorOf? {result : Except CompileError Compiled}
    (h : errorOf? result = some err) : result = .error err := by
  cases result with
  | ok compiled => exact nomatch h
  | error err' => exact congrArg Except.error (Option.some.inj h)

/-- Nothing is at fault in the source, except that sections may be left open. -/
def SoundSoFar (source : String) : Prop :=
  (∃ compiled, compile source = .ok compiled) ∨
    ∃ name line, compile source = .error (.unclosedSection name line)

theorem soundSoFar_of_fold {b : Builder}
    (h : (Token.scan .standard 1 source.toList).foldlM Builder.step {} = .ok b) :
    SoundSoFar source := by
  rw [SoundSoFar, compile_of_fold h]
  cases hfinish : b.finish with
  | ok compiled => exact .inl ⟨compiled, rfl⟩
  | error err =>
      obtain ⟨o, rest, -, rfl⟩ := Builder.finish_eq_error hfinish
      exact .inr ⟨_, _, rfl⟩

end Compiling

/-! ## Errors point at a tag -/

/-- A tag of a source stands behind a text, between whose delimiters it is written. -/
theorem Token.exists_text_before {source : String} {earlier later : List Token} {line : Nat}
    {raw : List Char} {directive : Directive}
    (h : Token.scan .standard 1 source.toList = earlier ++ .tag line raw directive :: later) :
    ∃ a b : String, source = a ++ b ∧ raw <+: b.toList ∧
      (Delimiters.behind a.toList).opener <+: raw ∧
      Token.scan .standard 1 a.toList = earlier ∧ line = 1 + a.toList.count '\n' := by
  have hcut := Token.scan_cut h
  have hloss := Token.flatMap_raw_scan .standard 1 source.toList
  rw [h, List.flatMap_append, List.flatMap_cons] at hloss
  refine ⟨.ofList (earlier.flatMap Token.raw), .ofList (raw ++ later.flatMap Token.raw), ?_, ?_,
    ?_, ?_, ?_⟩
  · rw [← String.ofList_append]
    exact (String.ofList_toList ▸ congrArg String.ofList hloss).symm
  · rw [String.toList_ofList]
    exact List.prefix_append _ _
  · rw [String.toList_ofList, Delimiters.behind, hcut]
    exact (Token.found_of_scan h).opener_starts
  · rw [String.toList_ofList, hcut]
  · rw [String.toList_ofList]
    exact Token.line_of_scan h

/-- An error points at a tag, behind the text `a`: in front of it all tags are sound, and its
line is that of the tag.  Unless sections are left open, it is the first tag that cannot be
followed.  Otherwise it is the opening tag of the innermost open section, because all other
sections that are opened behind it are closed again. -/
theorem compile_error_located {source : String} {err : CompileError}
    (h : compile source = .error err) :
    ∃ (a b : String) (raw : List Char) (directive : Directive) (later : List Token),
      source = a ++ b ∧ raw <+: b.toList ∧ (Delimiters.behind a.toList).opener <+: raw ∧
      Token.scan .standard 1 source.toList =
        Token.scan .standard 1 a.toList ++ .tag err.line raw directive :: later ∧
      SoundSoFar a ∧ err.line = 1 + a.toList.count '\n' ∧
      ((∀ name line, err ≠ .unclosedSection name line) →
        ∃ builder, (Token.scan .standard 1 a.toList).foldlM Builder.step {} = .ok builder ∧
          builder.follow err.line raw directive = .error err) ∧
      ∀ name line, err = .unclosedSection name line →
        ∃ inverted e, directive = .openSection inverted e ∧ name = e.text ∧ Balanced later := by
  cases hfold : (Token.scan .standard 1 source.toList).foldlM Builder.step {} with
  | error err' =>
      obtain rfl : err' = err := by
        rw [compile_eq_fold, hfold] at h
        exact Except.error.inj h
      obtain ⟨earlier, token, later, builder, hscan, hearlier, hfault⟩ :=
        Builder.exists_fault hfold
      cases token with
      | text content =>
          rw [Builder.step_text] at hfault
          exact nomatch hfault
      | tag line raw directive =>
          have herr : err'.OfTag line :=
            Builder.ofTag_of_follow (fun _ hfaulty =>
              (hfaulty ▸ Token.found_of_scan hscan).ofTag_of_faulty) hfault
          obtain ⟨a, b, hsource, hraw, hopener, rfl, hline⟩ := Token.exists_text_before hscan
          obtain rfl := herr.line_eq
          refine ⟨a, b, raw, directive, later, hsource, hraw, hopener, hscan,
            soundSoFar_of_fold hearlier, hline, fun _ => ⟨builder, hearlier, hfault⟩, ?_⟩
          intro name line hunclosed
          exact absurd hunclosed (herr.not_unclosedSection name line)
  | ok builder =>
      rw [compile_of_fold hfold] at h
      obtain ⟨o, rest, hopened, rfl⟩ := Builder.finish_eq_error h
      have hopen : LeavesOpen ([] ++ Token.scan .standard 1 source.toList) builder.opened :=
        LeavesOpen.run (.none .nil) hfold
      obtain ⟨earlier, later, hscan, hlater⟩ := hopen.exists_innermost hopened
      rw [List.nil_append] at hscan
      obtain ⟨a, b, hsource, hraw, hopener, rfl, hline⟩ := Token.exists_text_before hscan
      obtain ⟨builder', hearlier⟩ := Builder.exists_of_append (hscan ▸ hfold)
      refine ⟨a, b, o.openTag, _, later, hsource, hraw, hopener, hscan,
        soundSoFar_of_fold hearlier, hline, fun hother => absurd rfl (hother _ _), ?_⟩
      rintro name line hunclosed
      obtain ⟨rfl, -⟩ := CompileError.unclosedSection.inj hunclosed
      exact ⟨o.inverted, o.expr, rfl, rfl, hlater⟩

/-- Tags that span lines, other delimiters, and a section between two that stay open. -/
theorem compile_error_located_behind_lines :
    let faulty := "\x7b\x7b! x\ny \x7d\x7d{{=<% %>=}}\n<%#s%>\n<%/t%>"
    let left := "{{#a}}\n\x7b\x7b#b\n\x7d\x7d{{#c}}\n{{/}}"
    compile faulty = .error (.mismatchedClose "s" "t" 4) ∧
      compile left = .error (.unclosedSection "b" 2) ∧
      (∃ a b : String, faulty = a ++ b ∧ (Delimiters.behind a.toList).opener <+: b.toList ∧
        SoundSoFar a ∧ a.toList.count '\n' = 3) ∧
      ∃ a b raw inverted e later, left = a ++ b ∧ raw <+: b.toList ∧
        Token.scan .standard 1 left.toList =
          Token.scan .standard 1 a.toList ++ .tag 2 raw (.openSection inverted e) :: later ∧
        "b" = e.text ∧ Balanced later ∧ a.toList.count '\n' = 1 := by
  intro faulty left
  have hfaulty : compile faulty = .error (.mismatchedClose "s" "t" 4) :=
    eq_error_of_errorOf? (by decide +kernel)
  have hleft : compile left = .error (.unclosedSection "b" 2) :=
    eq_error_of_errorOf? (by decide +kernel)
  refine ⟨hfaulty, hleft, ?_, ?_⟩
  · obtain ⟨a, b, raw, _, _, hsource, hraw, hopener, -, hsound, hline, -, -⟩ :=
      compile_error_located hfaulty
    exact ⟨a, b, hsource, hopener.trans hraw, hsound, (Nat.add_left_cancel hline).symm⟩
  · obtain ⟨a, b, raw, _, later, hsource, hraw, -, hscan, -, hline, -, hopen⟩ :=
      compile_error_located hleft
    obtain ⟨inverted, e, rfl, he, hlater⟩ := hopen "b" 2 rfl
    exact ⟨a, b, raw, inverted, e, later, hsource, hraw, hscan, he, hlater,
      (Nat.add_left_cancel hline).symm⟩

end Mustache
