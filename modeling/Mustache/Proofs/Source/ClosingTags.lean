import Mustache.Proofs.Expr.Spacing
import Mustache.Proofs.Source.Printing

/-!
# Closing tags

A closing tag with a name is compared with the text of the section that it closes.  Both
come from expressions that were read, so that the comparison of texts is one of the
expressions themselves.
-/

namespace Mustache

/-! ## Expressions of tags -/

def Directive.WellFormed : Directive → Prop
  | .variableTag e _ | .openSection _ e => e.WellFormed
  | _ => True

theorem Directive.wellFormed_ofExpr (line : Nat) (s : List Char) {build : Expr → Directive}
    (hbuild : ∀ e, e.WellFormed → (build e).WellFormed) : (ofExpr line s build).WellFormed := by
  unfold ofExpr
  split
  · next e hparse => exact hbuild e (Expr.wellFormed_of_parse hparse)
  · trivial

theorem Directive.wellFormed_ofContent (line : Nat) (content : List Char) :
    (ofContent line content).WellFormed := by
  unfold ofContent
  split
  · trivial
  · simp only
    split
    · trivial
    · split <;> trivial
    · trivial
    · exact wellFormed_ofExpr line _ fun _ he => he
    · split <;> trivial
    · exact wellFormed_ofExpr line _ fun _ he => he
    · exact wellFormed_ofExpr line _ fun _ he => he
    · trivial
    · exact wellFormed_ofExpr line _ fun _ he => he

theorem TagContent.wellFormed_directive (line : Nat) (tag : TagContent) :
    (tag.directive line).WellFormed := by
  cases tag with
  | plain content => exact Directive.wellFormed_ofContent line content
  | braced content => exact Directive.wellFormed_ofExpr line content fun _ he => he

theorem Token.wellFormed_of_mem_scan {d : Delimiters} {line line' : Nat} {s raw : List Char}
    {directive : Directive} (h : .tag line' raw directive ∈ scan d line s) :
    directive.WellFormed := by
  fun_induction scan d line s with
  | case1 => cases List.mem_singleton.1 h
  | case2 d line s before after _ tagLine _ =>
      rcases List.mem_cons.1 h with htext | h
      · cases htext
      · obtain ⟨-, -, rfl⟩ := Token.tag.inj (List.mem_singleton.1 h)
        trivial
  | case3 d line s before after _ tagLine found rest _ directive' ih =>
      rcases List.mem_cons.1 h with htext | h
      · cases htext
      · rcases List.mem_cons.1 h with htag | h
        · obtain ⟨-, -, rfl⟩ := Token.tag.inj htag
          exact found.wellFormed_directive tagLine
        · exact ih h

/-! ## Open sections -/

namespace Builder

def OpenedWellFormed (b : Builder) : Prop :=
  ∀ o ∈ b.opened, o.expr.WellFormed

/-- A tag leaves the open sections alone, opens one or closes the innermost one. -/
theorem opened_of_follow {b b' : Builder} {line : Nat} {raw : List Char}
    {directive : Directive} (h : b.follow line raw directive = .ok b') :
    b'.opened = b.opened ∨
      (∃ o, b'.opened = o :: b.opened ∧ directive = .openSection o.inverted o.expr) ∨
      ∃ o, b.opened = o :: b'.opened := by
  cases hleaf : directive.leaf? with
  | some found =>
      obtain ⟨level, -, -, hfollow⟩ := b.follow_of_leaf hleaf line raw
      rw [hfollow] at h
      obtain rfl := Except.ok.inj h
      exact .inl rfl
  | none =>
      cases directive with
      | comment | pragma | delimiters | variableTag | partialTag => exact nomatch hleaf
      | faulty err => exact nomatch h
      | openSection inverted e =>
          obtain rfl := Except.ok.inj h
          exact .inr (.inl ⟨_, rfl, rfl⟩)
      | closeSection name =>
          obtain ⟨o, rest, hopened, -, rfl⟩ := closed_of_follow h
          exact .inr (.inr ⟨o, hopened⟩)

theorem OpenedWellFormed.step {b b' : Builder} {token : Token} (hb : b.OpenedWellFormed)
    (htoken : ∀ line raw directive, token = .tag line raw directive → directive.WellFormed)
    (h : b.step token = .ok b') : b'.OpenedWellFormed := by
  cases token with
  | text content =>
      rw [step_text] at h
      obtain rfl := Except.ok.inj h
      exact hb
  | tag line raw directive =>
      have hdirective := htoken line raw directive rfl
      intro o ho
      rcases opened_of_follow h with hsame | ⟨o', hopened, rfl⟩ | ⟨o', hclosed⟩
      · rw [hsame] at ho
        exact hb o ho
      · rw [hopened] at ho
        rcases List.mem_cons.1 ho with rfl | ho
        · exact hdirective
        · exact hb o ho
      · apply hb o
        rw [hclosed]
        exact List.mem_cons_of_mem o' ho

theorem OpenedWellFormed.run {b b' : Builder} {tokens : List Token} (hb : b.OpenedWellFormed)
    (htokens : ∀ line raw directive, .tag line raw directive ∈ tokens → directive.WellFormed)
    (h : tokens.foldlM Builder.step b = .ok b') : b'.OpenedWellFormed := by
  induction tokens generalizing b with
  | nil =>
      obtain rfl := Except.ok.inj h
      exact hb
  | cons token tokens ih =>
      rw [List.foldlM_cons] at h
      cases hstep : b.step token with
      | error e =>
          rw [hstep] at h
          exact nomatch h
      | ok next =>
          rw [hstep] at h
          have hnext : next.OpenedWellFormed := by
            apply hb.step ?_ hstep
            rintro line raw directive rfl
            exact htokens line raw directive List.mem_cons_self
          exact ih hnext (fun line raw directive htag =>
            htokens line raw directive (List.mem_cons_of_mem token htag)) h

end Builder

section Innermost

variable {b : Builder} {o : OpenSection} {rest : List OpenSection} {name : List Char}

theorem OpenSection.accepts_eq_error {e : Expr} {line : Nat} (ho : o.expr.WellFormed)
    (hname : name ≠ []) (hparse : Expr.parse line name = .ok e) (he : e ≠ o.expr) :
    o.accepts line name = .error (.mismatchedClose o.expr.text (String.ofList name) line) := by
  have htext : e.text ≠ o.expr.text := by
    intro hsame
    exact he (Expr.text_injective (Expr.wellFormed_of_parse hparse) ho hsame)
  rw [accepts, if_neg hname, hparse]
  exact if_neg htext

theorem OpenSection.accepts_eq_ok {line : Nat} (hname : name ≠ [])
    (hparse : Expr.parse line name = .ok o.expr) : o.accepts line name = .ok () := by
  rw [accepts, if_neg hname, hparse]
  exact if_pos rfl

theorem OpenSection.accepts_of_faulty {line : Nat} {err : CompileError} (hname : name ≠ [])
    (hparse : Expr.parse line name = .error err) : o.accepts line name = .error err := by
  rw [accepts, if_neg hname, hparse]
  rfl

theorem Builder.step_closeSection (hopened : b.opened = o :: rest) (line : Nat)
    (raw name : List Char) :
    b.step (.tag line raw (.closeSection name)) =
      (o.accepts line name).map fun _ =>
        { b with level := o.close b.level raw, opened := rest } := by
  simp only [step, follow, hopened]
  cases o.accepts line name with
  | error err => rfl
  | ok _ => rfl

end Innermost

section Closing

variable {source : String} {earlier later : List Token} {b : Builder} {o : OpenSection}
  {rest : List OpenSection}

theorem wellFormed_of_innermost
    (hscan : Token.scan .standard 1 source.toList = earlier ++ later)
    (hearlier : earlier.foldlM Builder.step {} = .ok b) (hopened : b.opened = o :: rest) :
    o.expr.WellFormed := by
  have hnone : ({} : Builder).OpenedWellFormed := nofun
  have hb : b.OpenedWellFormed := by
    apply hnone.run ?_ hearlier
    intro line raw directive htag
    have hmem : .tag line raw directive ∈ Token.scan .standard 1 source.toList := by
      rw [hscan]
      exact List.mem_append_left later htag
    exact Token.wellFormed_of_mem_scan hmem
  apply hb o
  rw [hopened]
  exact List.mem_cons_self

theorem compile_of_step_error {token : Token} {err : CompileError}
    (hscan : Token.scan .standard 1 source.toList = earlier ++ token :: later)
    (hearlier : earlier.foldlM Builder.step {} = .ok b) (htoken : b.step token = .error err) :
    compile source = .error err := by
  rw [compile, compileChars, hscan, List.foldlM_append, hearlier]
  simp only [List.foldlM_cons, htoken, bind, Except.bind]

end Closing

/-- An expression is read back from its text, with any blanks that may be written there and
on any line.  So a closing tag with a name is accepted exactly if it names the expression
of the innermost open section. -/
theorem parse_text_closing :
    (∀ e : Expr, e.WellFormed → ∀ (left s right : List Char) (line : Nat),
      Expr.Blanks left → Expr.Spaced e.text.toList s → Expr.Blanks right →
        Expr.parse line (left ++ s ++ right) = .ok e) ∧
    (∀ e e' : Expr, e.WellFormed → e'.WellFormed → e.text = e'.text → e = e') ∧
    ∀ (source : String) (earlier later : List Token) (line : Nat) (raw name : List Char)
      (b : Builder) (o : OpenSection) (rest : List OpenSection),
      Token.scan .standard 1 source.toList =
          earlier ++ .tag line raw (.closeSection name) :: later →
        earlier.foldlM Builder.step {} = .ok b → b.opened = o :: rest → name ≠ [] →
          ((∃ b', b.step (.tag line raw (.closeSection name)) = .ok b') ↔
            Expr.parse line name = .ok o.expr) ∧
          (∀ e, Expr.parse line name = .ok e → e ≠ o.expr →
            compile source =
              .error (.mismatchedClose o.expr.text (String.ofList name) line)) ∧
          ∀ err, Expr.parse line name = .error err → compile source = .error err := by
  refine ⟨?_, ?_, ?_⟩
  · intro e he left s right line hleft hspaced hright
    exact Expr.parse_spaced he hleft hspaced hright line
  · intro e e' he he' htext
    exact Expr.text_injective he he' htext
  · intro source earlier later line raw name b o rest hscan hearlier hopened hname
    have ho := wellFormed_of_innermost hscan hearlier hopened
    have hstep := Builder.step_closeSection hopened line raw name
    refine ⟨⟨?_, ?_⟩, ?_, ?_⟩
    · rintro ⟨b', hb'⟩
      rw [hb'] at hstep
      cases hparse : Expr.parse line name with
      | error err =>
          rw [OpenSection.accepts_of_faulty hname hparse] at hstep
          exact nomatch hstep
      | ok e =>
          by_cases he : e = o.expr
          · rw [he]
          · rw [OpenSection.accepts_eq_error ho hname hparse he] at hstep
            exact nomatch hstep
    · intro hparse
      rw [OpenSection.accepts_eq_ok hname hparse] at hstep
      exact ⟨_, hstep⟩
    · intro e hparse he
      rw [OpenSection.accepts_eq_error ho hname hparse he] at hstep
      exact compile_of_step_error hscan hearlier hstep
    · intro err hparse
      rw [OpenSection.accepts_of_faulty hname hparse] at hstep
      exact compile_of_step_error hscan hearlier hstep

/-- A name does not close what a member of the innermost scope has opened. -/
theorem parse_text_closing_member :
    let e := Expr.call (.name "f") (.member .implicit "a")
    let other := Expr.call (.name "f") (.name "a")
    other.WellFormed ∧ Expr.Spaced other.text.toList "f( a )".toList ∧
      Expr.parse 1 "f( a )".toList = .ok other ∧
      compile "{{#f(.a)}}{{/f( a )}}" = .error (.mismatchedClose e.text "f( a )" 1) := by
  intro e other
  have he : e.WellFormed := by
    simp only [e, Expr.WellFormed]
    decide
  have hother : other.WellFormed := by
    simp only [other, Expr.WellFormed]
    decide
  have hblank : Expr.Blanks [' '] := by decide
  have hspaced : Expr.Spaced ['f', '(', 'a', ')'] ['f', '(', ' ', 'a', ' ', ')'] :=
    .other (by decide) (by decide) (.opening hblank (.other (by decide) (by decide)
      (.closing hblank .nil)))
  have htext : other.text.toList = ['f', '(', 'a', ')'] := by decide
  rw [← htext] at hspaced
  have hparse := parse_text_closing.1 other hother [] _ [] 1 (by decide) hspaced (by decide)
  let opening : TagContent := .plain ('#' :: e.text.toList)
  let closing : TagContent := .plain "/f( a )".toList
  have hopening : opening.Closed .standard :=
    PrintRules.braces_suit.closed_openSection he trivial false
  have hmeans : opening.directive 1 = .openSection false e :=
    TagContent.means_openSection he false 1
  have hclosing : closing.Closed .standard :=
    TagContent.closed_plain (by decide) (unmarked_of_head_notMem (by decide))
  have hsource : "{{#f(.a)}}{{/f( a )}}".toList =
      opening.raw .standard ++ (closing.raw .standard ++ []) := by
    decide
  have hscan : Token.scan .standard 1 "{{#f(.a)}}{{/f( a )}}".toList =
      [.text [], .tag 1 (opening.raw .standard) (.openSection false e), .text []] ++
        .tag 1 (closing.raw .standard) (.closeSection "f( a )".toList) ::
          Token.scan .standard 1 [] := by
    have hrest := Token.scan_tag hclosing 1 []
    have hdirective : closing.directive 1 = .closeSection "f( a )".toList := by rfl
    have hcount : (closing.raw .standard).count '\n' = 0 := by decide
    rw [hdirective, hcount] at hrest
    have hcount' : (opening.raw .standard).count '\n' = 0 := by decide
    rw [hsource, Token.scan_tag hopening, hmeans, hcount']
    exact congrArg (fun tokens => .text [] :: _ :: tokens) hrest
  have hmismatch := (parse_text_closing.2.2 _ _ _ 1 _ _ _ _ _ hscan rfl rfl (by decide)).2.1
    other hparse (by decide)
  exact ⟨hother, hspaced, hparse, hmismatch⟩

end Mustache
