import Mustache.Proofs.Source.Reading

/-!
# Fragments of a source

A fragment is a part of a source in which every section that is opened is also closed.
Reading it adds nodes to the innermost level, whatever tree is under construction and on
whatever line the fragment stands.  Fragments that follow one another make a longer one,
and so does a fragment between the tags of a section.  A whole source is a fragment with
nothing before and after it, so a fragment that is compiled alone yields its nodes.
-/

namespace Mustache

/-- In front of `rest`, the fragment `s` is read from the delimiters `d` to `d'`, adds the
nodes and asks for the content type. -/
def Reads (d d' : Delimiters) (contentType : Option ContentType) (nodes : List Node)
    (s rest : List Char) : Prop :=
  ∀ (b : Builder) (line : Nat), ∃ level : Level,
    level.nodes = nodes.reverse ++ b.level.nodes ∧
    level.source = b.level.source ++ s ∧
    b.complete d line (s ++ rest) =
      ({ contentType := contentType <|> b.contentType, level, opened := b.opened } :
        Builder).complete d' (line + s.count '\n') rest

variable {d d' d'' : Delimiters} {s t rest : List Char} {nodes nodes' : List Node}
  {contentType contentType' : Option ContentType}

theorem Reads.nil : Reads d d none [] [] rest := by
  intro b line
  exact ⟨b.level, by simp, by simp, rfl⟩

theorem Reads.append (hs : Reads d d' contentType nodes s (t ++ rest))
    (ht : Reads d' d'' contentType' nodes' t rest) :
    Reads d d'' (contentType' <|> contentType) (nodes ++ nodes') (s ++ t) rest := by
  intro b line
  obtain ⟨level, hnodes, hsource, hread⟩ := hs b line
  obtain ⟨level', hnodes', hsource', hread'⟩ :=
    ht { contentType := contentType <|> b.contentType, level, opened := b.opened }
      (line + s.count '\n')
  refine ⟨level', ?_, ?_, ?_⟩
  · rw [hnodes', hnodes, List.reverse_append, List.append_assoc]
  · rw [hsource', hsource, List.append_assoc]
  · rw [List.append_assoc, hread, hread', List.count_append, Nat.add_assoc]
    cases contentType' <;> rfl

theorem Reads.compile_eq (h : Reads .standard d' contentType nodes s []) :
    compile (String.ofList s) = .ok { nodes, contentType } := by
  obtain ⟨level, hnodes, -, hread⟩ := h {} 1
  rw [compile_ofList, ← List.append_nil s, hread, Builder.complete_nil]
  simp [Builder.finish, hnodes]

/-! ## Texts -/

def textNodes (t : List Char) : List Node :=
  if t = [] then [] else [.text (String.ofList t)]

theorem Level.nodes_addText (l : Level) (t : List Char) :
    (l.addText t).nodes.reverse = l.nodes.reverse ++ textNodes t := by
  cases t with
  | nil => simp [addText, textNodes]
  | cons c t => simp [addText, push, textNodes]

theorem Reads.text (ht : Unmarked d.opener t) (hrest : d.Boundary rest) :
    Reads d d none (textNodes t) t rest := by
  intro b line
  refine ⟨b.level.addText t, ?_, Level.source_addText b.level t, ?_⟩
  · cases t <;> rfl
  · rw [Builder.complete_text ht hrest]
    rfl

/-! ## Tags without a body -/

/-- What a directive that neither opens nor closes a section adds. -/
def Directive.leaf? : Directive → Option (Option ContentType × List Node)
  | .comment | .delimiters _ => some (none, [])
  | .pragma contentType => some (contentType, [])
  | .variableTag e escapes => some (none, [.variableTag e escapes])
  | .partialTag name => some (none, [.partialTag name])
  | .openSection _ _ | .closeSection _ | .faulty _ => none

theorem Builder.follow_of_leaf {directive : Directive}
    (h : directive.leaf? = some (contentType, nodes)) (b : Builder) (line : Nat)
    (raw : List Char) :
    ∃ level : Level,
      level.nodes = nodes.reverse ++ b.level.nodes ∧
      level.source = b.level.source ++ raw ∧
      b.follow line raw directive =
        .ok { contentType := contentType <|> b.contentType, level, opened := b.opened } := by
  cases directive with
  | openSection inverted e | closeSection name | faulty err => simp [Directive.leaf?] at h
  | comment | pragma | delimiters =>
      obtain ⟨rfl, rfl⟩ := Prod.mk.inj (Option.some.inj h)
      exact ⟨b.level.read raw, rfl, Level.source_read b.level raw, rfl⟩
  | variableTag | partialTag =>
      obtain ⟨rfl, rfl⟩ := Prod.mk.inj (Option.some.inj h)
      exact ⟨b.level.push _ raw, rfl, Level.source_push b.level _ raw, rfl⟩

def TagContent.Means (tag : TagContent) (directive : Directive) : Prop :=
  ∀ line, tag.directive line = directive

theorem Expr.parse_line {line : Nat} {s : List Char} {e : Expr}
    (h : Expr.parse line s = .ok e) (line' : Nat) : Expr.parse line' s = .ok e := by
  unfold Expr.parse at h ⊢
  split at h
  · simp at h
  · split at h
    · exact h
    · simp at h

/-- The line of a tag shows only in errors. -/
theorem Directive.ofExpr_line {line : Nat} {s : List Char} {build : Expr → Directive}
    (h : ∀ err, ofExpr line s build ≠ .faulty err) (line' : Nat) :
    ofExpr line' s build = ofExpr line s build := by
  cases hparse : Expr.parse line s with
  | ok e => simp only [ofExpr, hparse, Expr.parse_line hparse]
  | error err =>
      have hfaulty : ofExpr line s build = .faulty err := by simp only [ofExpr, hparse]
      exact absurd hfaulty (h err)

theorem Directive.ofContent_line {line : Nat} {content : List Char}
    (h : ∀ err, ofContent line content ≠ .faulty err) (line' : Nat) :
    ofContent line' content = ofContent line content := by
  unfold ofContent at h ⊢
  split at h
  · exact absurd rfl (h _)
  · simp only at h ⊢
    split at h
    · rfl
    · split at h
      · rfl
      · exact absurd rfl (h _)
    · rfl
    · exact ofExpr_line h line'
    · split at h
      · exact absurd rfl (h _)
      · next hname => rw [if_neg hname, if_neg hname]
    · exact ofExpr_line h line'
    · exact ofExpr_line h line'
    · rfl
    · exact ofExpr_line h line'

theorem TagContent.means_of_directive {tag : TagContent} {line : Nat}
    (h : ∀ err, tag.directive line ≠ .faulty err) : tag.Means (tag.directive line) := by
  intro line'
  cases tag with
  | plain content => exact Directive.ofContent_line h line'
  | braced content => exact Directive.ofExpr_line h line'

theorem Reads.leaf {tag : TagContent} {directive : Directive} (htag : tag.Closed d)
    (hmeans : tag.Means directive) (hleaf : directive.leaf? = some (contentType, nodes)) :
    Reads d (directive.delimitersAfter d) contentType nodes (tag.raw d) rest := by
  intro b line
  obtain ⟨level, hnodes, hsource, hfollow⟩ := b.follow_of_leaf hleaf line (tag.raw d)
  refine ⟨level, hnodes, hsource, ?_⟩
  rw [Builder.complete_tag htag, hmeans line, hfollow]
  rfl

/-! ## Sections -/

/-- A closing tag with this name may end a section of this expression. -/
def Expr.ClosedBy (e : Expr) (name : List Char) : Prop :=
  ∀ (o : OpenSection) (line : Nat), o.expr = e → o.accepts line name = .ok ()

theorem OpenSection.closedBy_of_accepts {o : OpenSection} {line : Nat} {name : List Char}
    (h : o.accepts line name = .ok ()) : o.expr.ClosedBy name := by
  intro o' line' ho
  unfold accepts at h ⊢
  by_cases hname : name = []
  · rw [if_pos hname]
  · rw [if_neg hname] at h ⊢
    cases hparse : Expr.parse line name with
    | error err => simp [hparse, bind, Except.bind] at h
    | ok e =>
        rw [hparse] at h
        rw [Expr.parse_line hparse, ho]
        by_cases htext : e.text = o.expr.text
        · exact if_pos htext
        · simp [bind, Except.bind, htext] at h

theorem Builder.closed_of_follow {b b' : Builder} {line : Nat} {raw name : List Char}
    (h : b.follow line raw (.closeSection name) = .ok b') :
    ∃ o rest, b.opened = o :: rest ∧ o.accepts line name = .ok () ∧
      b' = { b with level := o.close b.level raw, opened := rest } := by
  unfold follow at h
  cases hopened : b.opened with
  | nil => simp [hopened] at h
  | cons o rest =>
      simp only [hopened] at h
      cases haccepts : o.accepts line name with
      | error err => simp [haccepts, bind, Except.bind] at h
      | ok =>
          rw [haccepts] at h
          exact ⟨o, rest, rfl, haccepts, (Except.ok.inj h).symm⟩

theorem OpenSection.nodes_close (o : OpenSection) (body : Level) (closeTag : List Char) :
    (o.close body closeTag).nodes =
      .sectionTag o.inverted o.expr body.nodes.reverse (String.ofList body.source) ::
        o.outer.nodes := rfl

theorem OpenSection.source_close (o : OpenSection) (body : Level) (closeTag : List Char) :
    (o.close body closeTag).source =
      o.outer.source ++ (o.openTag ++ (body.source ++ closeTag)) := by
  simp [close]

theorem Reads.enclosed {opening closing : TagContent} {inverted : Bool} {e : Expr}
    {name : List Char} (hopening : opening.Closed d)
    (hopens : opening.Means (.openSection inverted e))
    (hbody : Reads d d' contentType nodes s (closing.raw d' ++ rest))
    (hclosing : closing.Closed d') (hcloses : closing.Means (.closeSection name))
    (hname : e.ClosedBy name) :
    Reads d d' contentType [.sectionTag inverted e nodes (String.ofList s)]
      (opening.raw d ++ (s ++ closing.raw d')) rest := by
  intro b line
  let o : OpenSection :=
    { inverted, expr := e, line, openTag := opening.raw d, outer := b.level }
  obtain ⟨body, hnodes, hsource, hread⟩ :=
    hbody { b with level := {}, opened := o :: b.opened } (line + (opening.raw d).count '\n')
  refine ⟨o.close body (closing.raw d'), ?_, ?_, ?_⟩
  · simp [OpenSection.nodes_close, o, hnodes, hsource]
  · simp [OpenSection.source_close, o, hsource]
  · have hclose : ∀ line', Builder.follow
        { contentType := contentType <|> b.contentType, level := body, opened := o :: b.opened }
        line' (closing.raw d') (.closeSection name) =
          .ok { contentType := contentType <|> b.contentType
                level := o.close body (closing.raw d'), opened := b.opened } := by
      intro line'
      simp only [Builder.follow, hname o line' rfl]
      rfl
    rw [List.append_assoc, Builder.complete_tag hopening, hopens line, List.append_assoc]
    change Builder.complete { b with level := {}, opened := o :: b.opened } d
      (line + (opening.raw d).count '\n') (s ++ (closing.raw d' ++ rest)) = _
    rw [hread, Builder.complete_tag hclosing, hcloses, hclose, List.count_append,
      List.count_append, ← Nat.add_assoc, ← Nat.add_assoc]
    rfl

end Mustache
