import Mathlib.Data.List.Forall2
import Mustache.Proofs.Render.Bodies
import Mustache.Proofs.Source.Printing

/-!
# The source of a section

A section keeps the source of its body.  Compiled alone, that source is read with double
braces, so it gives the body back if these were in force at the opening tag, whatever the
body does to the delimiters.  The sections of a tree, in the order of their opening tags,
are matched here with the opening tags among the tokens of the source, which tell the
delimiters.

The invariant of the scan follows the open sections.  What has been read of each level is
a fragment that starts with the delimiters in force at the opening tag of the level and
ends with those in force now; a closing tag turns the innermost fragment into the body of
a section in the next one.
-/

namespace Mustache

/-! ## Sections and their opening tags -/

structure Section where
  inverted : Bool
  expr : Expr
  body : List Node
  source : String

mutual

/-- The sections in a node, at any depth, in the order of their opening tags. -/
def Node.sections : Node → List Section
  | .text _ | .variableTag _ _ | .partialTag _ => []
  | .sectionTag inverted expr body source =>
      { inverted, expr, body, source } :: sections body

def sections : List Node → List Section
  | [] => []
  | node :: rest => node.sections ++ sections rest

end

structure Opening where
  marks : Delimiters
  inverted : Bool
  expr : Expr

def Directive.openings (d : Delimiters) : Directive → List Opening
  | .openSection inverted expr => [{ marks := d, inverted, expr }]
  | _ => []

/-- The opening tags among the tokens, the first of which was read with `d`. -/
def openings (d : Delimiters) : List Token → List Opening
  | [] => []
  | .text _ :: rest => openings d rest
  | .tag _ _ directive :: rest =>
      directive.openings d ++ openings (directive.delimitersAfter d) rest

def Section.Recompiles (x : Section) : Prop :=
  ∃ recompiled, compile x.source = .ok recompiled ∧ recompiled.nodes = x.body

/-- The section has this opening tag, and its source compiles to its body if the tag was
read with double braces. -/
structure Section.OpenedBy (x : Section) (opening : Opening) : Prop where
  inverted : x.inverted = opening.inverted
  expr : x.expr = opening.expr
  recompiles : opening.marks = .standard → x.Recompiles

theorem sections_append (nodes nodes' : List Node) :
    sections (nodes ++ nodes') = sections nodes ++ sections nodes' := by
  induction nodes with
  | nil => rfl
  | cons node rest ih => simp [sections, ih]

theorem sections_textNodes (t : List Char) : sections (textNodes t) = [] := by
  unfold textNodes
  split <;> rfl

theorem sections_of_leaf {directive : Directive} {contentType : Option ContentType}
    {nodes : List Node} (h : directive.leaf? = some (contentType, nodes)) :
    sections nodes = [] := by
  cases directive with
  | openSection | closeSection | faulty => simp [Directive.leaf?] at h
  | comment | pragma | delimiters | variableTag | partialTag =>
      obtain ⟨-, rfl⟩ := Prod.mk.inj (Option.some.inj h)
      rfl

theorem openings_of_leaf {directive : Directive} {contentType : Option ContentType}
    {nodes : List Node} (h : directive.leaf? = some (contentType, nodes)) (d : Delimiters) :
    directive.openings d = [] := by
  cases directive with
  | openSection | closeSection | faulty => simp [Directive.leaf?] at h
  | comment | pragma | delimiters | variableTag | partialTag => rfl

/-! ## Levels -/

/-- In front of the texts with `P` the level is a fragment from `d` to `d'`, and its
sections have these opening tags. -/
structure Level.ReadFrom (l : Level) (d d' : Delimiters) (P : List Char → Prop)
    (opened : List Opening) : Prop where
  fragment : ∃ contentType, ∀ rest, P rest →
    Reads d d' contentType l.nodes.reverse l.source rest
  sections : List.Forall₂ Section.OpenedBy (sections l.nodes.reverse) opened

def Anything (_ : List Char) : Prop :=
  True

/-- The section was opened by a tag between the delimiters `d`. -/
def OpenSection.ReadWith (o : OpenSection) (d : Delimiters) : Prop :=
  ∃ tag : TagContent, tag.Closed d ∧ tag.Means (.openSection o.inverted o.expr) ∧
    o.openTag = tag.raw d

namespace Level.ReadFrom

variable {l l' : Level} {d d' d'' : Delimiters} {opened opened' : List Opening}

theorem empty (d : Delimiters) : ({} : Level).ReadFrom d d Anything [] where
  fragment := ⟨none, fun _ _ => Reads.nil⟩
  sections := .nil

theorem addText (h : l.ReadFrom d d' Anything opened) {t : List Char}
    (ht : Unmarked d'.opener t) : (l.addText t).ReadFrom d d' d'.Boundary opened where
  fragment := by
    obtain ⟨contentType, hread⟩ := h.fragment
    refine ⟨none <|> contentType, fun rest hrest => ?_⟩
    rw [Level.nodes_addText, Level.source_addText]
    exact (hread (t ++ rest) trivial).append (Reads.text ht hrest)
  sections := by
    rw [Level.nodes_addText, sections_append, sections_textNodes, List.append_nil]
    exact h.sections

theorem leaf (h : l.ReadFrom d d' d'.Boundary opened) {tag : TagContent}
    {directive : Directive} {contentType : Option ContentType} {nodes : List Node}
    (htag : tag.Closed d') (hmeans : tag.Means directive)
    (hleaf : directive.leaf? = some (contentType, nodes))
    (hnodes : l'.nodes = nodes.reverse ++ l.nodes) (hsource : l'.source = l.source ++ tag.raw d') :
    l'.ReadFrom d (directive.delimitersAfter d') Anything opened where
  fragment := by
    obtain ⟨contentType', hread⟩ := h.fragment
    refine ⟨contentType <|> contentType', fun rest _ => ?_⟩
    rw [hnodes, hsource, List.reverse_append, List.reverse_reverse]
    exact (hread _ (TagContent.boundary_raw tag d' rest)).append
      (Reads.leaf htag hmeans hleaf)
  sections := by
    rw [hnodes, List.reverse_append, List.reverse_reverse, sections_append,
      sections_of_leaf hleaf, List.append_nil]
    exact h.sections

/-- The level of a section becomes its body when the section is closed. -/
theorem close {o : OpenSection} {body : Level} {closing : TagContent} {name : List Char}
    (houter : o.outer.ReadFrom d d' d'.Boundary opened) (ho : o.ReadWith d')
    (hbody : body.ReadFrom d' d'' d''.Boundary opened') (hclosing : closing.Closed d'')
    (hcloses : closing.Means (.closeSection name)) (hname : o.expr.ClosedBy name) :
    (o.close body (closing.raw d'')).ReadFrom d d'' Anything
      (opened ++ ⟨d', o.inverted, o.expr⟩ :: opened') where
  fragment := by
    obtain ⟨opening, hopening, hopens, hraw⟩ := ho
    obtain ⟨contentType, hread⟩ := houter.fragment
    obtain ⟨contentType', hread'⟩ := hbody.fragment
    refine ⟨contentType' <|> contentType, fun rest _ => ?_⟩
    have hsection := Reads.enclosed hopening hopens
      (hread' _ (TagContent.boundary_raw closing d'' rest)) hclosing hcloses hname
    have hboundary := TagContent.boundary_raw opening d'
      (body.source ++ closing.raw d'' ++ rest)
    rw [← List.append_assoc] at hboundary
    have hwhole := (hread _ hboundary).append hsection
    rw [OpenSection.nodes_close, OpenSection.source_close, List.reverse_cons, hraw]
    exact hwhole
  sections := by
    rw [OpenSection.nodes_close, List.reverse_cons, sections_append]
    refine List.rel_append houter.sections ?_
    simp only [Mustache.sections, Node.sections, List.append_nil]
    refine .cons ⟨rfl, rfl, fun hmarks => ?_⟩ hbody.sections
    obtain rfl : d' = .standard := hmarks
    obtain ⟨contentType, hread⟩ := hbody.fragment
    exact ⟨_, (hread [] (.inl rfl)).compile_eq, rfl⟩

end Level.ReadFrom

/-! ## Open sections -/

/-- The open sections stand in levels that are fragments in front of an opening tag; the
innermost one was opened with `d`.  The opening tags read so far are given. -/
inductive OpenedWith : Delimiters → List OpenSection → List Opening → Prop where
  | top : OpenedWith .standard [] []
  | inside {d d' : Delimiters} {o : OpenSection} {rest : List OpenSection}
      {outer inner : List Opening} :
      OpenedWith d rest outer → o.outer.ReadFrom d d' d'.Boundary inner → o.ReadWith d' →
        OpenedWith d' (o :: rest) (outer ++ inner ++ [⟨d', o.inverted, o.expr⟩])

/-- What has been read in front of the texts with `P` while `d` is in force. -/
def Builder.InProgress (b : Builder) (d : Delimiters) (P : List Char → Prop)
    (opened : List Opening) : Prop :=
  ∃ d₀ outer inner, OpenedWith d₀ b.opened outer ∧ b.level.ReadFrom d₀ d P inner ∧
    opened = outer ++ inner

namespace Builder.InProgress

variable {b b' : Builder} {d : Delimiters} {opened : List Opening}

theorem empty : ({} : Builder).InProgress .standard Anything [] :=
  ⟨.standard, [], [], .top, Level.ReadFrom.empty .standard, rfl⟩

theorem addText (hb : b.InProgress d Anything opened) {t : List Char}
    (ht : Unmarked d.opener t) :
    ({ b with level := b.level.addText t } : Builder).InProgress d d.Boundary opened := by
  obtain ⟨d₀, outer, inner, hopened, hlevel, rfl⟩ := hb
  exact ⟨d₀, outer, inner, hopened, hlevel.addText ht, rfl⟩

section Tags

variable (hb : b.InProgress d d.Boundary opened) {tag : TagContent} (htag : tag.Closed d)
  {line : Nat}
include hb htag

theorem leaf {directive : Directive} {contentType : Option ContentType} {nodes : List Node}
    (hmeans : tag.Means directive) (hleaf : directive.leaf? = some (contentType, nodes))
    (h : b.follow line (tag.raw d) directive = .ok b') :
    b'.InProgress (directive.delimitersAfter d) Anything opened := by
  obtain ⟨d₀, outer, inner, hopened, hlevel, rfl⟩ := hb
  obtain ⟨level, hnodes, hsource, hfollow⟩ := b.follow_of_leaf hleaf line (tag.raw d)
  rw [hfollow] at h
  obtain rfl := Except.ok.inj h
  exact ⟨d₀, outer, inner, hopened, hlevel.leaf htag hmeans hleaf hnodes hsource, rfl⟩

theorem openSection {inverted : Bool} {e : Expr}
    (hmeans : tag.Means (.openSection inverted e))
    (h : b.follow line (tag.raw d) (.openSection inverted e) = .ok b') :
    b'.InProgress d Anything (opened ++ [⟨d, inverted, e⟩]) := by
  obtain ⟨d₀, outer, inner, hopened, hlevel, rfl⟩ := hb
  obtain rfl := Except.ok.inj h
  refine ⟨d, outer ++ inner ++ [⟨d, inverted, e⟩], [], ?_, Level.ReadFrom.empty d, ?_⟩
  · exact .inside hopened hlevel ⟨tag, htag, hmeans, rfl⟩
  · rw [List.append_nil]

theorem closeSection {name : List Char} (hmeans : tag.Means (.closeSection name))
    (h : b.follow line (tag.raw d) (.closeSection name) = .ok b') :
    b'.InProgress d Anything opened := by
  obtain ⟨d₀, outer, inner, hopened, hlevel, rfl⟩ := hb
  obtain ⟨o, rest, hstack, haccepts, rfl⟩ := Builder.closed_of_follow h
  rw [hstack] at hopened
  cases hopened with
  | @inside d' _ _ _ outer before houter hbefore ho =>
      have hclosed := hbefore.close ho hlevel htag hmeans
        (OpenSection.closedBy_of_accepts haccepts)
      refine ⟨d', outer, _, houter, hclosed, ?_⟩
      simp

/-- Following the directive of a tag keeps the invariant. -/
theorem follow (h : b.follow line (tag.raw d) (tag.directive line) = .ok b') :
    b'.InProgress ((tag.directive line).delimitersAfter d) Anything
      (opened ++ (tag.directive line).openings d) := by
  have hmeans : tag.Means (tag.directive line) := by
    refine TagContent.means_of_directive fun err herr => ?_
    rw [herr] at h
    simp [Builder.follow] at h
  generalize tag.directive line = directive at h hmeans ⊢
  cases hleaf : directive.leaf? with
  | some found =>
      rw [openings_of_leaf hleaf, List.append_nil]
      exact hb.leaf htag hmeans hleaf h
  | none =>
      cases directive with
      | comment | pragma | delimiters | variableTag | partialTag =>
          simp [Directive.leaf?] at hleaf
      | faulty err => simp [Builder.follow] at h
      | openSection inverted e => exact hb.openSection htag hmeans h
      | closeSection name =>
          rw [Directive.openings, List.append_nil]
          · exact hb.closeSection htag hmeans h
          · simp

end Tags

/-- At the end of the source no section is open, and its last text adds none. -/
theorem finish (hb : b.InProgress d Anything opened) {t : List Char} {compiled : Compiled}
    (h : ({ b with level := b.level.addText t } : Builder).finish = .ok compiled) :
    List.Forall₂ Section.OpenedBy (sections compiled.nodes) opened := by
  obtain ⟨d₀, outer, inner, hopened, hlevel, rfl⟩ := hb
  cases hstack : b.opened with
  | cons o rest => simp [Builder.finish, hstack] at h
  | nil =>
      rw [hstack] at hopened
      cases hopened
      simp only [Builder.finish, hstack] at h
      obtain rfl := Except.ok.inj h
      rw [Level.nodes_addText, sections_append, sections_textNodes, List.append_nil]
      exact hlevel.sections

theorem complete {line : Nat} {s : List Char} {compiled : Compiled}
    (hb : b.InProgress d Anything opened) (h : b.complete d line s = .ok compiled) :
    List.Forall₂ Section.OpenedBy (sections compiled.nodes)
      (opened ++ openings d (Token.scan d line s)) := by
  unfold Builder.complete at h
  fun_induction Token.scan d line s generalizing b opened with
  | case1 d line s hopen =>
      rw [List.foldlM_cons, Builder.step_text] at h
      rw [openings, openings, List.append_nil]
      exact hb.finish h
  | case2 d line s before after hopen htag =>
      rw [List.foldlM_cons, Builder.step_text] at h
      simp [bind, Except.bind, Builder.step, Builder.follow] at h
  | case3 d line s before after hopen tagLine found rest htag =>
      rename_i directive ih
      rw [List.foldlM_cons, Builder.step_text] at h
      have htext := hb.addText (unmarked_of_breakAt d.opener_ne_nil hopen)
      have hclosed := TagContent.closed_of_read? htag
      cases hfollow : ({ b with level := b.level.addText before } : Builder).follow tagLine
          (found.raw d) directive with
      | error err => simp [bind, Except.bind, Builder.step, hfollow] at h
      | ok b' =>
          have hnext := htext.follow hclosed hfollow
          have hrest := ih hnext (by simpa [bind, Except.bind, Builder.step, hfollow] using h)
          rw [openings, openings, ← List.append_assoc]
          exact hrest

end Builder.InProgress

/-! ## Overrides that expand the source -/

/-- The place at which a section is rendered with the given levels left below it. -/
def Section.site {κ : Type} (x : Section) (setting : Setting κ) (levels : Nat)
    (scope : ScopeChain κ) : Site κ :=
  .ofSection (renderNodesOn setting (renderLevels setting levels) x.body)
    (renderLevels setting levels) x.inverted x.expr x.body x.source scope

/-- To an override of the section, expanding the tree is rendering the body: it gets the
same result in every scope, and the same happens. -/
def Section.ExpandsTo (x : Section) (nodes : List Node) : Prop :=
  ∀ (κ : Type) (setting : Setting κ) (levels : Nat) (scope c : ScopeChain κ)
    (contentType : ContentType) (next : Except RenderError Rendering → Action κ),
    let site := x.site setting levels scope
    (site.perform contentType (.expand nodes c next)).result =
        (site.perform contentType (.inner c next)).result ∧
      (site.perform contentType (.expand nodes c next)).events =
        (site.perform contentType (.inner c next)).events

theorem Section.expandsTo_body (x : Section) : x.ExpandsTo x.body := by
  intro κ setting levels scope c contentType next
  exact Site.perform_expand_eq_inner rfl contentType next

/-- The sections of a compiled source and its opening tags match, and the source of each
section that was opened with double braces compiles to the body of the section. -/
theorem compile_nested_source {source : String} {compiled : Compiled}
    (h : compile source = .ok compiled) :
    List.Forall₂
      (fun (x : Section) (opening : Opening) =>
        x.inverted = opening.inverted ∧ x.expr = opening.expr ∧
          (opening.marks = .standard →
            ∃ recompiled, compile x.source = .ok recompiled ∧ recompiled.nodes = x.body ∧
              x.ExpandsTo recompiled.nodes))
      (sections compiled.nodes) (openings .standard (Token.scan .standard 1 source.toList)) := by
  have hcomplete : ({} : Builder).complete .standard 1 source.toList = .ok compiled := h
  have hmatch := Builder.InProgress.empty.complete hcomplete
  refine List.Forall₂.imp ?_ hmatch
  intro x opening hopened
  refine ⟨hopened.inverted, hopened.expr, fun hmarks => ?_⟩
  obtain ⟨recompiled, hcompile, hnodes⟩ := hopened.recompiles hmarks
  refine ⟨recompiled, hcompile, hnodes, ?_⟩
  rw [hnodes]
  exact x.expandsTo_body

theorem compile_nested_source_other_marks :
    let body : List Node := [.sectionTag true (.name "b") [.text "{{x}}"] "{{x}}", .text "!"]
    let nested := "{{=<% %>=}}<%^b%>{{x}}<%/%>!"
    compile "{{#a}}{{=<% %>=}}<%^b%>{{x}}<%/%>!<%/a%>" = .ok
        { nodes := [.sectionTag false (.name "a") body nested], contentType := none } ∧
      ∃ recompiled, compile nested = .ok recompiled ∧ recompiled.nodes = body ∧
        Section.ExpandsTo ⟨false, .name "a", body, nested⟩ recompiled.nodes := by
  intro body nested
  let d : Delimiters := ⟨['<', '%'], ['%', '>'], by decide, by decide⟩
  let inner : Layout :=
    .sectionTag true (.name "b") (.text "{{x}}" .done) false (.text "!" .done)
  have hd : d.Settable := Delimiters.settable_percent
  have hinner : inner.Keeps (.marks d) := by
    simp only [inner, d, Layout.Keeps, PrintRules.marks, Expr.WellFormed,
      Layout.StartsWithText, List.forall_mem_cons, List.not_mem_nil,
      false_implies, implies_true]
    decide
  have ha : (Expr.name "a").WellFormed := by
    rw [Expr.WellFormed]
    decide
  have hword : (PrintRules.marks d).word (Expr.name "a").text.toList := by
    simp only [PrintRules.marks, d, List.forall_mem_cons, List.not_mem_nil,
      false_implies, implies_true]
    decide
  have hopening := PrintRules.braces_suit.closed_openSection ha trivial false
  have hclosing := (PrintRules.marks_suit hd).closed_closeSection ha hword true
  let closing : TagContent := .plain ('/' :: Layout.closingName (.name "a") true)
  have hbody := (Reads.leaf (Delimiters.closed_setting hd) (Delimiters.means_setting hd)
    rfl).append (Layout.reads (PrintRules.marks_suit hd) hinner (closing.boundary_raw d []))
  have hcompile := (Reads.enclosed hopening (TagContent.means_openSection ha false) hbody
    hclosing (TagContent.means_closeSection ha true)
    (Expr.closedBy_closingName ha true)).compile_eq
  have hmatch := compile_nested_source hcompile
  rw [String.toList_ofList, Token.scan_tag hopening, TagContent.means_openSection ha] at hmatch
  refine ⟨hcompile, ?_⟩
  cases hmatch with
  | cons hfirst _ => exact hfirst.2.2 rfl

end Mustache
