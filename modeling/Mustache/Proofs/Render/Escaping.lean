import Mustache.Proofs.Render.Bodies
import Mustache.Proofs.Render.Partials
import Mustache.Proofs.Render.Spans

/-!
# Escaping

Two renders of one tree, as a text and as an HTML document, do the same as long as no
render override is called, because nothing else gets to know the type of the document.
Their results are made of the same parts, literal texts and the texts of variables, and
differ in the parts of escaping tags only.

All comparisons are instances of one simulation.  It asks of a relation between texts that
it is kept by concatenation, and of the trees that the relation holds of each literal text
of the one and that of the other, and of a scalar and what the tag of the other tree makes
of it.
-/

namespace Mustache

variable {κ : Type}

def Event.IsOverride : Event κ → Prop
  | .override _ _ _ => True
  | .will _ _ _ | .did _ _ _ _ | .filter _ _ => False

def Run.NoOverride {α : Type} (x : Run κ α) : Prop :=
  ∀ e ∈ x.events, ¬ e.IsOverride

/-! ## Trees that mirror each other -/

/-- `R` holds of what a text document makes of the first tree and an HTML document of the
second one; `P` holds of the names of partials. -/
inductive Mirror (R : String → String → Prop) (P : String → Prop) :
    List Node → List Node → Prop where
  | nil : Mirror R P [] []
  | text {content content' : String} {rest rest' : List Node} :
      R content content' → Mirror R P rest rest' →
        Mirror R P (.text content :: rest) (.text content' :: rest')
  | variableTag {e : Expr} {escapes escapes' : Bool} {rest rest' : List Node} :
      (∀ s, R s (Rendering.embed ⟨s, .text⟩ .html escapes')) → Mirror R P rest rest' →
        Mirror R P (.variableTag e escapes :: rest) (.variableTag e escapes' :: rest')
  | sectionTag {inverted : Bool} {e : Expr} {body body' : List Node} {source : String}
      {rest rest' : List Node} :
      Mirror R P body body' → Mirror R P rest rest' →
        Mirror R P (.sectionTag inverted e body source :: rest)
          (.sectionTag inverted e body' source :: rest')
  | partialTag {name : String} {rest rest' : List Node} :
      P name → Mirror R P rest rest' →
        Mirror R P (.partialTag name :: rest) (.partialTag name :: rest')

/-- The trees of the partials mirror each other, and their errors are the same. -/
def MirrorPartials (R : String → String → Prop) (P : String → Prop) :
    Option (String → Except RenderError (List Node)) →
      Option (String → Except RenderError (List Node)) → Prop
  | none, none => True
  | some resolve, some resolve' =>
      ∀ name, P name →
        (∃ e, resolve name = .error e ∧ resolve' name = .error e) ∨
        ∃ tree tree', resolve name = .ok tree ∧ resolve' name = .ok tree' ∧
          Mirror R P tree tree'
  | _, _ => False

/-! ## Runs that mirror each other -/

/-- The same error, or results related by `R`. -/
inductive MirrorResults {α β : Type} (R : α → β → Prop) :
    Except RenderError α → Except RenderError β → Prop where
  | ok {a : α} {b : β} : R a b → MirrorResults R (.ok a) (.ok b)
  | error (e : RenderError) : MirrorResults R (.error e) (.error e)

theorem MirrorResults.map {α α' β β' : Type} {R : α → β → Prop} {S : α' → β' → Prop}
    {f : α → α'} {g : β → β'} {x : Except RenderError α} {y : Except RenderError β}
    (h : MirrorResults R x y) (himp : ∀ a b, R a b → S (f a) (g b)) :
    MirrorResults S (x.map f) (y.map g) := by
  cases h with
  | ok hR => exact .ok (himp _ _ hR)
  | error e => exact .error e

theorem MirrorResults.eq_error {α β : Type} {R : α → β → Prop} {e : RenderError}
    {y : Except RenderError β} (h : MirrorResults R (.error e) y) : y = .error e := by
  cases h
  rfl

theorem MirrorResults.exists_ok {α β : Type} {R : α → β → Prop} {a : α}
    {y : Except RenderError β} (h : MirrorResults R (.ok a) y) : ∃ b, y = .ok b ∧ R a b := by
  cases h with
  | ok hR => exact ⟨_, rfl, hR⟩

theorem MirrorResults.eq {α : Type} {x y : Except RenderError α} (h : MirrorResults Eq x y) :
    x = y := by
  cases h with
  | ok heq => exact congrArg Except.ok heq
  | error e => rfl

theorem MirrorResults.eq_map {α β : Type} {f : α → β} {x : Except RenderError α}
    {y : Except RenderError β} (h : MirrorResults (fun a b => b = f a) x y) : y = x.map f := by
  cases h with
  | ok hR => exact congrArg Except.ok hR
  | error e => rfl

/-- Unless the first run calls a render override, the results mirror each other. -/
def Mirrors {α β : Type} (R : α → β → Prop) (x : Run κ α) (y : Run κ β) : Prop :=
  x.NoOverride → MirrorResults R x.result y.result

theorem Mirrors.framed {α β : Type} {R : α → β → Prop} {x : Run κ α} {y : Run κ β}
    {frame frame' : Frame} (h : Mirrors R x y) :
    Mirrors R (.framed frame x) (.framed frame' y) := by
  intro hx
  rw [Run.NoOverride, Run.events_framed] at hx
  exact h hx

theorem Mirrors.fail {α β : Type} (R : α → β → Prop) (e : RenderError) :
    Mirrors R (Run.fail e : Run κ α) (Run.fail e : Run κ β) :=
  fun _ => .error e

/-- A relation between texts that is kept by concatenation. -/
structure KeptByAppend (R : String → String → Prop) : Prop where
  empty : R "" ""
  append {s s' t t' : String} : R s s' → R t t' → R (s ++ t) (s' ++ t')

section Texts

variable {R : String → String → Prop} (hkept : KeptByAppend R)
include hkept

theorem Mirrors.join {x x' y y' : Run κ String} (hx : Mirrors R x x') (hy : Mirrors R y y') :
    Mirrors R (do let first ← x; let others ← y; return first ++ others)
      (do let first ← x'; let others ← y'; return first ++ others) := by
  intro h
  obtain ⟨hxcalls, hrest⟩ := Run.Avoids.of_bind h
  have hx' := hx hxcalls
  generalize hresult : x.result = result at hx'
  generalize hresult' : x'.result = result' at hx'
  cases hx' with
  | error e =>
      rw [Run.result_bind_of_error hresult, Run.result_bind_of_error hresult']
      exact .error e
  | @ok text text' htext =>
      have hycalls := hrest text hresult
      rw [← map_eq_pure_bind] at hycalls
      have hy' := hy (Run.Avoids.of_map hycalls)
      rw [Run.result_bind_of_ok hresult, Run.result_bind_of_ok hresult', ← map_eq_pure_bind,
        ← map_eq_pure_bind, Run.result_map, Run.result_map]
      exact hy'.map fun _ _ hothers => hkept.append htext hothers

theorem mirrors_renderBodies {body body' : ScopeChain κ → Run κ String}
    (hbody : ∀ c, Mirrors R (body c) (body' c)) (scopes : List (ScopeChain κ)) :
    Mirrors R (renderBodies body scopes) (renderBodies body' scopes) := by
  induction scopes with
  | nil => exact fun _ => .ok hkept.empty
  | cons c rest ih => exact (hbody c).join hkept ih

/-! ### Tags -/

variable {setting : Setting κ} {partials' : Option (String → Except RenderError (List Node))}

/-- The two types of documents meet here: a text document takes every fragment as it is,
and an HTML document escapes the scalars of escaping tags, but no body. -/
theorem mirrors_renderValue (site site' : Site κ) (htag : site'.tag = site.tag)
    (hscope : site'.scope = site.scope)
    (hbody : ∀ c, Mirrors R (site.body c) (site'.body c)) {escapes escapes' : Bool}
    (hscalar : site.tag.kind = .variableTag →
      ∀ s, R s (Rendering.embed ⟨s, .text⟩ .html escapes')) (v : Value κ) :
    Mirrors R (site.renderValue { setting with contentType := .text } escapes v)
      (site'.renderValue { setting with contentType := .html, partials := partials' }
        escapes' v) := by
  intro h
  rw [Run.NoOverride, Site.events_renderValue] at h
  have hdefault : site.tag.kind = .invertedTag ∨ v.override = none := by
    by_cases hkind : site.tag.kind = .invertedTag
    · exact .inl hkind
    · cases hoverride : v.override with
      | none => exact .inr rfl
      | some o => exact absurd trivial (h _ (Site.override_mem_fragment hkind hoverride _))
  have hdefault' : site'.tag.kind = .invertedTag ∨ v.override = none := by rwa [htag]
  rw [Site.fragment_eq_renderDefault hdefault] at h
  rw [Site.result_renderValue, Site.result_renderValue,
    Site.fragment_eq_renderDefault hdefault, Site.fragment_eq_renderDefault hdefault']
  by_cases hkind : site.tag.kind = .variableTag
  · rw [Site.renderDefault_variable hkind, Site.renderDefault_variable (htag ▸ hkind)]
    refine .ok ?_
    simpa [Rendering.embed] using hscalar hkind v.text
  · rw [Site.renderDefault_eq hkind] at h ⊢
    rw [Site.renderDefault_eq (htag ▸ hkind), htag, hscope, Run.result_map, Run.result_map]
    have hbodies := mirrors_renderBodies hkept hbody _ (Run.Avoids.of_map h)
    have hfragments : MirrorResults
        (fun r r' : Rendering => R r.text r'.text ∧ r'.contentType = .html)
        ((renderBodies site.body _).result.map (⟨·, .text⟩))
        ((renderBodies site'.body _).result.map (⟨·, .html⟩)) :=
      hbodies.map fun _ _ htext => ⟨htext, rfl⟩
    refine hfragments.map ?_
    rintro r r' ⟨htext, htype⟩
    simpa [Rendering.embed, htype] using htext

theorem mirrors_render (site site' : Site κ) (htag : site'.tag = site.tag)
    (hscope : site'.scope = site.scope)
    (hbody : ∀ c, Mirrors R (site.body c) (site'.body c)) {escapes escapes' : Bool}
    (hscalar : site.tag.kind = .variableTag →
      ∀ s, R s (Rendering.embed ⟨s, .text⟩ .html escapes')) (e : Expr) :
    Mirrors R (site.render { setting with contentType := .text } e escapes)
      (site'.render { setting with contentType := .html, partials := partials' } e
        escapes') := by
  intro h
  obtain ⟨-, htagCalls⟩ := Run.Avoids.of_bind h
  unfold Site.render
  rw [hscope, htag]
  cases hvalue : (e.evaluate setting.host site.scope).result with
  | error err =>
      rw [Run.result_bind_of_error hvalue, Run.result_bind_of_error hvalue]
      exact .error err
  | ok candidate =>
      have hobserved := htagCalls candidate hvalue
      rw [Run.result_bind_of_ok hvalue, Run.result_bind_of_ok hvalue, result_observe,
        result_observe]
      refine mirrors_renderValue hkept site site' htag hscope hbody hscalar _ ?_
      intro event hevent
      refine hobserved event ?_
      rw [events_observe]
      simp only [bracket_eq]
      exact List.mem_append_left _ (List.mem_append_right _ hevent)

theorem Node.mirrors_renderOn_variable (e : Expr) {escapes escapes' : Bool}
    (hscalar : ∀ s, R s (Rendering.embed ⟨s, .text⟩ .html escapes'))
    (deeper deeper' : List Node → ScopeChain κ → Run κ String) (c : ScopeChain κ) :
    Mirrors R ((variableTag e escapes).renderOn { setting with contentType := .text } deeper c)
      ((variableTag e escapes').renderOn
        { setting with contentType := .html, partials := partials' } deeper' c) :=
  mirrors_render hkept (.ofVariable deeper e c) (.ofVariable deeper' e c) rfl rfl
    (fun _ _ => .ok hkept.empty) (fun _ => hscalar) e

/-! ### Trees -/

theorem Mirror.renderNodesOn {P : String → Prop}
    {deeper deeper' : List Node → ScopeChain κ → Run κ String}
    (hpartials : MirrorPartials R P setting.partials partials')
    (hdeeper : ∀ tree tree' c, Mirror R P tree tree' → Mirrors R (deeper tree c) (deeper' tree' c))
    {nodes nodes' : List Node} (h : Mirror R P nodes nodes') (c : ScopeChain κ) :
    Mirrors R (renderNodesOn { setting with contentType := .text } deeper nodes c)
      (renderNodesOn { setting with contentType := .html, partials := partials' } deeper'
        nodes' c) := by
  induction h generalizing c with
  | nil => exact fun _ => .ok hkept.empty
  | text hcontent _ ih =>
      refine Mirrors.join hkept ?_ (ih c)
      exact fun _ => .ok hcontent
  | variableTag hscalar _ ih =>
      refine Mirrors.join hkept ?_ (ih c)
      exact Node.mirrors_renderOn_variable hkept _ hscalar deeper deeper' c
  | @sectionTag inverted e body body' source rest rest' _ _ ihbody ih =>
      refine Mirrors.join hkept ?_ (ih c)
      have hkind : (TagInfo.ofSection inverted e source).kind ≠ .variableTag := by
        cases inverted <;> simp [TagInfo.ofSection, TagKind.ofInverted]
      exact mirrors_render hkept (.ofSection _ deeper inverted e body source c)
        (.ofSection _ deeper' inverted e body' source c) rfl rfl ihbody
        (fun h => absurd h hkind) _
  | @partialTag name rest rest' hname _ ih =>
      refine Mirrors.join hkept ?_ (ih c)
      rw [Node.renderOn, Node.renderOn]
      cases hresolver : setting.partials with
      | none =>
          cases hresolver' : partials' with
          | none => exact .fail R _
          | some resolve' => simp [MirrorPartials, hresolver, hresolver'] at hpartials
      | some resolve =>
          cases hresolver' : partials' with
          | none => simp [MirrorPartials, hresolver, hresolver'] at hpartials
          | some resolve' =>
              rw [hresolver, hresolver'] at hpartials
              rcases hpartials name hname with ⟨e, he, he'⟩ | ⟨tree, tree', htree, htree', hmirror⟩
              · simp only [he, he']
                exact .fail R e
              · simp only [htree, htree']
                exact (hdeeper tree tree' c hmirror).framed

theorem Mirror.renderLevels {P : String → Prop}
    (hpartials : MirrorPartials R P setting.partials partials') {nodes nodes' : List Node}
    (h : Mirror R P nodes nodes') (levels : Nat) (c : ScopeChain κ) :
    Mirrors R (renderLevels { setting with contentType := .text } levels nodes c)
      (renderLevels { setting with contentType := .html, partials := partials' } levels
        nodes' c) := by
  induction levels generalizing nodes nodes' c with
  | zero => exact .fail R _
  | succ levels ih =>
      exact h.renderNodesOn hkept hpartials (fun tree tree' c h => ih h c) c

theorem Mirror.renderTree {P : String → Prop}
    (hpartials : MirrorPartials R P setting.partials partials') {nodes nodes' : List Node}
    (h : Mirror R P nodes nodes') (c : ScopeChain κ) :
    Mirrors R (renderTree { setting with contentType := .text } nodes c)
      (renderTree { setting with contentType := .html, partials := partials' } nodes' c) :=
  h.renderLevels hkept hpartials (setting.maxDepth + 1) c

end Texts

theorem keptByAppend_eq : KeptByAppend Eq where
  empty := rfl
  append := by
    rintro s _ t _ rfl rfl
    rfl

/-- A map of texts that distributes over concatenation. -/
theorem keptByAppend_of_map {f : String → String} (hempty : f "" = "")
    (happend : ∀ s t, f (s ++ t) = f s ++ f t) : KeptByAppend fun s s' => s' = f s where
  empty := hempty.symm
  append := by
    rintro s _ t _ rfl rfl
    exact (happend s t).symm

/-! ## Trees in which no tag escapes -/

mutual

def Node.clearEscapes : Node → Node
  | .variableTag e _ => .variableTag e false
  | .sectionTag inverted e body source => .sectionTag inverted e (clearEscapes body) source
  | .text content => .text content
  | .partialTag name => .partialTag name

def clearEscapes : List Node → List Node
  | [] => []
  | node :: rest => node.clearEscapes :: clearEscapes rest

end

mutual

theorem Node.mirror_clearEscapes {rest rest' : List Node}
    (hrest : Mirror Eq (fun _ => True) rest rest') (node : Node) :
    Mirror Eq (fun _ => True) (node :: rest) (node.clearEscapes :: rest') := by
  cases node with
  | text content => exact .text rfl hrest
  | variableTag e escapes => exact .variableTag (fun s => by simp [Rendering.embed]) hrest
  | sectionTag inverted e body source => exact .sectionTag (mirror_clearEscapes body) hrest
  | partialTag name => exact .partialTag trivial hrest

theorem mirror_clearEscapes (nodes : List Node) :
    Mirror Eq (fun _ => True) nodes (clearEscapes nodes) := by
  cases nodes with
  | nil => exact .nil
  | cons node rest => exact node.mirror_clearEscapes (mirror_clearEscapes rest)

end

def clearPartials (partials : Option (String → Except RenderError (List Node))) :
    Option (String → Except RenderError (List Node)) :=
  partials.map fun resolve name => (resolve name).map clearEscapes

theorem mirrorPartials_clearPartials
    (partials : Option (String → Except RenderError (List Node))) :
    MirrorPartials Eq (fun _ => True) partials (clearPartials partials) := by
  cases partials with
  | none => trivial
  | some resolve =>
      intro name _
      cases hresolve : resolve name with
      | error e => exact .inl ⟨e, rfl, by simp [Except.map, hresolve]⟩
      | ok tree =>
          exact .inr ⟨tree, clearEscapes tree, rfl, by simp [Except.map, hresolve],
            mirror_clearEscapes tree⟩

/-! ## Trees that mirror themselves -/

mutual

/-- The literal texts and the variables in a node, at any depth. -/
def Node.leaves : Node → List Node
  | .text content => [.text content]
  | .variableTag e escapes => [.variableTag e escapes]
  | .sectionTag _ _ body _ => leaves body
  | .partialTag _ => []

def leaves : List Node → List Node
  | [] => []
  | node :: rest => node.leaves ++ leaves rest

end

/-- The leaf stands in a tree that a render can come to. -/
def ReachedLeaf (partials : Option (String → Except RenderError (List Node)))
    (nodes : List Node) (leaf : Node) : Prop :=
  ∃ tree, Reaches partials nodes tree ∧ leaf ∈ leaves tree

/-- What an HTML document makes of a leaf is related to what a text document makes of it. -/
def Node.Relates (R : String → String → Prop) : Node → Prop
  | .text content => R content content
  | .variableTag _ escapes => ∀ s, R s (Rendering.embed ⟨s, .text⟩ .html escapes)
  | .sectionTag _ _ _ _ | .partialTag _ => True

section Selves

variable {R : String → String → Prop} {P : String → Prop}

mutual

theorem Node.mirror_self {rest : List Node} (hrest : Mirror R P rest rest) (node : Node)
    (hleaves : ∀ leaf ∈ node.leaves, leaf.Relates R)
    (hnames : ∀ name ∈ node.partialNames, P name) :
    Mirror R P (node :: rest) (node :: rest) := by
  cases node with
  | text content => exact .text (hleaves _ (List.mem_singleton.2 rfl)) hrest
  | variableTag e escapes =>
      exact .variableTag (hleaves (.variableTag e escapes) (List.mem_singleton.2 rfl)) hrest
  | sectionTag inverted e body source =>
      exact .sectionTag (mirror_self body hleaves hnames) hrest
  | partialTag name => exact .partialTag (hnames name (List.mem_singleton.2 rfl)) hrest

theorem mirror_self (nodes : List Node) (hleaves : ∀ leaf ∈ leaves nodes, leaf.Relates R)
    (hnames : ∀ name ∈ partialNames nodes, P name) : Mirror R P nodes nodes := by
  cases nodes with
  | nil => exact .nil
  | cons node rest =>
      have hrest : Mirror R P rest rest :=
        mirror_self rest (fun leaf h => hleaves leaf (List.mem_append_right _ h))
          fun name h => hnames name (List.mem_append_right _ h)
      exact node.mirror_self hrest (fun leaf h => hleaves leaf (List.mem_append_left _ h))
        fun name h => hnames name (List.mem_append_left _ h)

end

theorem mirrorPartials_self
    {partials : Option (String → Except RenderError (List Node))} {nodes : List Node}
    (hleaves : ∀ leaf, ReachedLeaf partials nodes leaf → leaf.Relates R) :
    MirrorPartials R (ReachedName partials nodes) partials partials := by
  cases hpartials : partials with
  | none => trivial
  | some resolve =>
      rw [hpartials] at hleaves
      rintro name ⟨tree, hreaches, hname⟩
      cases hresolve : resolve name with
      | error e => exact .inl ⟨e, rfl, rfl⟩
      | ok included =>
          have hincluded := Reaches.included hreaches hname rfl hresolve
          exact .inr ⟨included, included, rfl, rfl,
            mirror_self included (fun leaf h => hleaves leaf ⟨included, hincluded, h⟩)
              fun name h => ⟨included, hincluded, h⟩⟩

/-- A relation that holds of all leaves holds of the two documents. -/
theorem renderTree_mirrors_self (hkept : KeptByAppend R) (setting : Setting κ)
    (nodes : List Node) (scope : ScopeChain κ)
    (hleaves : ∀ leaf, ReachedLeaf setting.partials nodes leaf → leaf.Relates R) :
    Mirrors R (renderTree { setting with contentType := .text } nodes scope)
      (renderTree { setting with contentType := .html } nodes scope) := by
  have hmirror : Mirror R (ReachedName setting.partials nodes) nodes nodes :=
    mirror_self nodes (fun leaf h => hleaves leaf ⟨nodes, .self, h⟩)
      fun name h => ⟨nodes, .self, h⟩
  exact hmirror.renderTree hkept (mirrorPartials_self hleaves) scope

end Selves

/-! ## Trees in which every tag escapes -/

mutual

/-- Every variable escapes, and no literal text holds a character to escape. -/
def Node.EscapesAll : Node → Prop
  | .text content => ∀ c ∈ content.toList, c ∉ htmlSpecials
  | .variableTag _ escapes => escapes = true
  | .sectionTag _ _ body _ => EscapesAll body
  | .partialTag _ => True

def EscapesAll : List Node → Prop
  | [] => True
  | node :: rest => node.EscapesAll ∧ EscapesAll rest

end

mutual

theorem Node.EscapesAll.relates {node : Node} (h : node.EscapesAll) :
    ∀ leaf ∈ node.leaves, leaf.Relates fun s s' => s' = escapeHtml s := by
  cases node with
  | text content =>
      refine List.forall_mem_singleton.2 ?_
      exact (escapeHtml_of_not_special h).symm
  | variableTag e escapes =>
      refine List.forall_mem_singleton.2 fun s => ?_
      have hescapes : escapes = true := h
      simp [Rendering.embed, hescapes]
  | sectionTag inverted e body source => exact EscapesAll.relates h
  | partialTag name => exact List.forall_mem_nil _

theorem EscapesAll.relates {nodes : List Node} (h : EscapesAll nodes) :
    ∀ leaf ∈ leaves nodes, leaf.Relates fun s s' => s' = escapeHtml s := by
  cases nodes with
  | nil => exact List.forall_mem_nil _
  | cons node rest => exact List.forall_mem_append.2 ⟨h.1.relates, EscapesAll.relates h.2⟩

end

/-! ## Parts of documents -/

/-- A literal text or the text of a variable, which is escaped in HTML documents by some
tags. -/
inductive Part where
  | literal (content : String)
  | scalar (e : Expr) (escapes : Bool) (text : String)

namespace Part

def leaf : Part → Node
  | .literal content => .text content
  | .scalar e escapes _ => .variableTag e escapes

def plain : Part → String
  | .literal content => content
  | .scalar _ _ text => text

def html : Part → String
  | .literal content => content
  | .scalar _ true text => escapeHtml text
  | .scalar _ false text => text

/-- The texts are made of the same parts, each of which has one of the leaves. -/
def Join (Leaf : Node → Prop) (s s' : String) : Prop :=
  ∃ parts : List Part, (∀ part ∈ parts, Leaf part.leaf) ∧
    s = String.join (parts.map plain) ∧ s' = String.join (parts.map html)

theorem keptByAppend_join (Leaf : Node → Prop) : KeptByAppend (Join Leaf) where
  empty := ⟨[], List.forall_mem_nil _, rfl, rfl⟩
  append := by
    rintro s s' t t' ⟨parts, hparts, rfl, rfl⟩ ⟨parts', hparts', rfl, rfl⟩
    exact ⟨parts ++ parts', List.forall_mem_append.2 ⟨hparts, hparts'⟩, by simp, by simp⟩

theorem join_singleton {Leaf : Node → Prop} (part : Part) (h : Leaf part.leaf) :
    Join Leaf part.plain part.html :=
  ⟨[part], List.forall_mem_singleton.2 h, by simp, by simp⟩

theorem relates_of_leaf {Leaf : Node → Prop} {leaf : Node} (h : Leaf leaf) :
    leaf.Relates (Join Leaf) := by
  cases leaf with
  | text content => exact join_singleton (.literal content) h
  | variableTag e escapes =>
      intro s
      have hpart := join_singleton (.scalar e escapes s) h
      cases escapes <;> exact hpart
  | sectionTag | partialTag => trivial

end Part

/-- Escaping happens once and at variables only.  Unless a render override is called, a
text document has the result that an HTML document has without escape flags; and if all
tags of the tree and of its partials escape and no literal text has to be escaped, the
result of an HTML document is that of a text document, escaped as a whole.  If only some
of the tags escape, then both documents are made of the same parts, and those of escaping
tags are escaped in HTML, as each of these tags does wherever it is rendered. -/
theorem renderTree_escapes_once (setting : Setting κ) (nodes : List Node)
    (scope : ScopeChain κ)
    (hcalls : (renderTree { setting with contentType := .text } nodes scope).NoOverride) :
    (renderTree { setting with contentType := .text } nodes scope).result =
        (renderTree { setting with
          contentType := .html, partials := clearPartials setting.partials }
          (clearEscapes nodes) scope).result ∧
      ((∀ tree, Reaches setting.partials nodes tree → EscapesAll tree) →
        (renderTree { setting with contentType := .html } nodes scope).result =
            (renderTree { setting with contentType := .text } nodes scope).result.map
              escapeHtml ∧
          ∀ output, (renderTree { setting with contentType := .html } nodes scope).result =
              .ok output →
            ∀ c ∈ output.toList, c ∈ htmlSpecials → c = '&') ∧
      (∀ e, (renderTree { setting with contentType := .text } nodes scope).result = .error e →
        (renderTree { setting with contentType := .html } nodes scope).result = .error e) ∧
      (∀ output, (renderTree { setting with contentType := .text } nodes scope).result =
          .ok output →
        ∃ parts : List Part,
          (∀ part ∈ parts, ReachedLeaf setting.partials nodes part.leaf) ∧
            output = String.join (parts.map Part.plain) ∧
            (renderTree { setting with contentType := .html } nodes scope).result =
              .ok (String.join (parts.map Part.html)) ∧
            ∀ e text, .scalar e true text ∈ parts →
              ∀ c ∈ (Part.scalar e true text).html.toList, c ∈ htmlSpecials → c = '&') ∧
      ∀ (e : Expr) (deeper : List Node → ScopeChain κ → Run κ String) (c : ScopeChain κ),
        let tag := Node.variableTag e true
        (tag.renderOn { setting with contentType := .text } deeper c).NoOverride →
          (tag.renderOn { setting with contentType := .html } deeper c).result =
            (tag.renderOn { setting with contentType := .text } deeper c).result.map
              escapeHtml := by
  have hjoin := renderTree_mirrors_self
    (Part.keptByAppend_join (ReachedLeaf setting.partials nodes)) setting nodes scope
    (fun _ => Part.relates_of_leaf) hcalls
  have hkept := keptByAppend_of_map escapeHtml_empty escapeHtml_append
  refine ⟨?clear, ?all, ?errors, ?parts, ?tag⟩
  case clear =>
    have hmirrors := (mirror_clearEscapes nodes).renderTree keptByAppend_eq
      (mirrorPartials_clearPartials setting.partials) scope
    exact (hmirrors hcalls).eq
  case all =>
    intro hescapes
    have hleaves : ∀ leaf, ReachedLeaf setting.partials nodes leaf →
        leaf.Relates fun s s' => s' = escapeHtml s := by
      rintro leaf ⟨tree, htree, hleaf⟩
      exact (hescapes tree htree).relates leaf hleaf
    have hresult := (renderTree_mirrors_self hkept setting nodes scope hleaves hcalls).eq_map
    refine ⟨hresult, fun output houtput c hc hspecial => ?_⟩
    have hmap := hresult.symm.trans houtput
    cases htext : (renderTree { setting with contentType := .text } nodes scope).result with
    | error e =>
        rw [htext] at hmap
        exact nomatch hmap
    | ok text =>
        rw [htext] at hmap
        obtain rfl := Except.ok.inj hmap
        exact eq_ampersand_of_mem_escapeHtml hc hspecial
  case errors =>
    intro e htext
    rw [htext] at hjoin
    exact hjoin.eq_error
  case parts =>
    intro output htext
    rw [htext] at hjoin
    obtain ⟨output', hhtml, parts, hparts, hplain, rfl⟩ := hjoin.exists_ok
    exact ⟨parts, hparts, hplain, hhtml, fun _ _ _ _ => eq_ampersand_of_mem_escapeHtml⟩
  case tag =>
    intro e deeper c tag htag
    have hscalar : ∀ s, Rendering.embed ⟨s, .text⟩ .html true = escapeHtml s := fun _ => rfl
    exact (Node.mirrors_renderOn_variable hkept e hscalar deeper deeper c htag).eq_map

/-- A variable in a section over two items, and in a partial within it. -/
theorem renderTree_escapes_once_nested :
    let host : Host Unit := ⟨fun _ v => .ok v, fun _ _ v => v, fun _ _ => .done (.ok default)⟩
    let setting : Setting Unit := ⟨host, .html, 1, some fun _ => .ok [.variableTag .implicit true]⟩
    let nodes : List Node :=
      [.sectionTag false .implicit [.variableTag .implicit true, .partialTag "p"] ""]
    let scope := ScopeChain.empty.withScope (.ofList [.ofString "<", .ofString "&"])
    (renderTree { setting with contentType := .text } nodes scope).NoOverride ∧
      (∀ tree, Reaches setting.partials nodes tree → EscapesAll tree) ∧
      (renderTree { setting with contentType := .html } nodes scope).result.toOption =
        some "&lt;&lt;&amp;&amp;" ∧
      (renderTree { setting with contentType := .text } nodes scope).result =
        (renderTree { setting with
          contentType := .html, partials := clearPartials setting.partials }
          (clearEscapes nodes) scope).result := by
  intro host setting nodes scope
  have hevents : (renderTree { setting with contentType := .text } nodes scope).events = [] :=
    List.isEmpty_iff.1 (by decide +kernel)
  have hcalls : (renderTree { setting with contentType := .text } nodes scope).NoOverride := by
    intro e he
    rw [hevents] at he
    exact nomatch he
  have hescapes : ∀ tree, Reaches setting.partials nodes tree → EscapesAll tree := by
    intro tree htree
    cases htree with
    | self => exact ⟨⟨rfl, trivial, trivial⟩, trivial⟩
    | included _ _ hresolve hresolved =>
        obtain rfl := Option.some.inj hresolve
        obtain rfl := Except.ok.inj hresolved
        exact ⟨rfl, trivial⟩
  obtain ⟨hclear, hescaped, -, -, -⟩ := renderTree_escapes_once setting nodes scope hcalls
  refine ⟨hcalls, hescapes, ?_, hclear⟩
  rw [(hescaped hescapes).1]
  decide +kernel

end Mustache
