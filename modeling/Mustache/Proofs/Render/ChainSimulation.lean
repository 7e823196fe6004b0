import Mustache.Proofs.Render.Comparison
import Mustache.Proofs.Render.Partials

/-!
# Renders in related scope chains

A tree is rendered in two chains, and the body of a section in whatever the section pushes
on either of them.  A relation between chains that is kept when a value is pushed on both is
therefore the relation between the chains at any place of the two renders.  If no single
tag tells related chains apart, then no tree does.  It is enough that this holds of tags
whose expressions are of some kind, if the tree and the partials it comes to have no others.

The partials and the limit are the same on both sides.  What a render override of the host
does with the chain it is given cannot be known, so the relations between runs to which this
is applied hold of runs that call none.
-/

namespace Mustache

variable {κ : Type}

/-! ## Overrides of the host -/

/-- A render override is called that is not just a fixed fragment. -/
def Event.IsHostOverride : Event κ → Prop
  | .override (.host _) _ _ => True
  | .override (.fixed _) _ _ | .will _ _ _ | .did _ _ _ _ | .filter _ _ => False

instance : DecidablePred (@Event.IsHostOverride κ) := fun e =>
  match e with
  | .override (.host _) _ _ => .isTrue trivial
  | .override (.fixed _) _ _ | .will _ _ _ | .did _ _ _ _ | .filter _ _ => .isFalse not_false

def Run.NoHostOverride {α : Type} (x : Run κ α) : Prop :=
  x.Avoids Event.IsHostOverride

namespace Site

variable {site : Site κ} {setting : Setting κ} {v : Value κ}

/-- Rendering a value without calling the host is the default of the tag or a matter of a
fixed fragment. -/
theorem override_of_noHostOverride (h : (site.fragment setting v).NoHostOverride) :
    (site.tag.kind = .invertedTag ∨ v.override = none) ∨
      site.tag.kind ≠ .invertedTag ∧ ∃ rendering, v.override = some (.fixed rendering) := by
  by_cases hkind : site.tag.kind = .invertedTag
  · exact .inl (.inl hkind)
  · cases hoverride : v.override with
    | none => exact .inl (.inr rfl)
    | some o =>
        cases o with
        | fixed rendering => exact .inr ⟨hkind, rendering, rfl⟩
        | host handle =>
            exact absurd trivial (h _ (override_mem_fragment hkind hoverride setting))

theorem fragment_of_fixed {rendering : Rendering} (hkind : site.tag.kind ≠ .invertedTag)
    (hoverride : v.override = some (.fixed rendering)) :
    site.fragment setting v =
      { trace := [.event (.override (.fixed rendering) site.tag setting.contentType)]
        result := .ok rendering } := by
  unfold fragment
  cases h : site.tag.kind with
  | invertedTag => exact absurd h hkind
  | variableTag | sectionTag =>
      simp only [Value.render, hoverride]
      rfl

theorem noHostOverride_of_renderValue {escapes : Bool}
    (h : (site.renderValue setting escapes v).NoHostOverride) :
    (site.fragment setting v).NoHostOverride := by
  unfold renderValue at h
  rw [← map_eq_pure_bind] at h
  exact Run.Avoids.of_map h

theorem noHostOverride_of_observe {escapes : Bool} {candidate : Value κ}
    (h : (observe setting.host site.tag site.scope.hooks candidate
      (site.renderValue setting escapes)).NoHostOverride) :
    (site.fragment setting
      (finalCandidate setting.host site.tag site.scope.hooks candidate)).NoHostOverride := by
  apply noHostOverride_of_renderValue
  intro e he
  apply h e
  rw [events_observe]
  simp only [bracket_eq]
  exact List.mem_append_left _ (List.mem_append_right _ he)

/-- What holds of the default renderings for one tag holds of all that it makes of a value. -/
theorem fragment_related {site' : Site κ} {E : Run κ Rendering → Run κ Rendering → Prop}
    (hsame : ∀ x, E x x) (htag : site'.tag = site.tag)
    (hdefault : (site.renderDefault setting.contentType v).NoHostOverride →
      E (site'.renderDefault setting.contentType v) (site.renderDefault setting.contentType v))
    (hcalls : (site.fragment setting v).NoHostOverride) :
    E (site'.fragment setting v) (site.fragment setting v) := by
  rcases override_of_noHostOverride hcalls with h | ⟨hkind, rendering, hoverride⟩
  · have h' : site'.tag.kind = .invertedTag ∨ v.override = none := by rwa [htag]
    rw [fragment_eq_renderDefault h] at hcalls
    rw [fragment_eq_renderDefault h, fragment_eq_renderDefault h']
    exact hdefault hcalls
  · rw [fragment_of_fixed hkind hoverride, fragment_of_fixed (htag ▸ hkind) hoverride, htag]
    exact hsame _

end Site

/-! ## Related chains -/

/-- Runs in chains related by `S` are related by `R`, as far as a single tag is concerned
whose expression has `Q`: `observe` compares what two places for one tag make of a value,
given that they make related things of any value that has no override. -/
structure ChainSimulation (setting : Setting κ) (Q : Expr → Prop)
    (S : ScopeChain κ → ScopeChain κ → Prop)
    (R : {α : Type} → Run κ α → Run κ α → Prop) : Prop extends Sequential R where
  framed {α : Type} {x y : Run κ α} (frame : Frame) :
    R x y → R (.framed frame x) (.framed frame y)
  extended {c c' : ScopeChain κ} (v : Value κ) : S c c' → S (c.extended v) (c'.extended v)
  evaluate {c c' : ScopeChain κ} {e : Expr} :
    Q e → S c c' → R (e.evaluate setting.host c) (e.evaluate setting.host c')
  observe {site site' : Site κ} (escapes : Bool) (candidate : Value κ) :
    site'.tag = site.tag → S site.scope site'.scope →
      (∀ v, R (site.renderDefault setting.contentType v)
        (site'.renderDefault setting.contentType v)) →
      R (observe setting.host site.tag site.scope.hooks candidate
          (site.renderValue setting escapes))
        (observe setting.host site'.tag site'.scope.hooks candidate
          (site'.renderValue setting escapes))

namespace ChainSimulation

variable {setting : Setting κ} {Q : Expr → Prop} {S : ScopeChain κ → ScopeChain κ → Prop}
  {R : {α : Type} → Run κ α → Run κ α → Prop} (hsim : ChainSimulation setting Q S R)
include hsim

theorem related_bodyScopes {c c' : ScopeChain κ} (h : S c c') (kind : TagKind) (v : Value κ) :
    List.Forall₂ S (bodyScopes kind c v) (bodyScopes kind c' v) := by
  have hpush : List.Forall₂ S [c.extended v] [c'.extended v] :=
    .cons (hsim.extended v h) .nil
  unfold bodyScopes
  cases kind with
  | variableTag => exact .nil
  | sectionTag =>
      by_cases htruthy : v.isTruthy
      · simp only [htruthy, if_true]
        cases v.items? with
        | none => exact hpush
        | some items =>
            rw [List.forall₂_map_left_iff, List.forall₂_map_right_iff]
            exact List.forall₂_same.2 fun item _ => hsim.extended item h
      · simp only [htruthy, Bool.false_eq_true, if_false]
        split
        · exact hpush
        · exact .nil
  | invertedTag =>
      dsimp only
      split
      · exact .nil
      · exact .cons h .nil

theorem related_renderDefault {site site' : Site κ} (htag : site'.tag = site.tag)
    (hscope : S site.scope site'.scope)
    (hbody : ∀ c c', S c c' → R (site.body c) (site'.body c')) (v : Value κ) :
    R (site.renderDefault setting.contentType v)
      (site'.renderDefault setting.contentType v) := by
  by_cases hkind : site.tag.kind = .variableTag
  · rw [Site.renderDefault_variable hkind, Site.renderDefault_variable (htag ▸ hkind)]
    exact hsim.ofExcept (.ok (⟨v.text, .text⟩ : Rendering))
  · rw [Site.renderDefault_eq hkind, Site.renderDefault_eq (htag ▸ hkind), htag]
    apply hsim.map
    apply hsim.renderBodies
    exact (hsim.related_bodyScopes hscope site.tag.kind v).imp hbody

theorem related_render {site site' : Site κ} (htag : site'.tag = site.tag)
    (hscope : S site.scope site'.scope)
    (hbody : ∀ c c', S c c' → R (site.body c) (site'.body c')) {e : Expr} (he : Q e)
    (escapes : Bool) :
    R (site.render setting e escapes) (site'.render setting e escapes) := by
  unfold Site.render
  apply hsim.bind (hsim.evaluate he hscope)
  intro candidate
  exact hsim.observe escapes candidate htag hscope
    (hsim.related_renderDefault htag hscope hbody)

/-! ## Trees -/

mutual

theorem related_renderOn {deeper : List Node → ScopeChain κ → Run κ String}
    (hdeeper : ∀ nodes, (∀ e, ReachedExpr setting.partials nodes e → Q e) →
      ∀ c c', S c c' → R (deeper nodes c) (deeper nodes c'))
    (node : Node) (hexprs : ∀ e, ReachedExpr setting.partials [node] e → Q e)
    {c c' : ScopeChain κ} (h : S c c') :
    R (node.renderOn setting deeper c) (node.renderOn setting deeper c') := by
  cases node with
  | text content =>
      rw [Node.renderOn, Node.renderOn]
      exact hsim.ofExcept (.ok content)
  | partialTag name =>
      rw [Node.renderOn, Node.renderOn]
      cases hpartials : setting.partials with
      | none => exact hsim.ofExcept _
      | some resolve =>
          cases hresolve : resolve name with
          | error e =>
              simp only [hresolve]
              exact hsim.ofExcept _
          | ok nodes =>
              simp only [hresolve]
              apply hsim.framed
              apply hdeeper nodes _ c c' h
              intro e he
              exact hexprs e (he.of_included (by simp [partialNames, Node.partialNames])
                hpartials hresolve)
  | variableTag e escapes =>
      rw [Node.renderOn, Node.renderOn]
      apply hsim.related_render
      case htag => rfl
      case hscope => exact h
      case hbody => exact fun _ _ _ => hsim.ofExcept (.ok "")
      case he => exact hexprs e ⟨_, .self, by simp [exprs, Node.exprs]⟩
  | sectionTag inverted e body source =>
      rw [Node.renderOn, Node.renderOn]
      have hbody : ∀ e, ReachedExpr setting.partials body e → Q e := by
        intro e he
        exact hexprs e (he.of_subset (by simp [exprs, Node.exprs])
          (by simp [partialNames, Node.partialNames]))
      apply hsim.related_render
      case htag => rfl
      case hscope => exact h
      case hbody => exact fun _ _ h => related_renderNodesOn hdeeper body hbody h
      case he => exact hexprs e ⟨_, .self, by simp [exprs, Node.exprs]⟩

theorem related_renderNodesOn {deeper : List Node → ScopeChain κ → Run κ String}
    (hdeeper : ∀ nodes, (∀ e, ReachedExpr setting.partials nodes e → Q e) →
      ∀ c c', S c c' → R (deeper nodes c) (deeper nodes c'))
    (nodes : List Node) (hexprs : ∀ e, ReachedExpr setting.partials nodes e → Q e)
    {c c' : ScopeChain κ} (h : S c c') :
    R (renderNodesOn setting deeper nodes c) (renderNodesOn setting deeper nodes c') := by
  cases nodes with
  | nil =>
      rw [renderNodesOn, renderNodesOn]
      exact hsim.ofExcept (.ok "")
  | cons node rest =>
      rw [renderNodesOn, renderNodesOn]
      have hnode : ∀ e, ReachedExpr setting.partials [node] e → Q e := by
        intro e he
        exact hexprs e (he.of_subset (by simp [exprs]) (by simp [partialNames]))
      have hrest : ∀ e, ReachedExpr setting.partials rest e → Q e := by
        intro e he
        exact hexprs e (he.of_subset (by simp [exprs]) (by simp [partialNames]))
      exact hsim.join (related_renderOn hdeeper node hnode h)
        (related_renderNodesOn hdeeper rest hrest h)

end

theorem related_renderLevels (levels : Nat) (nodes : List Node)
    (hexprs : ∀ e, ReachedExpr setting.partials nodes e → Q e) {c c' : ScopeChain κ}
    (h : S c c') :
    R (renderLevels setting levels nodes c) (renderLevels setting levels nodes c') := by
  induction levels generalizing nodes c c' with
  | zero => exact hsim.ofExcept _
  | succ levels ih =>
      exact hsim.related_renderNodesOn (fun nodes hnodes _ _ h => ih nodes hnodes h) nodes
        hexprs h

/-- A tree is rendered alike in related chains. -/
theorem related_renderTree (nodes : List Node)
    (hexprs : ∀ e, ReachedExpr setting.partials nodes e → Q e) {c c' : ScopeChain κ}
    (h : S c c') : R (renderTree setting nodes c) (renderTree setting nodes c') :=
  hsim.related_renderLevels (setting.maxDepth + 1) nodes hexprs h

end ChainSimulation
end Mustache
