import Mathlib.Data.List.Forall2
import Mustache.Proofs.Render.SpanRules

/-!
# Comparing renders

A relation between runs that is kept by each way in which the engine puts runs together
is kept by the engine as a whole.  If it holds between what two places offer to the tag
that is rendered at them, then it holds between the two renders of the tag.

Overrides are taken to propagate errors, because an error may mean something different on
either side of a comparison, and to expand trees of a given kind only.
-/

namespace Mustache

variable {κ : Type}

namespace Run

/-- Goes on with what a run comes to, be it an error. -/
def settle {α β : Type} (x : Run κ α) (next : Except RenderError α → Run κ β) : Run κ β where
  trace := x.trace ++ (next x.result).trace
  result := (next x.result).result

/-- A run with events before it, and events after it that depend on its result. -/
def between {α : Type} (before : List (Event κ))
    (after : Except RenderError α → List (Event κ)) (x : Run κ α) : Run κ α where
  trace := before.map .event ++ x.trace ++ (after x.result).map .event
  result := x.result

theorem events_settle {α β : Type} (x : Run κ α) (next : Except RenderError α → Run κ β) :
    (x.settle next).events = x.events ++ (next x.result).events := by
  simp only [settle, events_mk, List.filterMap_append]
  rfl

theorem events_between {α : Type} (before : List (Event κ))
    (after : Except RenderError α → List (Event κ)) (x : Run κ α) :
    (x.between before after).events = before ++ x.events ++ after x.result := by
  have hevents : ∀ events : List (Event κ),
      (events.map Step.event).filterMap Step.event? = events := by
    intro events
    rw [List.filterMap_map]
    exact List.filterMap_some
  simp only [between, events_mk, List.filterMap_append, hevents]
  rfl

end Run

theorem observe_eq_between (host : Host κ) (tag : TagInfo) (hooks : List (Observer κ))
    (candidate : Value κ) (render : Value κ → Run κ String) :
    observe host tag hooks candidate render =
      let last := finalCandidate host tag hooks candidate
      (render last).between (opening host tag hooks candidate)
        fun result => closing tag hooks last result.toOption := by
  simp only [observe, willPhase_eq, didPhase_eq]
  rfl

namespace Site

variable (site : Site κ) (contentType : ContentType)
  (next : Except RenderError Rendering → Action κ)

theorem perform_inner (c : ScopeChain κ) :
    site.perform contentType (.inner c next) =
      (Run.framed .body (site.inner c)).settle fun result =>
        site.perform contentType (next (result.map (⟨·, contentType⟩))) := rfl

theorem perform_expand (nodes : List Node) (c : ScopeChain κ) :
    site.perform contentType (.expand nodes c next) =
      (Run.framed .template (site.expand nodes c)).settle fun result =>
        site.perform contentType (next (result.map (⟨·, contentType⟩))) := rfl

theorem perform_fallback (v : Value κ) :
    site.perform contentType (.fallback v next) =
      (site.renderDefault contentType v).settle fun result =>
        site.perform contentType (next result) := rfl

end Site

/-- The action expands, besides the body of its tag, trees with `P` only. -/
def Action.ExpandsOnly (P : List Node → Prop) : Action κ → Prop
  | .done _ => True
  | .log _ next => next.ExpandsOnly P
  | .inner _ next | .fallback _ next => ∀ r, (next r).ExpandsOnly P
  | .expand nodes _ next => P nodes ∧ ∀ r, (next r).ExpandsOnly P

theorem Action.expandsOnly_of_forall {P : List Node → Prop} (h : ∀ nodes, P nodes)
    (action : Action κ) : action.ExpandsOnly P := by
  induction action with
  | done result => trivial
  | log event next ih => exact ih
  | inner scope next ih => exact ih
  | expand nodes scope next ih => exact ⟨h nodes, ih⟩
  | fallback v next ih => exact ih

def Host.ExpandsOnly (host : Host κ) (P : List Node → Prop) : Prop :=
  ∀ handle request, (host.override handle request).ExpandsOnly P

/-! ## Relations between runs -/

/-- The relation is kept when one run follows another. -/
structure Sequential (R : {α : Type} → Run κ α → Run κ α → Prop) : Prop where
  ofExcept {α : Type} (result : Except RenderError α) :
    R (Run.ofExcept result) (Run.ofExcept result)
  bind {α β : Type} {x y : Run κ α} {f g : α → Run κ β} :
    R x y → (∀ a, R (f a) (g a)) → R (x >>= f) (y >>= g)

/-- The relation is kept by all the ways in which runs are put together. -/
structure Comparison (R : {α : Type} → Run κ α → Run κ α → Prop) : Prop
    extends Sequential R where
  emit (e : Event κ) : R (Run.emit e) (Run.emit e)
  settle {α β : Type} {x y : Run κ α} {f g : Except RenderError α → Run κ β} :
    R x y → (∀ e, f (.error e) = Run.fail e) → (∀ result, R (f result) (g result)) →
      R (x.settle f) (y.settle g)
  between {α : Type} {x y : Run κ α} (before : List (Event κ))
      (after : Except RenderError α → List (Event κ)) :
    R x y → R (x.between before after) (y.between before after)

/-- Two places for one tag, at which runs are related. -/
structure Comparison.Sites (R : {α : Type} → Run κ α → Run κ α → Prop) (P : List Node → Prop)
    (site site' : Site κ) : Prop where
  tag : site'.tag = site.tag
  scope : site'.scope = site.scope
  body (c : ScopeChain κ) : R (site.body c) (site'.body c)
  inner (c : ScopeChain κ) : R (.framed .body (site.inner c)) (.framed .body (site'.inner c))
  expand {nodes : List Node} (c : ScopeChain κ) : P nodes →
    R (.framed .template (site.expand nodes c)) (.framed .template (site'.expand nodes c))

namespace Sequential

variable {R : {α : Type} → Run κ α → Run κ α → Prop} (hR : Sequential R)
include hR

theorem map {α β : Type} {x y : Run κ α} (f : α → β) (h : R x y) :
    R (f <$> x) (f <$> y) := by
  rw [map_eq_pure_bind, map_eq_pure_bind]
  exact hR.bind h fun a => hR.ofExcept (.ok (f a))

theorem join {x x' y y' : Run κ String} (hx : R x x') (hy : R y y') :
    R (do let first ← x; let others ← y; return first ++ others)
      (do let first ← x'; let others ← y'; return first ++ others) := by
  apply hR.bind hx
  intro first
  apply hR.bind hy
  intro others
  exact hR.ofExcept (.ok (first ++ others))

theorem renderBodies {body body' : ScopeChain κ → Run κ String}
    {scopes scopes' : List (ScopeChain κ)}
    (h : List.Forall₂ (fun c c' => R (body c) (body' c')) scopes scopes') :
    R (renderBodies body scopes) (renderBodies body' scopes') := by
  induction h with
  | nil => exact hR.ofExcept (.ok "")
  | cons hbody _ ih => exact hR.join hbody ih

end Sequential

namespace Comparison

variable {R : {α : Type} → Run κ α → Run κ α → Prop} (hR : Comparison R)
include hR

theorem evaluate (host : Host κ) (c : ScopeChain κ) (e : Expr) :
    R (e.evaluate host c) (e.evaluate host c) := by
  induction e with
  | implicit => exact hR.ofExcept (.ok c.top)
  | name id => exact hR.ofExcept (.ok (c.resolve id))
  | member base key ih =>
      rw [Expr.evaluate]
      exact hR.bind ih fun v => hR.ofExcept (.ok _)
  | call f a hf ha =>
      rw [Expr.evaluate]
      apply hR.bind hf
      intro function
      apply hR.bind ha
      intro argument
      cases function.filter with
      | none => exact hR.ofExcept _
      | some filter => exact hR.bind (hR.emit _) fun _ => hR.ofExcept _

variable {P : List Node → Prop} {site site' : Site κ} (hsites : Sites R P site site')
include hsites

theorem renderDefault (contentType : ContentType) (v : Value κ) :
    R (site.renderDefault contentType v) (site'.renderDefault contentType v) := by
  by_cases hkind : site.tag.kind = .variableTag
  · have hkind' : site'.tag.kind = .variableTag := by rw [hsites.tag, hkind]
    rw [Site.renderDefault_variable hkind, Site.renderDefault_variable hkind']
    exact hR.ofExcept (.ok (⟨v.text, .text⟩ : Rendering))
  · have hkind' : site'.tag.kind ≠ .variableTag := by rwa [hsites.tag]
    rw [Site.renderDefault_eq hkind, Site.renderDefault_eq hkind', hsites.tag, hsites.scope]
    exact hR.map _ (hR.renderBodies (List.forall₂_same.2 fun c _ => hsites.body c))

theorem perform (contentType : ContentType) {action : Action κ}
    (hpropagates : action.Propagates) (hexpands : action.ExpandsOnly P) :
    R (site.perform contentType action) (site'.perform contentType action) := by
  induction action with
  | done result => exact hR.ofExcept result
  | log event next ih =>
      exact hR.bind (hR.emit event) fun _ => ih hpropagates hexpands
  | inner scope next ih =>
      obtain ⟨hstops, hnext⟩ := hpropagates
      rw [Site.perform_inner, Site.perform_inner]
      apply hR.settle (hsites.inner scope)
      · intro e
        exact congrArg (site.perform contentType) (hstops e)
      · intro result
        exact ih _ (hnext _) (hexpands _)
  | expand nodes scope next ih =>
      obtain ⟨hstops, hnext⟩ := hpropagates
      obtain ⟨hnodes, hexpands⟩ := hexpands
      rw [Site.perform_expand, Site.perform_expand]
      apply hR.settle (hsites.expand scope hnodes)
      · intro e
        exact congrArg (site.perform contentType) (hstops e)
      · intro result
        exact ih _ (hnext _) (hexpands _)
  | fallback v next ih =>
      obtain ⟨hstops, hnext⟩ := hpropagates
      rw [Site.perform_fallback, Site.perform_fallback]
      apply hR.settle (hR.renderDefault hsites contentType v)
      · intro e
        exact congrArg (site.perform contentType) (hstops e)
      · intro result
        exact ih _ (hnext _) (hexpands _)

variable {setting : Setting κ} (hpropagates : setting.host.Propagates)
  (hexpands : setting.host.ExpandsOnly P)
include hpropagates hexpands

theorem fragment (v : Value κ) : R (site.fragment setting v) (site'.fragment setting v) := by
  by_cases hdefault : site.tag.kind = .invertedTag ∨ v.override = none
  · have hdefault' : site'.tag.kind = .invertedTag ∨ v.override = none := by
      rwa [hsites.tag]
    rw [Site.fragment_eq_renderDefault hdefault, Site.fragment_eq_renderDefault hdefault']
    exact hR.renderDefault hsites setting.contentType v
  · obtain ⟨hkind, hoverride⟩ := not_or.1 hdefault
    obtain ⟨o, ho⟩ := Option.ne_none_iff_exists'.1 hoverride
    let action := v.render setting.host
      { tag := site.tag, scope := site.scope, contentType := setting.contentType }
    have haction : action.Propagates ∧ action.ExpandsOnly P := by
      simp only [action, Value.render, ho]
      cases o with
      | fixed rendering => exact ⟨trivial, trivial⟩
      | host handle => exact ⟨hpropagates handle _, hexpands handle _⟩
    have hperform := hR.perform hsites setting.contentType haction.1 haction.2
    unfold Site.fragment
    rw [hsites.tag, hsites.scope]
    cases h : site.tag.kind with
    | invertedTag => exact absurd h hkind
    | variableTag => exact hperform
    | sectionTag => exact hperform

/-- The renders of a tag are related if what its places offer is. -/
theorem render (expr : Expr) (escapes : Bool) :
    R (site.render setting expr escapes) (site'.render setting expr escapes) := by
  unfold Site.render
  rw [hsites.tag, hsites.scope]
  apply hR.bind (hR.evaluate setting.host site.scope expr)
  intro candidate
  rw [observe_eq_between, observe_eq_between]
  apply hR.between
  apply hR.bind (hR.fragment hsites hpropagates hexpands _)
  intro rendering
  exact hR.ofExcept (.ok _)

end Comparison
end Mustache
