import Mustache.Proofs.Render.ChainSimulation

/-!
# The views of a scope chain

Rendering gets to see a scope chain through its scopes and its hooks only.  How they are
spread over the links of the chain, and in which order scopes and hooks were pushed among
each other, makes no difference to the text, to the error or to any step of a render.

The exception is a render override of the host, which is given the chain itself.
-/

namespace Mustache

variable {κ : Type}

/-! ## What evaluation sees -/

namespace ScopeChain

variable {c c' : ScopeChain κ}

theorem top_congr (h : c'.scopes = c.scopes) : c'.top = c.top := by
  rw [top, top, h]

theorem position?_congr (h : c'.scopes = c.scopes) : c'.position? = c.position? := by
  rw [position?, position?, h]

theorem resolve_congr (h : c'.scopes = c.scopes) (id : String) :
    c'.resolve id = c.resolve id := by
  rw [resolve, resolve, position?_congr h, h]

end ScopeChain

/-- An expression has no regard to hooks. -/
theorem Expr.evaluate_congr {c c' : ScopeChain κ} (h : c'.scopes = c.scopes) (host : Host κ)
    (e : Expr) : e.evaluate host c' = e.evaluate host c := by
  induction e with
  | implicit => rw [evaluate, evaluate, ScopeChain.top_congr h]
  | name id => rw [evaluate, evaluate, ScopeChain.resolve_congr h]
  | member base key ih => rw [evaluate, evaluate, ih]
  | call f a hf ha => rw [evaluate, evaluate, hf, ha]

/-! ## Runs that repeat each other -/

namespace Run

/-- Unless it calls an override of the host, the first run is the second one. -/
def RepeatedBy {α : Type} (x y : Run κ α) : Prop :=
  x.NoHostOverride → y = x

theorem RepeatedBy.refl {α : Type} (x : Run κ α) : x.RepeatedBy x :=
  fun _ => rfl

theorem RepeatedBy.bind {α β : Type} {x y : Run κ α} {f g : α → Run κ β}
    (h : x.RepeatedBy y) (hnext : ∀ a, (f a).RepeatedBy (g a)) :
    (x >>= f).RepeatedBy (y >>= g) := by
  intro hcalls
  obtain ⟨hxcalls, hfcalls⟩ := Avoids.of_bind hcalls
  rw [h hxcalls]
  cases hresult : x.result with
  | error e => rw [bind_of_error hresult, bind_of_error hresult]
  | ok a => rw [bind_of_ok hresult, bind_of_ok hresult, hnext a (hfcalls a hresult)]

theorem RepeatedBy.framed {α : Type} {x y : Run κ α} (frame : Frame) (h : x.RepeatedBy y) :
    (framed frame x).RepeatedBy (framed frame y) := by
  intro hcalls
  rw [NoHostOverride, Avoids, events_framed] at hcalls
  rw [h hcalls]

end Run

/-! ## Chains with the same views -/

/-- The chains offer the same scopes and the same hooks in the same order. -/
structure ScopeChain.SameViews (c c' : ScopeChain κ) : Prop where
  scopes : c'.scopes = c.scopes
  hooks : c'.hooks = c.hooks

theorem ScopeChain.SameViews.extended {c c' : ScopeChain κ} (h : c.SameViews c')
    (v : Value κ) : (c.extended v).SameViews (c'.extended v) where
  scopes := by rw [scopes_extended, scopes_extended, h.scopes]
  hooks := by rw [hooks_extended, hooks_extended, h.hooks]

/-- Chains with the same hooks are told apart by expressions only. -/
theorem repeatedBy_simulation {setting : Setting κ} {Q : Expr → Prop}
    {S : ScopeChain κ → ScopeChain κ → Prop}
    (hextended : ∀ {c c'} (v : Value κ), S c c' → S (c.extended v) (c'.extended v))
    (hhooks : ∀ {c c'}, S c c' → c'.hooks = c.hooks)
    (hevaluate : ∀ {c c'} {e : Expr}, Q e → S c c' →
      e.evaluate setting.host c' = e.evaluate setting.host c) :
    ChainSimulation setting Q S Run.RepeatedBy where
  ofExcept result := .refl _
  bind := .bind
  framed := .framed
  extended := hextended
  evaluate he h := by
    rw [hevaluate he h]
    exact .refl _
  observe escapes candidate htag hscope hdefault := by
    intro hcalls
    have hfragment := Site.fragment_related Eq.refl htag (hdefault _)
      (Site.noHostOverride_of_observe hcalls)
    rw [observe_eq_between, observe_eq_between, htag, hhooks hscope]
    simp only [Site.renderValue, hfragment]

theorem sameViews_simulation (setting : Setting κ) :
    ChainSimulation setting (fun _ => True) ScopeChain.SameViews Run.RepeatedBy :=
  repeatedBy_simulation (fun v h => h.extended v) (·.hooks) fun {_ _ e} _ h =>
    e.evaluate_congr h.scopes setting.host

namespace ScopeChain

/-- No render tells the second chain from the first one, unless it calls an override of the
host. -/
def StandsIn (c c' : ScopeChain κ) : Prop :=
  ∀ (setting : Setting κ) (nodes : List Node),
    (renderTree setting nodes c).NoHostOverride →
      renderTree setting nodes c' = renderTree setting nodes c

theorem SameViews.standsIn {c c' : ScopeChain κ} (h : c.SameViews c') : c.StandsIn c' :=
  fun setting nodes =>
    (sameViews_simulation setting).related_renderTree nodes (fun _ _ => trivial) h

end ScopeChain

/-- A render sees a chain only through its scopes and its hooks.  So a hook is out of the
sight of lookups and a scope out of the sight of hooks, the two can be pushed in either
order, pushing a value is pushing a scope and then a hook, and a hook without an observer is
not there at all. -/
theorem renderTree_sees_views :
    (∀ c c' : ScopeChain κ, c'.scopes = c.scopes → c'.hooks = c.hooks → c.StandsIn c') ∧
      (∀ (c : ScopeChain κ) (v : Value κ), (c.withHook v).top = c.top ∧
        (c.withHook v).position? = c.position? ∧
        ∀ id, (c.withHook v).resolve id = c.resolve id) ∧
      (∀ (c : ScopeChain κ) (v : Value κ), (c.withScope v).hooks = c.hooks) ∧
      (∀ (c : ScopeChain κ) (v w : Value κ),
        ((c.withScope v).withHook w).StandsIn ((c.withHook w).withScope v)) ∧
      (∀ (c : ScopeChain κ) (v : Value κ),
        (c.extended v).StandsIn ((c.withScope v).withHook v)) ∧
      (∀ (c : ScopeChain κ) (v : Value κ), v.observer = none →
        c.StandsIn (c.withHook v)) := by
  refine ⟨?views, ?hookUnseen, ?scopeUnseen, ?commute, ?extended, ?unobserved⟩
  case views =>
    intro c c' hscopes hhooks
    exact ScopeChain.SameViews.standsIn ⟨hscopes, hhooks⟩
  case hookUnseen =>
    intro c v
    have hscopes := ScopeChain.scopes_withHook c v
    exact ⟨ScopeChain.top_congr hscopes, ScopeChain.position?_congr hscopes,
      ScopeChain.resolve_congr hscopes⟩
  case scopeUnseen => exact ScopeChain.hooks_withScope
  case commute =>
    intro c v w
    exact ScopeChain.SameViews.standsIn ⟨rfl, rfl⟩
  case extended =>
    intro c v
    apply ScopeChain.SameViews.standsIn
    exact ⟨rfl, by rw [ScopeChain.hooks_withHook, ScopeChain.hooks_withScope,
      ScopeChain.hooks_extended]⟩
  case unobserved =>
    intro c v hobserver
    apply ScopeChain.SameViews.standsIn
    exact ⟨rfl, by rw [ScopeChain.hooks_withHook, hobserver]; rfl⟩

/-- A hook that marks variables, registered before and after the data is pushed. -/
theorem renderTree_sees_views_reordered :
    let mark : TagInfo → Value Unit → Value Unit := fun tag v =>
      if tag.kind = .variableTag then .ofString (v.text ++ "!") else v
    let host : Host Unit := ⟨fun _ v => .ok v, fun _ => mark, fun _ _ => .done (.ok default)⟩
    let setting : Setting Unit := ⟨host, .html, 1, none⟩
    let nodes : List Node := [.sectionTag false (.name "x") [.variableTag .implicit true] ""]
    let hook : Value Unit := { observer := some ⟨some (), none⟩ }
    let data : Value Unit := .ofEntries [("x", .ofList [.ofString "<", .ofString "b"])]
    let c := (ScopeChain.empty.withHook hook).withScope data
    let c' := (ScopeChain.empty.withScope data).withHook hook
    (c.links.map (·.hook.isSome) = [false, true] ∧
        c'.links.map (·.hook.isSome) = [true, false]) ∧
      c'.scopes = c.scopes ∧ c'.hooks = c.hooks ∧
      (renderTree setting nodes c).NoHostOverride ∧
      (renderTree setting nodes c).result.toOption = some "&lt;!b!" ∧
      renderTree setting nodes c' = renderTree setting nodes c := by
  intro mark host setting nodes hook data c c'
  have hcalls : (renderTree setting nodes c).NoHostOverride := by
    unfold Run.NoHostOverride Run.Avoids
    decide +kernel
  refine ⟨⟨rfl, rfl⟩, rfl, rfl, hcalls, by decide +kernel, ?_⟩
  exact renderTree_sees_views.1 c c' rfl rfl setting nodes hcalls

end Mustache
