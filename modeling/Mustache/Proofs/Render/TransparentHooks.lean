import Mustache.Proofs.Render.ChainViews
import Mustache.Script.Host
import Mustache.Template.Basic

/-!
# Transparent hooks

A hook is transparent if it leaves the value of a tag alone or puts a render override on it
that delegates to the rendering the value would have had.  Transparent hooks that are
registered before anything else are the outermost ones at every tag, so each tag first gets
the value that it would have had without them.  They may wrap that value, several of them
one around the other, but the tag makes of it what it would have made of the value itself.
The bodies of sections never see a wrapped value, because delegation ends in the default
rendering of the value that was wrapped.

This takes for granted that the render calls no override of the host on its own, for such an
override could look at the chain and find the hooks there.
-/

namespace Mustache

variable {κ : Type}

/-- Whatever else the action reports, it ends in the rendering of `v`. -/
def Action.Delegates (host : Host κ) (v : Value κ) (request : Request κ)
    (action : Action κ) : Prop :=
  ∃ events, action = .logAll events (v.render host request)

/-- If the hook has a will function, it returns the value of a tag as it is or with a render
override that delegates to the value's own rendering. -/
def Observer.Transparent (host : Host κ) (o : Observer κ) : Prop :=
  ∀ h, o.will = some h → ∀ tag v,
    host.will h tag v = v ∨
      ∃ handle, host.will h tag v = { v with override := some (.host handle) } ∧
        ∀ request, (host.override handle request).Delegates host v request

/-! ## Wrapped values -/

/-- What transparent hooks can make of the value `v`. -/
inductive Wraps (host : Host κ) (v : Value κ) : Value κ → Prop where
  | plain : Wraps host v v
  | wrapped {w : Value κ} {handle : κ} :
      Wraps host v w → (∀ request, (host.override handle request).Delegates host w request) →
        Wraps host v { w with override := some (.host handle) }

theorem Observer.Transparent.wraps_replace {host : Host κ} {o : Observer κ}
    (ho : o.Transparent host) (tag : TagInfo) {v w : Value κ} (h : Wraps host v w) :
    Wraps host v (o.replace host tag w) := by
  unfold Observer.replace
  cases hwill : o.will with
  | none => exact h
  | some hook =>
      rcases ho hook hwill tag w with hsame | ⟨handle, hwrapped, hdelegates⟩
      · simp only [hsame]
        exact h
      · simp only [hwrapped]
        exact .wrapped h hdelegates

theorem wraps_finalCandidate {host : Host κ} {hooks : List (Observer κ)}
    (hhooks : ∀ o ∈ hooks, o.Transparent host) (tag : TagInfo) {v w : Value κ}
    (h : Wraps host v w) : Wraps host v (finalCandidate host tag hooks w) := by
  unfold finalCandidate
  induction hooks generalizing w with
  | nil => exact h
  | cons o outer ih =>
      rw [List.foldl_cons]
      apply ih fun o' ho' => hhooks o' (List.mem_cons_of_mem o ho')
      exact (hhooks o List.mem_cons_self).wraps_replace tag h

theorem finalCandidate_append (host : Host κ) (tag : TagInfo) (hooks outer : List (Observer κ))
    (v : Value κ) :
    finalCandidate host tag (hooks ++ outer) v =
      finalCandidate host tag outer (finalCandidate host tag hooks v) :=
  List.foldl_append

/-- A tag makes of a wrapped value what it makes of the value. -/
theorem Wraps.result_fragment {setting : Setting κ} {v w : Value κ}
    (h : Wraps setting.host v w) (site : Site κ) :
    (site.fragment setting w).result = (site.fragment setting v).result := by
  induction h with
  | plain => rfl
  | @wrapped w handle _ hdelegates ih =>
      rw [← ih]
      unfold Site.fragment
      cases hkind : site.tag.kind with
      | invertedTag =>
          simp only [Site.renderDefault, hkind]
          rfl
      | variableTag | sectionTag =>
          dsimp only
          obtain ⟨events, hevents⟩ := hdelegates
            { tag := site.tag, scope := site.scope, contentType := setting.contentType }
          simp only [Value.render, Site.result_perform_log] at hevents ⊢
          rw [hevents, Site.result_perform_logAll]

/-! ## Runs with the same result -/

namespace Run

/-- Unless the first run calls an override of the host, the second one has its result. -/
def AnsweredBy {α : Type} (x y : Run κ α) : Prop :=
  x.NoHostOverride → y.result = x.result

theorem AnsweredBy.bind {α β : Type} {x y : Run κ α} {f g : α → Run κ β}
    (h : x.AnsweredBy y) (hnext : ∀ a, (f a).AnsweredBy (g a)) :
    (x >>= f).AnsweredBy (y >>= g) := by
  intro hcalls
  obtain ⟨hxcalls, hfcalls⟩ := Avoids.of_bind hcalls
  have hy := h hxcalls
  cases hresult : x.result with
  | error e =>
      rw [hresult] at hy
      rw [result_bind_of_error hresult, result_bind_of_error hy]
  | ok a =>
      rw [hresult] at hy
      rw [result_bind_of_ok hresult, result_bind_of_ok hy, hnext a (hfcalls a hresult)]

theorem AnsweredBy.framed {α : Type} {x y : Run κ α} (frame : Frame) (h : x.AnsweredBy y) :
    (framed frame x).AnsweredBy (framed frame y) := by
  intro hcalls
  rw [NoHostOverride, Avoids, events_framed] at hcalls
  exact h hcalls

end Run

/-! ## Chains with more hooks -/

/-- The second chain differs from the first one by hooks that are further out than all
others. -/
structure ScopeChain.HookedBy (outer : List (Observer κ)) (c c' : ScopeChain κ) : Prop where
  scopes : c'.scopes = c.scopes
  hooks : c'.hooks = c.hooks ++ outer

theorem ScopeChain.HookedBy.extended {outer : List (Observer κ)} {c c' : ScopeChain κ}
    (h : c.HookedBy outer c') (v : Value κ) :
    (c.extended v).HookedBy outer (c'.extended v) where
  scopes := by rw [scopes_extended, scopes_extended, h.scopes]
  hooks := by rw [hooks_extended, hooks_extended, h.hooks, List.append_assoc]

theorem hookedBy_simulation {setting : Setting κ} {outer : List (Observer κ)}
    (houter : ∀ o ∈ outer, o.Transparent setting.host) :
    ChainSimulation setting (fun _ => True) (ScopeChain.HookedBy outer) Run.AnsweredBy where
  ofExcept result := fun _ => rfl
  bind := .bind
  framed := .framed
  extended v h := h.extended v
  evaluate e h := by
    rw [Expr.evaluate_congr h.scopes]
    exact fun _ => rfl
  observe {site site'} escapes candidate htag hscope hdefault := by
    intro hcalls
    have hfragment := Site.fragment_related (E := fun y x => y.result = x.result)
      (fun _ => rfl) htag (hdefault _) (Site.noHostOverride_of_observe hcalls)
    rw [result_observe, result_observe, Site.result_renderValue, Site.result_renderValue, htag,
      hscope.hooks, finalCandidate_append, ← hfragment]
    rw [(wraps_finalCandidate houter site.tag .plain).result_fragment site']

/-! ## Scripts -/

theorem Action.mapDone_eq_self {f : Rendering → Rendering} (hf : ∀ r, f r = r)
    (action : Action κ) : action.mapDone f = action := by
  induction action with
  | done result =>
      cases result with
      | error e => rfl
      | ok r => rw [mapDone, Except.map, hf]
  | log event next ih => rw [mapDone, ih]
  | inner scope next ih => simp only [mapDone, ih]
  | expand nodes scope next ih => simp only [mapDone, ih]
  | fallback v next ih => simp only [mapDone, ih]

namespace Script

theorem render_filterHost {v : Value Script} (h : ∀ s, v.override ≠ some (.host s))
    (request : Request Script) :
    v.render filterHost request = v.render host request := by
  unfold Value.render
  cases hoverride : v.override with
  | none => rfl
  | some o =>
      cases o with
      | fixed rendering => rfl
      | host s => exact absurd hoverride (h s)

/-- Wrapping a value to put nothing around its text is rendering the value. -/
theorem act_wrapped_nothing (v : Value Script) (request : Request Script) :
    act request (.wrapped v (.mark "")) = v.render host request := by
  have hnothing : ∀ r, (Wrapping.mark "").apply r = r := by
    intro r
    simp [Wrapping.apply]
  obtain ⟨data, override, filter, observer, position⟩ := v
  cases override with
  | none =>
      rw [act, Action.mapDone_eq_self hnothing, render_filterHost (by simp)]
      simp
  | some o =>
      cases o with
      | fixed rendering =>
          rw [act, Action.mapDone_eq_self hnothing, render_filterHost (by simp)]
          simp
      | host s =>
          rw [act, Action.mapDone_eq_self hnothing]
          rfl

/-- A scripted hook is transparent if all it puts around a text is nothing. -/
theorem transparent_mark_nothing (id : String) (tags : TagFilter) (did : Option Script) :
    Observer.Transparent host ⟨some (.will id tags (.mark "")), did⟩ := by
  intro h hwill tag v
  obtain rfl := Option.some.inj hwill
  simp only [host, scriptWill]
  split
  · exact .inr ⟨.wrapped v (.mark ""), rfl, fun request => ⟨[], act_wrapped_nothing v request⟩⟩
  · exact .inl rfl

end Script

/-! ## Templates -/

/-- The chain with its scopes only. -/
def ScopeChain.withoutHooks (c : ScopeChain κ) : ScopeChain κ :=
  ⟨c.links.map fun link => { link with hook := none }⟩

@[simp] theorem ScopeChain.scopes_withoutHooks (c : ScopeChain κ) :
    c.withoutHooks.scopes = c.scopes := by
  simp only [withoutHooks, scopes, List.filterMap_map]
  rfl

@[simp] theorem ScopeChain.hooks_withoutHooks (c : ScopeChain κ) :
    c.withoutHooks.hooks = [] := by
  simp [withoutHooks, hooks]

namespace Template

def withoutHooks (t : Template κ) : Template κ :=
  { t with base := t.base.withoutHooks }

def registerHooks (t : Template κ) (hooks : List (Value κ)) : Template κ :=
  hooks.foldl registerHook t

theorem registerHooks_eq (t : Template κ) (hooks : List (Value κ)) :
    t.registerHooks hooks = { t with base := (t.registerHooks hooks).base } := by
  induction hooks generalizing t with
  | nil => rfl
  | cons h rest ih => exact ih (t.registerHook h)

theorem scopes_registerHooks (t : Template κ) (hooks : List (Value κ)) :
    (t.registerHooks hooks).base.scopes = t.base.scopes := by
  induction hooks generalizing t with
  | nil => rfl
  | cons h rest ih => exact ih (t.registerHook h)

theorem mem_hooks_registerHooks {t : Template κ} {hooks : List (Value κ)} {o : Observer κ}
    (ho : o ∈ (t.registerHooks hooks).base.hooks) :
    o ∈ t.base.hooks ∨ ∃ h ∈ hooks, h.observer = some o := by
  induction hooks generalizing t with
  | nil => exact .inl ho
  | cons h rest ih =>
      rcases @ih (t.registerHook h) ho with hbase | ⟨h', hmem, hobserver⟩
      · rw [registerHook, ScopeChain.hooks_withHook, List.mem_append, Option.mem_toList] at hbase
        rcases hbase with hnew | hold
        · exact .inr ⟨h, List.mem_cons_self, hnew⟩
        · exact .inl hold
      · exact .inr ⟨h', List.mem_cons_of_mem h hmem, hobserver⟩

/-- Whatever transparent hooks there are in the base of a template, it renders like one that
has none. -/
theorem render_withoutHooks_answered (t : Template κ) {host : Host κ}
    (partials : Option (String → Except RenderError (List Node))) (data : Value κ)
    {base : ScopeChain κ} (hscopes : base.scopes = t.base.scopes)
    (hhooks : ∀ o ∈ base.hooks, o.Transparent host) :
    (t.withoutHooks.render host partials data).AnsweredBy
      (Template.render { t with base } host partials data) := by
  have hhooked : t.base.withoutHooks.HookedBy base.hooks base :=
    { scopes := by rw [ScopeChain.scopes_withoutHooks, hscopes]
      hooks := by rw [ScopeChain.hooks_withoutHooks, List.nil_append] }
  have hsim : ChainSimulation (t.setting host partials) (fun _ => True)
      (ScopeChain.HookedBy base.hooks) Run.AnsweredBy := hookedBy_simulation hhooks
  exact hsim.related_renderTree t.nodes (fun _ _ => trivial) (hhooked.extended data)

/-- Registering transparent hooks changes neither the text nor the error of a render, as long
as the data and the filters, without any hooks, do not come to an override of the host. -/
theorem render_registerHooks (t : Template κ) (host : Host κ)
    (partials : Option (String → Except RenderError (List Node))) (data : Value κ)
    (hooks : List (Value κ)) (hbase : ∀ o ∈ t.base.hooks, o.Transparent host)
    (hhooks : ∀ h ∈ hooks, ∀ o, h.observer = some o → o.Transparent host)
    (hcalls : (t.withoutHooks.render host partials data).NoHostOverride) :
    ((t.registerHooks hooks).render host partials data).result =
      (t.render host partials data).result := by
  have hregistered : ∀ o ∈ (t.registerHooks hooks).base.hooks, o.Transparent host := by
    intro o ho
    rcases mem_hooks_registerHooks ho with hold | ⟨h, hmem, hobserver⟩
    · exact hbase o hold
    · exact hhooks h hmem o hobserver
  calc ((t.registerHooks hooks).render host partials data).result
      = (t.withoutHooks.render host partials data).result := by
        rw [registerHooks_eq]
        exact t.render_withoutHooks_answered partials data (scopes_registerHooks t hooks)
          hregistered hcalls
    _ = (t.render host partials data).result :=
        (t.render_withoutHooks_answered partials data rfl hbase hcalls).symm

/-- Two hooks that wrap one around the other, and one that only looks on. -/
theorem render_registerHooks_wrapped_twice :
    let t : Template Script :=
      { nodes :=
          [.sectionTag false (.name "xs")
              [.variableTag .implicit true,
                .variableTag (.call (.name "HTMLEscape") .implicit) true] "",
            .sectionTag true (.name "ys") [.text "-"] ""]
        config := {}
        base := .standard }
    let wrap : Script := .will "wrap" {} (.mark "")
    let wrapSections : Script := .will "sections" { kind := some .sectionTag } (.mark "")
    let hooks : List (Value Script) :=
      [{ observer := some ⟨some wrap, none⟩ },
        { observer := some ⟨some wrapSections, some (.did "did")⟩ },
        { observer := some ⟨none, some (.did "last")⟩ }]
    let data : Value Script := .ofEntries [("xs", .ofList [.ofString "<", .ofString "b"])]
    (∀ o ∈ t.base.hooks, o.Transparent Script.host) ∧
      (∀ h ∈ hooks, ∀ o, h.observer = some o → o.Transparent Script.host) ∧
      (t.withoutHooks.render Script.host none data).NoHostOverride ∧
      ¬ ((t.registerHooks hooks).render Script.host none data).NoHostOverride ∧
      (t.render Script.host none data).result.toOption = some "&lt;&lt;bb-" ∧
      ((t.registerHooks hooks).render Script.host none data).result =
        (t.render Script.host none data).result := by
  intro t wrap wrapSections hooks data
  have hbase : ∀ o ∈ t.base.hooks, o.Transparent Script.host := nofun
  have hhooks : ∀ h ∈ hooks, ∀ o, h.observer = some o → o.Transparent Script.host := by
    intro h hmem o hobserver
    simp only [hooks, List.mem_cons, List.not_mem_nil, or_false] at hmem
    rcases hmem with rfl | rfl | rfl <;> obtain rfl := Option.some.inj hobserver
    · exact Script.transparent_mark_nothing _ _ _
    · exact Script.transparent_mark_nothing _ _ _
    · exact nofun
  have hcalls : (t.withoutHooks.render Script.host none data).NoHostOverride := by
    unfold Run.NoHostOverride Run.Avoids
    decide +kernel
  have hwrapped : ¬ ((t.registerHooks hooks).render Script.host none data).NoHostOverride := by
    unfold Run.NoHostOverride Run.Avoids
    decide +kernel
  refine ⟨hbase, hhooks, hcalls, hwrapped, by decide +kernel, ?_⟩
  exact render_registerHooks t Script.host none data hooks hbase hhooks hcalls

end Template
end Mustache
