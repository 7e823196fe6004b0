import Mustache.Proofs.Render.SpanRules

/-!
# The hook trace of a render

Every render, whatever it comes to, has spans as the rules describe them: the events of
each tag are bracketed by the hooks of its scope chain, and each did function is given
the text that the tag contributes or learns that there is none.  After a failure that
nothing catches, only the did functions of the tags around it are called.
-/

namespace Mustache

variable {κ : Type}

/-- The events of the run are those of spans that `P` allows for its result. -/
def Traced {α : Type} (host : Host κ) (x : Run κ α)
    (P : List (Span κ) → Except RenderError α → Prop) : Prop :=
  ∃ spans, x.events = spanEvents host spans ∧ P spans x.result

section Runs

variable {host : Host κ}

theorem Traced.mono {α : Type} {x : Run κ α}
    {P Q : List (Span κ) → Except RenderError α → Prop} (h : Traced host x P)
    (himp : ∀ spans result, P spans result → Q spans result) : Traced host x Q := by
  obtain ⟨spans, hevents, hP⟩ := h
  exact ⟨spans, hevents, himp _ _ hP⟩

theorem Traced.silent {α : Type} {x : Run κ α}
    {P : List (Span κ) → Except RenderError α → Prop} (hevents : x.events = [])
    (hP : P [] x.result) : Traced host x P :=
  ⟨[], by rw [hevents, spanEvents], hP⟩

theorem Traced.framed {α : Type} {x : Run κ α} {frame : Frame}
    {P : List (Span κ) → Except RenderError α → Prop} (h : Traced host x P) :
    Traced host (.framed frame x) P := by
  obtain ⟨spans, hevents, hP⟩ := h
  exact ⟨spans, by rw [Run.events_framed, hevents], hP⟩

theorem Traced.map {α β : Type} {x : Run κ α} {f : α → β}
    {P : List (Span κ) → Except RenderError α → Prop}
    {Q : List (Span κ) → Except RenderError β → Prop} (h : Traced host x P)
    (himp : ∀ spans result, P spans result → Q spans (result.map f)) :
    Traced host (f <$> x) Q := by
  obtain ⟨spans, hevents, hP⟩ := h
  refine ⟨spans, ?_, ?_⟩
  · rw [Run.events_map, hevents]
  · rw [Run.result_map]
    exact himp _ _ hP

theorem Traced.join {x y : Run κ String}
    {P Q R : List (Span κ) → Except RenderError String → Prop}
    (hx : Traced host x P) (hy : Traced host y Q)
    (hcons : ∀ {first others text result}, P first (.ok text) → Q others result →
      R (first ++ others) (result.map (text ++ ·)))
    (hstop : ∀ {spans e}, P spans (.error e) → R spans (.error e)) :
    Traced host (do let first ← x; let others ← y; return first ++ others) R := by
  obtain ⟨first, hxevents, hP⟩ := hx
  cases hresult : x.result with
  | error e =>
      rw [hresult] at hP
      refine ⟨first, ?_, ?_⟩
      · rw [Run.events_bind_of_error hresult, hxevents]
      · rw [Run.result_bind_of_error hresult]
        exact hstop hP
  | ok text =>
      rw [hresult] at hP
      obtain ⟨others, hyevents, hQ⟩ := hy
      refine ⟨first ++ others, ?_, ?_⟩
      · rw [Run.events_bind_of_ok hresult, ← map_eq_pure_bind, Run.events_map, hxevents,
          hyevents, spanEvents_append]
      · rw [Run.result_bind_of_ok hresult, ← map_eq_pure_bind, Run.result_map]
        exact hcons hP hQ

theorem Traced.append {α β : Type} {x : Run κ α} {y : Run κ β}
    {P : List (Span κ) → Except RenderError α → Prop}
    {Q R : List (Span κ) → Except RenderError β → Prop}
    (hx : Traced host x P) (hy : Traced host y Q)
    (happend : ∀ {first others}, P first x.result → Q others y.result →
      R (first ++ others) y.result) :
    Traced host { trace := x.trace ++ y.trace, result := y.result } R := by
  obtain ⟨first, hxevents, hP⟩ := hx
  obtain ⟨others, hyevents, hQ⟩ := hy
  refine ⟨first ++ others, ?_, happend hP hQ⟩
  rw [Run.events_mk, List.filterMap_append, spanEvents_append, ← hxevents, ← hyevents]
  rfl

end Runs

/-! ## Tags -/

/-- The renderings that a site can ask for have the spans of the trees they render. -/
structure TracedSite (setting : Setting κ) (n : Nat) (body : List Node) (site : Site κ) :
    Prop where
  ofBody : ∀ c, Traced setting.host (site.body c) (NodesSpans setting (n + 1) body c)
  ofInner : ∀ c, Traced setting.host (site.inner c) (NodesSpans setting n body c)
  ofExpand : ∀ nodes c,
    Traced setting.host (site.expand nodes c) (NodesSpans setting n nodes c)

section Sites

variable {setting : Setting κ} {n : Nat} {body : List Node}

theorem traced_renderBodies {render : ScopeChain κ → Run κ String}
    (hbody : ∀ c, Traced setting.host (render c) (NodesSpans setting (n + 1) body c))
    (scopes : List (ScopeChain κ)) :
    Traced setting.host (renderBodies render scopes) (BodiesSpans setting n body scopes) := by
  induction scopes with
  | nil => exact .silent rfl .nil
  | cons c rest ih => exact (hbody c).join ih .cons .stop

variable {site : Site κ}

theorem TracedSite.renderDefault (hsite : TracedSite setting n body site) (v : Value κ) :
    Traced setting.host (site.renderDefault setting.contentType v)
      (DefaultSpans setting n site.tag body site.scope v) := by
  by_cases hkind : site.tag.kind = .variableTag
  · rw [Site.renderDefault_variable hkind]
    exact .silent rfl (.scalar hkind)
  · rw [Site.renderDefault_eq hkind]
    exact (traced_renderBodies hsite.ofBody _).map fun _ _ h => .bodies hkind h

theorem TracedSite.perform (hsite : TracedSite setting n body site) (action : Action κ) :
    Traced setting.host (site.perform setting.contentType action)
      (ActionSpans setting n site.tag body site.scope action) := by
  induction action with
  | done result => exact .silent rfl .done
  | log event next ih =>
      obtain ⟨spans, hevents, hspans⟩ := ih
      refine ⟨.call event :: spans, ?_, ?_⟩
      · rw [Site.events_perform_log, hevents]
        rfl
      · rw [Site.result_perform_log]
        exact .log hspans
  | inner scope next ih => exact (hsite.ofInner scope).framed.append (ih _) .inner
  | expand nodes scope next ih => exact (hsite.ofExpand nodes scope).framed.append (ih _) .expand
  | fallback v next ih => exact (hsite.renderDefault v).append (ih _) .fallback

theorem TracedSite.performRender (hsite : TracedSite setting n body site) {v : Value κ}
    (hkind : site.tag.kind ≠ .invertedTag) :
    Traced setting.host
      (site.perform setting.contentType (v.render setting.host
        { tag := site.tag, scope := site.scope, contentType := setting.contentType }))
      (ValueSpans setting n site.tag body site.scope v) := by
  cases hoverride : v.override with
  | none =>
      simp only [Value.render, hoverride, Site.perform_fallback_done]
      exact (hsite.renderDefault v).mono fun _ _ h => .default (.inr hoverride) h
  | some o =>
      cases o with
      | fixed rendering =>
          simp only [Value.render, hoverride]
          refine ⟨[.call (.override (.fixed rendering) site.tag setting.contentType)], ?_, ?_⟩
          · rw [Site.events_perform_log]
            rfl
          · rw [Site.result_perform_log]
            exact .fixed hkind hoverride
      | host handle =>
          simp only [Value.render, hoverride]
          obtain ⟨spans, hevents, hspans⟩ := hsite.perform
            (setting.host.override handle
              { tag := site.tag, scope := site.scope, contentType := setting.contentType })
          refine ⟨.call (.override (.host handle) site.tag setting.contentType) :: spans, ?_,
            ?_⟩
          · rw [Site.events_perform_log, hevents]
            rfl
          · rw [Site.result_perform_log]
            exact .host hkind hoverride hspans

theorem TracedSite.fragment (hsite : TracedSite setting n body site) (v : Value κ) :
    Traced setting.host (site.fragment setting v)
      (ValueSpans setting n site.tag body site.scope v) := by
  unfold Site.fragment
  cases hkind : site.tag.kind with
  | invertedTag => exact (hsite.renderDefault v).mono fun _ _ h => .default (.inl hkind) h
  | variableTag => exact hsite.performRender (by simp [hkind])
  | sectionTag => exact hsite.performRender (by simp [hkind])

theorem TracedSite.render (hsite : TracedSite setting n body site) (expr : Expr)
    (escapes : Bool) :
    Traced setting.host (site.render setting expr escapes)
      (TagSpans setting n site.tag expr escapes body site.scope) := by
  unfold Site.render
  cases hvalue : (expr.evaluate setting.host site.scope).result with
  | error e =>
      refine ⟨(expr.evaluate setting.host site.scope).events.map .call, ?_, ?_⟩
      · rw [Run.events_bind_of_error hvalue, spanEvents_calls]
      · rw [Run.result_bind_of_error hvalue]
        exact .unevaluated hvalue
  | ok candidate =>
      let last := finalCandidate setting.host site.tag site.scope.hooks candidate
      obtain ⟨inside, hinside, hspans⟩ := hsite.fragment last
      let result := (site.fragment setting last).result.map
        (·.embed setting.contentType escapes)
      refine ⟨(expr.evaluate setting.host site.scope).events.map .call ++
        [.tag site.tag site.scope.hooks candidate inside result.toOption], ?_, ?_⟩
      · rw [Run.events_bind_of_ok hvalue, events_observe, spanEvents_append,
          spanEvents_calls, spanEvents_singleton, Span.events]
        simp only [Site.result_renderValue, Site.events_renderValue, ← hinside, last, result]
      · rw [Run.result_bind_of_ok hvalue, result_observe, Site.result_renderValue]
        exact .evaluated hvalue hspans rfl

end Sites

/-! ## Trees -/

section Trees

variable {setting : Setting κ} {n : Nat} {deeper : List Node → ScopeChain κ → Run κ String}

mutual

theorem Node.traced_renderOn
    (hdeeper : ∀ nodes c, Traced setting.host (deeper nodes c) (NodesSpans setting n nodes c))
    (node : Node) (c : ScopeChain κ) :
    Traced setting.host (node.renderOn setting deeper c) (NodeSpans setting n node c) := by
  cases node with
  | text content =>
      rw [Node.renderOn]
      exact .silent rfl .text
  | partialTag name =>
      rw [Node.renderOn]
      cases hpartials : setting.partials with
      | none => exact .silent rfl (.noPartials hpartials)
      | some resolve =>
          cases hresolve : resolve name with
          | error e =>
              simp only [hresolve]
              exact .silent rfl (.unresolved hpartials hresolve)
          | ok nodes =>
              simp only [hresolve]
              exact (hdeeper nodes c).framed.mono fun _ _ h =>
                .included hpartials hresolve h
  | variableTag e escapes =>
      rw [Node.renderOn]
      exact (TracedSite.render (n := n) ⟨fun _ => .silent rfl .nil, hdeeper [], hdeeper⟩ e
        escapes).mono fun _ _ h => .variableTag h
  | sectionTag inverted e body source =>
      rw [Node.renderOn]
      exact (TracedSite.render (n := n) ⟨fun c => traced_renderNodesOn hdeeper body c,
        hdeeper body, hdeeper⟩ e true).mono fun _ _ h => .sectionTag h

theorem traced_renderNodesOn
    (hdeeper : ∀ nodes c, Traced setting.host (deeper nodes c) (NodesSpans setting n nodes c))
    (nodes : List Node) (c : ScopeChain κ) :
    Traced setting.host (renderNodesOn setting deeper nodes c)
      (NodesSpans setting (n + 1) nodes c) := by
  cases nodes with
  | nil =>
      rw [renderNodesOn]
      exact .silent rfl .nil
  | cons node rest =>
      rw [renderNodesOn]
      exact (node.traced_renderOn hdeeper c).join (traced_renderNodesOn hdeeper rest c) .cons
        .stop

end

end Trees

theorem traced_renderLevels (setting : Setting κ) (levels : Nat) (nodes : List Node)
    (c : ScopeChain κ) :
    Traced setting.host (renderLevels setting levels nodes c)
      (NodesSpans setting levels nodes c) := by
  induction levels generalizing nodes c with
  | zero => exact .silent rfl .limit
  | succ levels ih => exact traced_renderNodesOn ih nodes c

/-- The log of a render is made up of the spans of its tree.  Unless a render override
reports hooks on its own, hooks are called by tags only.  Unless a render override catches
an error, all that follows the first failure are the did functions of the tags that
enclose it, from the innermost tag out, and none of them is given a text. -/
theorem renderTree_log (setting : Setting κ) (nodes : List Node) (scope : ScopeChain κ) :
    ∃ spans,
      (renderTree setting nodes scope).events = spanEvents setting.host spans ∧
      NodesSpans setting (setting.maxDepth + 1) nodes scope spans
        (renderTree setting nodes scope).result ∧
      (setting.host.ReportsCalls → Hookless spans) ∧
      (setting.host.Propagates → ∀ e, (renderTree setting nodes scope).result = .error e →
        ∃ before opened, Interrupted setting.host spans before opened ∧
          (renderTree setting nodes scope).events =
            before ++ opened.flatMap (OpenTag.unwind setting.host)) := by
  obtain ⟨spans, hevents, hspans⟩ :=
    traced_renderLevels setting (setting.maxDepth + 1) nodes scope
  refine ⟨spans, hevents, hspans, fun hreports => hspans.hookless hreports, ?_⟩
  intro hpropagates e herror
  have hsettled := hspans.settled hpropagates
  change Settled setting.host spans (renderTree setting nodes scope).result at hsettled
  rw [herror] at hsettled
  obtain ⟨before, opened, hinterrupted⟩ := hsettled
  exact ⟨before, opened, hinterrupted, hevents.trans hinterrupted.spanEvents_eq⟩

/-- A host without handles of its own, the overrides of which render the body. -/
def bodyHost : Host Unit where
  filter := fun _ v => .ok v
  will := fun _ _ v => v
  override := fun _ request => .inner request.scope .done

/-- A section that an override expands in the sight of a hook, around a tag that calls
what is no filter. -/
theorem renderTree_log_failing_body :
    let setting : Setting Unit := ⟨bodyHost, .html, 3, none⟩
    let scope := ((ScopeChain.empty.withHook { observer := some ⟨some (), some ()⟩ }).withScope
      { override := some (.host ()) })
    let nodes : List Node :=
      [.sectionTag false .implicit [.variableTag (.call .implicit .implicit) true] ""]
    bodyHost.Propagates ∧ bodyHost.ReportsCalls ∧
      (renderTree setting nodes scope).result = .error (.filterNotCallable ".") ∧
      ∃ spans,
        (renderTree setting nodes scope).events = spanEvents bodyHost spans ∧
        NodesSpans setting 4 nodes scope spans (renderTree setting nodes scope).result ∧
        Hookless spans ∧
        ∃ before opened, Interrupted bodyHost spans before opened ∧
          (renderTree setting nodes scope).events =
            before ++ opened.flatMap (OpenTag.unwind bodyHost) := by
  intro setting scope nodes
  have hpropagates : bodyHost.Propagates := fun _ _ => ⟨fun _ => rfl, fun _ => trivial⟩
  have hreports : bodyHost.ReportsCalls := fun _ _ _ => trivial
  have hresult : (renderTree setting nodes scope).result = .error (.filterNotCallable ".") := rfl
  obtain ⟨spans, hevents, hspans, hhookless, hunwind⟩ := renderTree_log setting nodes scope
  exact ⟨hpropagates, hreports, hresult, spans, hevents, hspans, hhookless hreports,
    hunwind hpropagates _ hresult⟩

end Mustache
