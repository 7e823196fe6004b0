import Mustache.Proofs.Render.Bodies
import Mustache.Proofs.Render.Spans

/-!
# Which spans a tree has

The relations of this file say which spans and which result a tree has, one rule for
each way a node, a tag, a value or an action can go.  The first index counts the levels
that are left: those below the current one for a node and for a tag, the current one
included for a list of nodes.

Two facts about spans are read off the rules.  If no render override catches errors, then
an error leaves the tags around it open and completes all others.  If no render override
reports hooks on its own, then all calls of hooks belong to tags.  The second has no regard
to results, and facts of this kind are invariants that the rules keep one by one.
-/

namespace Mustache

variable {κ : Type}

/-- The action hands on every error it gets, at once and as it is. -/
def Action.Propagates : Action κ → Prop
  | .done _ => True
  | .log _ next => next.Propagates
  | .inner _ next | .expand _ _ next | .fallback _ next =>
      (∀ e, next (.error e) = .done (.error e)) ∧ ∀ r, (next r).Propagates

/-- The action reports nothing but calls of filters and of render overrides. -/
def Action.ReportsCalls : Action κ → Prop
  | .done _ => True
  | .log e next => e.IsCall ∧ next.ReportsCalls
  | .inner _ next | .expand _ _ next | .fallback _ next => ∀ r, (next r).ReportsCalls

def Host.Propagates (host : Host κ) : Prop :=
  ∀ handle request, (host.override handle request).Propagates

def Host.ReportsCalls (host : Host κ) : Prop :=
  ∀ handle request, (host.override handle request).ReportsCalls

/-! ## Which spans a tree has -/

mutual

inductive NodesSpans (setting : Setting κ) :
    Nat → List Node → ScopeChain κ → List (Span κ) → Except RenderError String → Prop where
  | limit :
      NodesSpans setting 0 nodes c [] (.error (.recursionLimit setting.maxDepth))
  | nil : NodesSpans setting (n + 1) [] c [] (.ok "")
  | cons :
      NodeSpans setting n node c first (.ok text) →
      NodesSpans setting (n + 1) rest c others result →
      NodesSpans setting (n + 1) (node :: rest) c (first ++ others) (result.map (text ++ ·))
  | stop :
      NodeSpans setting n node c spans (.error e) →
      NodesSpans setting (n + 1) (node :: rest) c spans (.error e)

/-- Texts and partials have no events of their own. -/
inductive NodeSpans (setting : Setting κ) :
    Nat → Node → ScopeChain κ → List (Span κ) → Except RenderError String → Prop where
  | text : NodeSpans setting n (.text content) c [] (.ok content)
  | noPartials :
      setting.partials = none →
      NodeSpans setting n (.partialTag name) c [] (.error (.partialNotFound name))
  | unresolved :
      setting.partials = some resolve → resolve name = .error e →
      NodeSpans setting n (.partialTag name) c [] (.error e)
  | included :
      setting.partials = some resolve → resolve name = .ok nodes →
      NodesSpans setting n nodes c spans result →
      NodeSpans setting n (.partialTag name) c spans result
  | variableTag :
      TagSpans setting n (.ofVariable e) e escapes [] c spans result →
      NodeSpans setting n (.variableTag e escapes) c spans result
  | sectionTag :
      TagSpans setting n (.ofSection inverted e source) e true body c spans result →
      NodeSpans setting n (.sectionTag inverted e body source) c spans result

/-- A tag whose expression has a value is one span, which has a text unless the
rendering of the final candidate fails; any other tag is none. -/
inductive TagSpans (setting : Setting κ) :
    Nat → TagInfo → Expr → Bool → List Node → ScopeChain κ → List (Span κ) →
      Except RenderError String → Prop where
  | unevaluated :
      (expr.evaluate setting.host c).result = .error e →
      TagSpans setting n info expr escapes body c
        ((expr.evaluate setting.host c).events.map .call) (.error e)
  | evaluated :
      (expr.evaluate setting.host c).result = .ok candidate →
      ValueSpans setting n info body c
        (finalCandidate setting.host info c.hooks candidate) inside rendered →
      result = rendered.map (·.embed setting.contentType escapes) →
      TagSpans setting n info expr escapes body c
        ((expr.evaluate setting.host c).events.map .call ++
          [.tag info c.hooks candidate inside result.toOption])
        result

inductive ValueSpans (setting : Setting κ) :
    Nat → TagInfo → List Node → ScopeChain κ → Value κ → List (Span κ) →
      Except RenderError Rendering → Prop where
  | default :
      info.kind = .invertedTag ∨ v.override = none →
      DefaultSpans setting n info body c v spans result →
      ValueSpans setting n info body c v spans result
  | fixed :
      info.kind ≠ .invertedTag → v.override = some (.fixed rendering) →
      ValueSpans setting n info body c v
        [.call (.override (.fixed rendering) info setting.contentType)] (.ok rendering)
  | host :
      info.kind ≠ .invertedTag → v.override = some (.host handle) →
      ActionSpans setting n info body c
        (setting.host.override handle
          { tag := info, scope := c, contentType := setting.contentType }) spans result →
      ValueSpans setting n info body c v
        (.call (.override (.host handle) info setting.contentType) :: spans) result

inductive DefaultSpans (setting : Setting κ) :
    Nat → TagInfo → List Node → ScopeChain κ → Value κ → List (Span κ) →
      Except RenderError Rendering → Prop where
  | scalar :
      info.kind = .variableTag →
      DefaultSpans setting n info body c v [] (.ok ⟨v.text, .text⟩)
  | bodies :
      info.kind ≠ .variableTag →
      BodiesSpans setting n body (bodyScopes info.kind c v) spans result →
      DefaultSpans setting n info body c v spans (result.map (⟨·, setting.contentType⟩))

inductive BodiesSpans (setting : Setting κ) :
    Nat → List Node → List (ScopeChain κ) → List (Span κ) →
      Except RenderError String → Prop where
  | nil : BodiesSpans setting n body [] [] (.ok "")
  | cons :
      NodesSpans setting (n + 1) body c first (.ok text) →
      BodiesSpans setting n body rest others result →
      BodiesSpans setting n body (c :: rest) (first ++ others) (result.map (text ++ ·))
  | stop :
      NodesSpans setting (n + 1) body c spans (.error e) →
      BodiesSpans setting n body (c :: rest) spans (.error e)

inductive ActionSpans (setting : Setting κ) :
    Nat → TagInfo → List Node → ScopeChain κ → Action κ → List (Span κ) →
      Except RenderError Rendering → Prop where
  | done : ActionSpans setting n info body c (.done result) [] result
  | log :
      ActionSpans setting n info body c next spans result →
      ActionSpans setting n info body c (.log e next) (.call e :: spans) result
  | inner :
      NodesSpans setting n body scope first text →
      ActionSpans setting n info body c (next (text.map (⟨·, setting.contentType⟩)))
        others result →
      ActionSpans setting n info body c (.inner scope next) (first ++ others) result
  | expand :
      NodesSpans setting n nodes scope first text →
      ActionSpans setting n info body c (next (text.map (⟨·, setting.contentType⟩)))
        others result →
      ActionSpans setting n info body c (.expand nodes scope next) (first ++ others) result
  | fallback :
      DefaultSpans setting n info body c v first rendered →
      ActionSpans setting n info body c (next rendered) others result →
      ActionSpans setting n info body c (.fallback v next) (first ++ others) result

end

/-! ## Failures nothing catches -/

/-- The spans of a success are completed; those of an error stop at the failure. -/
def Settled {α : Type} (host : Host κ) (spans : List (Span κ)) :
    Except RenderError α → Prop
  | .ok _ => Completed spans
  | .error _ => ∃ before opened, Interrupted host spans before opened

theorem Settled.of_completed {α : Type} {host : Host κ} {spans : List (Span κ)}
    (h : Completed spans) (result : Except RenderError α) : Settled host spans result := by
  cases result with
  | ok a => exact h
  | error e => exact ⟨_, [], .here h⟩

theorem Settled.append_left {α : Type} {host : Host κ} {earlier spans : List (Span κ)}
    {result : Except RenderError α} (hearlier : Completed earlier)
    (hspans : Settled host spans result) : Settled host (earlier ++ spans) result := by
  cases result with
  | ok a => exact hearlier.append hspans
  | error e =>
      obtain ⟨before, opened, hinterrupted⟩ := hspans
      exact ⟨_, opened, hinterrupted.append_left hearlier⟩

theorem Settled.map {α β : Type} {host : Host κ} {spans : List (Span κ)}
    {result : Except RenderError α} (f : α → β) (h : Settled host spans result) :
    Settled host spans (result.map f) := by
  cases result with
  | ok a => exact h
  | error e => exact h

/-- A tag is completed or left open as what happens inside it is. -/
theorem Settled.tag {host : Host κ} {info : TagInfo} {hooks : List (Observer κ)}
    {candidate : Value κ} {inside : List (Span κ)} {result : Except RenderError String}
    (h : Settled host inside result) :
    Settled host [.tag info hooks candidate inside result.toOption] result := by
  cases result with
  | ok text => exact Completed.tag h .nil
  | error e =>
      obtain ⟨before, opened, hinterrupted⟩ := h
      have hopen : Interrupted host ([] ++ [.tag info hooks candidate inside none]) _ _ :=
        .inside .nil hinterrupted
      exact ⟨_, _, hopen⟩

theorem ActionSpans.of_done {setting : Setting κ} {n : Nat} {info : TagInfo}
    {body : List Node} {c : ScopeChain κ} {answer result : Except RenderError Rendering}
    {spans : List (Span κ)}
    (h : ActionSpans setting n info body c (.done answer) spans result) :
    spans = [] ∧ result = answer := by
  cases h
  exact ⟨rfl, rfl⟩

/-- An action that gets an error and hands it on has the spans of what failed. -/
theorem Settled.answered {α : Type} {setting : Setting κ} {n : Nat} {info : TagInfo}
    {body : List Node} {c : ScopeChain κ} {first others : List (Span κ)}
    {given : Except RenderError α} {answer result : Except RenderError Rendering}
    {next : Except RenderError Rendering → Action κ}
    (hfirst : Settled setting.host first given)
    (herror : ∀ e, given = .error e → answer = .error e)
    (hstops : ∀ e, next (.error e) = .done (.error e))
    (hrest : ActionSpans setting n info body c (next answer) others result)
    (hothers : Settled setting.host others result) :
    Settled setting.host (first ++ others) result := by
  cases given with
  | ok a => exact hothers.append_left hfirst
  | error e =>
      rw [herror e rfl, hstops e] at hrest
      obtain ⟨rfl, rfl⟩ := hrest.of_done
      rw [List.append_nil]
      exact hfirst

variable {setting : Setting κ}

mutual

theorem NodesSpans.settled (hhost : setting.host.Propagates)
    (h : NodesSpans setting n nodes c spans result) :
    Settled setting.host spans result := by
  match h with
  | .limit => exact .of_completed .nil _
  | .nil => exact .of_completed .nil _
  | .cons hnode hrest => exact ((hrest.settled hhost).map _).append_left (hnode.settled hhost)
  | .stop hnode => exact hnode.settled hhost
termination_by structural h

theorem NodeSpans.settled (hhost : setting.host.Propagates)
    (h : NodeSpans setting n node c spans result) :
    Settled setting.host spans result := by
  match h with
  | .text => exact .of_completed .nil _
  | .noPartials _ => exact .of_completed .nil _
  | .unresolved _ _ => exact .of_completed .nil _
  | .included _ _ hnodes => exact hnodes.settled hhost
  | .variableTag htag => exact htag.settled hhost
  | .sectionTag htag => exact htag.settled hhost
termination_by structural h

theorem TagSpans.settled (hhost : setting.host.Propagates)
    (h : TagSpans setting n info expr escapes body c spans result) :
    Settled setting.host spans result := by
  match h with
  | .unevaluated _ => exact .of_completed (completed_calls _) _
  | .evaluated _ hvalue hresult =>
      have hinside := (hvalue.settled hhost).map (·.embed setting.contentType escapes)
      rw [← hresult] at hinside
      exact hinside.tag.append_left (completed_calls _)
termination_by structural h

theorem ValueSpans.settled (hhost : setting.host.Propagates)
    (h : ValueSpans setting n info body c v spans result) :
    Settled setting.host spans result := by
  match h with
  | .default _ hdefault => exact hdefault.settled hhost
  | .fixed _ _ => exact .of_completed (.call .nil) _
  | .host _ _ haction =>
      exact Settled.append_left (.call .nil) (haction.settled hhost (hhost _ _))
termination_by structural h

theorem DefaultSpans.settled (hhost : setting.host.Propagates)
    (h : DefaultSpans setting n info body c v spans result) :
    Settled setting.host spans result := by
  match h with
  | .scalar _ => exact .of_completed .nil _
  | .bodies _ hbodies => exact (hbodies.settled hhost).map _
termination_by structural h

theorem BodiesSpans.settled (hhost : setting.host.Propagates)
    (h : BodiesSpans setting n body scopes spans result) :
    Settled setting.host spans result := by
  match h with
  | .nil => exact .of_completed .nil _
  | .cons hnodes hrest =>
      exact ((hrest.settled hhost).map _).append_left (hnodes.settled hhost)
  | .stop hnodes => exact hnodes.settled hhost
termination_by structural h

theorem ActionSpans.settled (hhost : setting.host.Propagates) (haction : action.Propagates)
    (h : ActionSpans setting n info body c action spans result) :
    Settled setting.host spans result := by
  match h with
  | .done => exact .of_completed .nil _
  | .log hnext => exact Settled.append_left (.call .nil) (hnext.settled hhost (by exact haction))
  | .inner hfirst hrest =>
      exact (hfirst.settled hhost).answered (fun _ h => by rw [h]; rfl) haction.1 hrest
        (hrest.settled hhost (haction.2 _))
  | .expand hfirst hrest =>
      exact (hfirst.settled hhost).answered (fun _ h => by rw [h]; rfl) haction.1 hrest
        (hrest.settled hhost (haction.2 _))
  | .fallback hfirst hrest =>
      exact (hfirst.settled hhost).answered (fun _ h => h) haction.1 hrest
        (hrest.settled hhost (haction.2 _))
termination_by structural h

end

/-! ## Invariants of spans -/

/-- A property `P` of spans that each rule keeps, in chains with `C` and for actions with
`A`. -/
structure SpanInvariant (setting : Setting κ) (P : List (Span κ) → Prop)
    (C : ScopeChain κ → Prop) (A : Action κ → Prop) : Prop where
  nil : P []
  append {earlier later : List (Span κ)} : P earlier → P later → P (earlier ++ later)
  evaluated (e : Expr) (c : ScopeChain κ) : P ((e.evaluate setting.host c).events.map .call)
  overridden (o : Override κ) (info : TagInfo) :
    P [.call (.override o info setting.contentType)]
  tag {info : TagInfo} {c : ScopeChain κ} {candidate : Value κ} {inside : List (Span κ)}
    {text : Option String} : C c → P inside → P [.tag info c.hooks candidate inside text]
  bodies {kind : TagKind} {c c' : ScopeChain κ} {v : Value κ} :
    C c → c' ∈ bodyScopes kind c v → C c'
  host (handle : κ) {info : TagInfo} {c : ScopeChain κ} :
    C c → A (setting.host.override handle ⟨info, c, setting.contentType⟩)
  log {e : Event κ} {next : Action κ} : A (.log e next) → P [.call e] ∧ A next
  inner {c : ScopeChain κ} {next : Except RenderError Rendering → Action κ} :
    A (.inner c next) → C c ∧ ∀ r, A (next r)
  expand {nodes : List Node} {c : ScopeChain κ}
    {next : Except RenderError Rendering → Action κ} :
    A (.expand nodes c next) → C c ∧ ∀ r, A (next r)
  fallback {v : Value κ} {next : Except RenderError Rendering → Action κ} :
    A (.fallback v next) → ∀ r, A (next r)

section Invariants

variable {setting : Setting κ} {P : List (Span κ) → Prop} {C : ScopeChain κ → Prop}
  {A : Action κ → Prop}

mutual

theorem NodesSpans.keeps (hinv : SpanInvariant setting P C A) (hc : C c)
    (h : NodesSpans setting n nodes c spans result) : P spans := by
  match h with
  | .limit => exact hinv.nil
  | .nil => exact hinv.nil
  | .cons hnode hrest => exact hinv.append (hnode.keeps hinv hc) (hrest.keeps hinv hc)
  | .stop hnode => exact hnode.keeps hinv hc
termination_by structural h

theorem NodeSpans.keeps (hinv : SpanInvariant setting P C A) (hc : C c)
    (h : NodeSpans setting n node c spans result) : P spans := by
  match h with
  | .text => exact hinv.nil
  | .noPartials _ => exact hinv.nil
  | .unresolved _ _ => exact hinv.nil
  | .included _ _ hnodes => exact hnodes.keeps hinv hc
  | .variableTag htag => exact htag.keeps hinv hc
  | .sectionTag htag => exact htag.keeps hinv hc
termination_by structural h

theorem TagSpans.keeps (hinv : SpanInvariant setting P C A) (hc : C c)
    (h : TagSpans setting n info expr escapes body c spans result) : P spans := by
  match h with
  | .unevaluated _ => exact hinv.evaluated expr c
  | .evaluated _ hvalue _ =>
      exact hinv.append (hinv.evaluated expr c) (hinv.tag hc (hvalue.keeps hinv hc))
termination_by structural h

theorem ValueSpans.keeps (hinv : SpanInvariant setting P C A) (hc : C c)
    (h : ValueSpans setting n info body c v spans result) : P spans := by
  match h with
  | .default _ hdefault => exact hdefault.keeps hinv hc
  | .fixed _ _ => exact hinv.overridden _ info
  | .host _ _ haction =>
      exact hinv.append (hinv.overridden _ info) (haction.keeps hinv hc (hinv.host _ hc))
termination_by structural h

theorem DefaultSpans.keeps (hinv : SpanInvariant setting P C A) (hc : C c)
    (h : DefaultSpans setting n info body c v spans result) : P spans := by
  match h with
  | .scalar _ => exact hinv.nil
  | .bodies _ hbodies => exact hbodies.keeps hinv fun _ hscope => hinv.bodies hc hscope
termination_by structural h

theorem BodiesSpans.keeps (hinv : SpanInvariant setting P C A) (hscopes : ∀ c ∈ scopes, C c)
    (h : BodiesSpans setting n body scopes spans result) : P spans := by
  match h with
  | .nil => exact hinv.nil
  | .cons hnodes hrest =>
      obtain ⟨hfirst, hothers⟩ := List.forall_mem_cons.1 hscopes
      exact hinv.append (hnodes.keeps hinv hfirst) (hrest.keeps hinv hothers)
  | .stop hnodes => exact hnodes.keeps hinv (hscopes _ List.mem_cons_self)
termination_by structural h

theorem ActionSpans.keeps (hinv : SpanInvariant setting P C A) (hc : C c) (haction : A action)
    (h : ActionSpans setting n info body c action spans result) : P spans := by
  match h with
  | .done => exact hinv.nil
  | .log hnext =>
      obtain ⟨hevent, hrest⟩ := hinv.log haction
      exact hinv.append hevent (hnext.keeps hinv hc hrest)
  | .inner hfirst hrest =>
      obtain ⟨hscope, hnext⟩ := hinv.inner haction
      exact hinv.append (hfirst.keeps hinv hscope) (hrest.keeps hinv hc (hnext _))
  | .expand hfirst hrest =>
      obtain ⟨hscope, hnext⟩ := hinv.expand haction
      exact hinv.append (hfirst.keeps hinv hscope) (hrest.keeps hinv hc (hnext _))
  | .fallback hfirst hrest =>
      exact hinv.append (hfirst.keeps hinv hc)
        (hrest.keeps hinv hc (hinv.fallback haction _))
termination_by structural h

end

end Invariants

/-! ## Hooks are called by tags only -/

theorem isCall_of_mem_evaluate {host : Host κ} {c : ScopeChain κ} {expr : Expr}
    {e : Event κ} (he : e ∈ (expr.evaluate host c).events) : e.IsCall := by
  induction expr with
  | implicit => simp [Expr.evaluate, Run.events] at he
  | name id => simp [Expr.evaluate, Run.events] at he
  | member base key ih =>
      rw [Expr.evaluate, ← map_eq_pure_bind, Run.events_map] at he
      exact ih he
  | call f a hf ha =>
      rw [Expr.evaluate] at he
      cases hfunction : (f.evaluate host c).result with
      | error err =>
          rw [Run.events_bind_of_error hfunction] at he
          exact hf he
      | ok function =>
          rw [Run.events_bind_of_ok hfunction] at he
          rcases List.mem_append.1 he with he | he
          · exact hf he
          · cases hargument : (a.evaluate host c).result with
            | error err =>
                rw [Run.events_bind_of_error hargument] at he
                exact ha he
            | ok argument =>
                rw [Run.events_bind_of_ok hargument] at he
                rcases List.mem_append.1 he with he | he
                · exact ha he
                · cases hfilter : function.filter with
                  | none => simp [hfilter] at he
                  | some filter =>
                      simp only [hfilter, Filter.call] at he
                      rw [Run.events_bind_of_ok (a := ()) rfl, Run.events_ofExcept,
                        List.append_nil] at he
                      change e ∈ [Event.filter filter argument] at he
                      rw [List.mem_singleton.1 he]
                      trivial

theorem NodesSpans.hookless {setting : Setting κ} (hhost : setting.host.ReportsCalls)
    (h : NodesSpans setting n nodes c spans result) : Hookless spans := by
  have hinv : SpanInvariant setting Hookless (fun _ => True) Action.ReportsCalls :=
    { nil := .nil
      append := .append
      evaluated := fun e c => hookless_calls fun _ => isCall_of_mem_evaluate
      overridden := fun o info => .call trivial .nil
      tag := fun _ hinside => .tag hinside .nil
      bodies := fun _ _ => trivial
      host := fun handle _ _ _ => hhost handle _
      log := fun h => ⟨.call h.1 .nil, h.2⟩
      inner := fun h => ⟨trivial, h⟩
      expand := fun h => ⟨trivial, h⟩
      fallback := fun h => h }
  exact h.keeps hinv trivial

end Mustache
