import Mustache.Proofs.Render.Comparison
import Mustache.Proofs.Render.HookTrace

/-!
# Sections

A section without override comes down to the renderings of its body between the hooks of
its chain: neither the tag nor the document does anything to the text of a body.  A value
with an observer has its body rendered once, with the value pushed, unless it is a sequence
with items.  In that case the items are pushed in its place and the observer goes unheard.

What is pushed for a body stays in all chains of the body, so a hook that is registered in
this way is among the hooks of each tag in it, at any depth and in the partials as well.
-/

namespace Mustache

variable {κ : Type}

/-! ## The text of a section -/

theorem Rendering.embed_self (text : String) (contentType : ContentType) (escapes : Bool) :
    (⟨text, contentType⟩ : Rendering).embed contentType escapes = text := by
  cases contentType <;> simp [embed]

theorem Site.renderValue_eq_renderBodies {site : Site κ} (setting : Setting κ) {v : Value κ}
    (hkind : site.tag.kind ≠ .variableTag)
    (hdefault : site.tag.kind = .invertedTag ∨ v.override = none) (escapes : Bool) :
    site.renderValue setting escapes v =
      renderBodies site.body (bodyScopes site.tag.kind site.scope v) := by
  have hembed : (fun text : String =>
      (⟨text, setting.contentType⟩ : Rendering).embed setting.contentType escapes) = id :=
    funext fun text => Rendering.embed_self text setting.contentType escapes
  unfold renderValue
  rw [fragment_eq_renderDefault hdefault, renderDefault_eq hkind, ← map_eq_pure_bind,
    Functor.map_map, hembed, id_map]

/-- The evaluation of a tag's expression, and then a run between the hooks of the chain. -/
def Expr.around (host : Host κ) (e : Expr) (c : ScopeChain κ) (tag : TagInfo)
    (candidate : Value κ) (inside : Run κ String) : Run κ String :=
  e.evaluate host c >>= fun _ =>
    inside.between (opening host tag c.hooks candidate) fun result =>
      closing tag c.hooks (finalCandidate host tag c.hooks candidate) result.toOption

/-- A section renders its body, in the chains that belong to the final candidate, between
the hooks of its own chain. -/
theorem Node.renderOn_section {setting : Setting κ} {e : Expr} {c : ScopeChain κ}
    {candidate last : Value κ} {inverted : Bool} {source : String}
    (hcandidate : (e.evaluate setting.host c).result = .ok candidate)
    (hlast : finalCandidate setting.host (.ofSection inverted e source) c.hooks candidate = last)
    (hdefault : inverted = true ∨ last.override = none)
    (deeper : List Node → ScopeChain κ → Run κ String) (body : List Node) :
    (Node.sectionTag inverted e body source).renderOn setting deeper c =
      e.around setting.host c (.ofSection inverted e source) candidate
        (renderBodies (renderNodesOn setting deeper body)
          (bodyScopes (.ofInverted inverted) c last)) := by
  let site : Site κ := .ofSection (renderNodesOn setting deeper body) deeper inverted e body
    source c
  have hkind : site.tag.kind ≠ .variableTag := by
    cases inverted <;> exact nofun
  have hdefault' : site.tag.kind = .invertedTag ∨ last.override = none :=
    hdefault.imp_left (congrArg TagKind.ofInverted)
  have hvalue := Site.renderValue_eq_renderBodies setting hkind hdefault' true
  have hobserve : observe setting.host site.tag c.hooks candidate (site.renderValue setting true) =
      _ := observe_eq_between setting.host site.tag c.hooks candidate _
  rw [Node.renderOn]
  change e.evaluate setting.host c >>= (fun candidate =>
    observe setting.host site.tag c.hooks candidate (site.renderValue setting true)) = _
  rw [Expr.around, Run.bind_of_ok hcandidate, Run.bind_of_ok hcandidate, hobserve]
  simp only [site, Site.ofSection, hlast] at hvalue ⊢
  rw [hvalue]
  rfl

/-! ## Tags in the extent of a hook -/

theorem suffix_hooks_extended (c : ScopeChain κ) (v : Value κ) :
    c.hooks <:+ (c.extended v).hooks := by
  rw [ScopeChain.hooks_extended]
  exact List.suffix_append _ _

theorem suffix_hooks_of_mem_bodyScopes {kind : TagKind} {c c' : ScopeChain κ} {v : Value κ}
    (h : c' ∈ bodyScopes kind c v) : c.hooks <:+ c'.hooks := by
  rcases mem_bodyScopes h with rfl | ⟨w, rfl⟩
  · exact List.suffix_rfl
  · exact suffix_hooks_extended c w

/-- All tags in the spans, at any depth, are bracketed by `outer`, and perhaps by more hooks
further in. -/
inductive EnclosedBy (outer : List (Observer κ)) : List (Span κ) → Prop where
  | nil : EnclosedBy outer []
  | call {e : Event κ} {rest : List (Span κ)} :
      EnclosedBy outer rest → EnclosedBy outer (.call e :: rest)
  | tag {info : TagInfo} {hooks : List (Observer κ)} {candidate : Value κ}
      {inside rest : List (Span κ)} {text : Option String} :
      outer <:+ hooks → EnclosedBy outer inside → EnclosedBy outer rest →
        EnclosedBy outer (.tag info hooks candidate inside text :: rest)

theorem EnclosedBy.append {outer : List (Observer κ)} {earlier later : List (Span κ)}
    (hearlier : EnclosedBy outer earlier) (hlater : EnclosedBy outer later) :
    EnclosedBy outer (earlier ++ later) := by
  induction hearlier with
  | nil => exact hlater
  | call _ ih => exact .call ih
  | tag hhooks hinside _ _ ih => exact .tag hhooks hinside ih

theorem enclosedBy_calls (outer : List (Observer κ)) (events : List (Event κ)) :
    EnclosedBy outer (events.map .call) := by
  induction events with
  | nil => exact .nil
  | cons e rest ih => exact .call ih

/-- What the action asks to be rendered, it asks for in chains with the hooks `outer`. -/
def Action.KeepsHooks (outer : List (Observer κ)) : Action κ → Prop
  | .done _ => True
  | .log _ next => next.KeepsHooks outer
  | .inner scope next | .expand _ scope next =>
      outer <:+ scope.hooks ∧ ∀ r, (next r).KeepsHooks outer
  | .fallback _ next => ∀ r, (next r).KeepsHooks outer

theorem Action.KeepsHooks.mono {outer outer' : List (Observer κ)} (hle : outer <:+ outer')
    {action : Action κ} (h : action.KeepsHooks outer') : action.KeepsHooks outer := by
  induction action with
  | done result => trivial
  | log event next ih => exact ih h
  | inner scope next ih => exact ⟨hle.trans h.1, fun r => ih r (h.2 r)⟩
  | expand nodes scope next ih => exact ⟨hle.trans h.1, fun r => ih r (h.2 r)⟩
  | fallback v next ih => exact fun r => ih r (h r)

/-- No override of the host drops hooks of the chain it is called in. -/
def Host.KeepsHooks (host : Host κ) : Prop :=
  ∀ handle request, (host.override handle request).KeepsHooks request.scope.hooks

theorem NodesSpans.enclosedBy {setting : Setting κ} {outer : List (Observer κ)}
    (hhost : setting.host.KeepsHooks) (houter : outer <:+ c.hooks)
    (h : NodesSpans setting n nodes c spans result) : EnclosedBy outer spans := by
  have hinv : SpanInvariant setting (EnclosedBy outer) (fun c => outer <:+ c.hooks)
      (Action.KeepsHooks outer) :=
    { nil := .nil
      append := .append
      evaluated := fun _ _ => enclosedBy_calls outer _
      overridden := fun _ _ => .call .nil
      tag := fun hhooks hinside => .tag hhooks hinside .nil
      bodies := fun hhooks hscope => hhooks.trans (suffix_hooks_of_mem_bodyScopes hscope)
      host := fun handle info c hhooks =>
        Action.KeepsHooks.mono hhooks (hhost handle ⟨info, c, setting.contentType⟩)
      log := fun h => ⟨.call .nil, h⟩
      inner := fun h => h
      expand := fun h => h
      fallback := fun h => h }
  exact h.keeps hinv houter

/-! ## Values with an observer -/

theorem bodyScopes_of_observer {v : Value κ} (hobserver : v.observer.isSome)
    (hitems : ∀ item rest, v.items? ≠ some (item :: rest)) (c : ScopeChain κ) :
    bodyScopes .sectionTag c v = [c.extended v] := by
  unfold bodyScopes
  by_cases htruthy : v.isTruthy
  · cases h : v.items? with
    | none => simp [htruthy]
    | some items =>
        cases items with
        | nil =>
            have hdata : v.data = .sequence [] := by
              unfold Value.items? at h
              split at h
              · next items hdata => rw [hdata, Option.some.inj h]
              · cases h
            simp [Value.isTruthy, hdata] at htruthy
        | cons item rest => exact absurd h (hitems item rest)
  · simp [htruthy, hobserver]

theorem bodyScopes_of_items {v : Value κ} {item : Value κ} {rest : List (Value κ)}
    (h : v.items? = some (item :: rest)) (c : ScopeChain κ) :
    bodyScopes .sectionTag c v = (item :: rest).map c.extended := by
  have htruthy : v.isTruthy = true := by
    unfold Value.items? at h
    split at h
    · next items hdata =>
      rw [Value.isTruthy, hdata, Option.some.inj h]
      rfl
    · cases h
  simp only [bodyScopes, htruthy, if_true, h]

/-- A section on a value that has an observer and no override.  Whatever data the value
carries, the body is rendered once with the value pushed, so that its hooks enclose each tag
of the body, as long as no override of the host drops them.  Only a sequence with items is
different: its body is rendered for each item, with nothing but the item pushed. -/
theorem renderOn_observerSection (setting : Setting κ) (levels : Nat) (e : Expr)
    (body : List Node) (source : String) (c : ScopeChain κ) (candidate v : Value κ)
    (o : Observer κ) (hcandidate : (e.evaluate setting.host c).result = .ok candidate)
    (hlast : finalCandidate setting.host (.ofSection false e source) c.hooks candidate = v)
    (hobserver : v.observer = some o) (hoverride : v.override = none) :
    let whole :=
      (Node.sectionTag false e body source).renderOn setting (renderLevels setting levels) c
    let between := e.around setting.host c (.ofSection false e source) candidate
    let once := renderLevels setting (levels + 1) body (c.extended v)
    ((∀ item rest, v.items? ≠ some (item :: rest)) →
      whole = between once ∧ (c.extended v).hooks = o :: c.hooks ∧
        (setting.host.KeepsHooks → ∃ spans,
          once.events = spanEvents setting.host spans ∧
          NodesSpans setting (levels + 1) body (c.extended v) spans once.result ∧
          EnclosedBy (o :: c.hooks) spans)) ∧
    ∀ item rest, v.items? = some (item :: rest) →
      whole = between (renderBodies (renderLevels setting (levels + 1) body)
        ((item :: rest).map c.extended)) := by
  intro whole between once
  have hwhole := Node.renderOn_section hcandidate hlast (.inr hoverride)
    (renderLevels setting levels) body
  refine ⟨?_, ?_⟩
  · intro hitems
    have hscopes := bodyScopes_of_observer (Option.isSome_of_eq_some hobserver) hitems c
    have hhooks : (c.extended v).hooks = o :: c.hooks := by
      rw [ScopeChain.hooks_extended, hobserver]
      rfl
    refine ⟨?_, hhooks, ?_⟩
    · rw [TagKind.ofInverted, hscopes, renderBodies_singleton] at hwhole
      exact hwhole
    · intro hkeeps
      obtain ⟨spans, hevents, hspans⟩ :=
        traced_renderLevels setting (levels + 1) body (c.extended v)
      have hsuffix : o :: c.hooks <:+ (c.extended v).hooks := hhooks ▸ List.suffix_rfl
      exact ⟨spans, hevents, hspans, hspans.enclosedBy hkeeps hsuffix⟩
  · intro item rest hitems
    rw [TagKind.ofInverted, bodyScopes_of_items hitems] at hwhole
    exact hwhole

/-- An observer that carries an empty sequence, around a tag of a partial. -/
theorem renderOn_observerSection_empty :
    let v : Value Unit := { Value.ofList [] with observer := some ⟨some (), some ()⟩ }
    let c := ScopeChain.empty.withScope v
    let setting : Setting Unit :=
      ⟨bodyHost, .html, 4, some fun _ => .ok [.variableTag .implicit true]⟩
    let body : List Node := [.text "x", .partialTag "p"]
    let whole := (Node.sectionTag false .implicit body "").renderOn setting
      (renderLevels setting 4) c
    let once := renderLevels setting 5 body (c.extended v)
    v.observer = some ⟨some (), some ()⟩ ∧ v.override = none ∧
      (∀ item rest, v.items? ≠ some (item :: rest)) ∧ bodyHost.KeepsHooks ∧
      whole = Expr.implicit.around bodyHost c (.ofSection false .implicit "") v once ∧
      once.result = .ok "x" ∧ once.events.length = 2 ∧
      ∃ spans, once.events = spanEvents bodyHost spans ∧
        NodesSpans setting 5 body (c.extended v) spans once.result ∧
        EnclosedBy [⟨some (), some ()⟩] spans := by
  intro v c setting body whole once
  have hitems : ∀ item rest, v.items? ≠ some (item :: rest) := nofun
  have hkeeps : bodyHost.KeepsHooks := fun _ _ => ⟨List.suffix_rfl, fun _ => trivial⟩
  obtain ⟨hwhole, -, hspans⟩ :=
    (renderOn_observerSection setting 4 .implicit body "" c v v _ rfl rfl rfl rfl).1 hitems
  have hlength : once.events.length = 2 := by decide +kernel
  exact ⟨rfl, rfl, hitems, hkeeps, hwhole, rfl, hlength, hspans hkeeps⟩

/-- The observer of a sequence with items sees nothing of a body that is rendered twice. -/
theorem renderOn_observerSection_items :
    let v : Value Unit :=
      { Value.ofList [.ofInt 1, .ofInt 2] with observer := some ⟨some (), none⟩ }
    let c := ScopeChain.empty.withScope (.ofEntries [("o", v), ("x", .ofString "X")])
    let setting : Setting Unit := ⟨bodyHost, .html, 256, none⟩
    let body : List Node := [.text "<", .variableTag (.name "x") true, .text ">"]
    let whole := renderTree setting [.sectionTag false (.name "o") body ""] c
    let once := renderTree setting body (c.extended v)
    v.observer = some ⟨some (), none⟩ ∧ v.override = none ∧
      once.result.toOption = some "<X>" ∧ once.events.length = 1 ∧
      whole.result.toOption = some "<X><X>" ∧ whole.events.length = 0 := by
  intro v c setting body whole once
  have honce : once.result.toOption = some "<X>" := by decide +kernel
  have hseen : once.events.length = 1 := by decide +kernel
  have hwhole : whole.result.toOption = some "<X><X>" := by decide +kernel
  have hunseen : whole.events.length = 0 := by decide +kernel
  exact ⟨rfl, rfl, honce, hseen, hwhole, hunseen⟩

end Mustache
