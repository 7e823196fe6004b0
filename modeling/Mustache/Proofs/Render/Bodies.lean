import Mustache.Render.Engine

/-!
# The bodies of a tag

What a tag without override does with a value comes down to a list of scope chains:
its body is rendered once in each of them, one after the other.  The list holds one
chain for each item of a sequence, the chain with the value pushed for any other
truthy value and for an observer, and the unchanged chain for an inverted section.
-/

namespace Mustache

variable {κ : Type}

/-- The chains in which a tag renders its body for a value, in order. -/
def bodyScopes (kind : TagKind) (scope : ScopeChain κ) (v : Value κ) : List (ScopeChain κ) :=
  match kind with
  | .variableTag => []
  | .sectionTag =>
      if v.isTruthy then
        match v.items? with
        | some items => items.map scope.extended
        | none => [scope.extended v]
      else if v.observer.isSome then [scope.extended v]
      else []
  | .invertedTag => if v.isTruthy then [] else [scope]

/-- A body is rendered in the chain of its tag or with one value pushed on it. -/
theorem mem_bodyScopes {kind : TagKind} {c c' : ScopeChain κ} {v : Value κ}
    (h : c' ∈ bodyScopes kind c v) : c' = c ∨ ∃ w, c' = c.extended w := by
  unfold bodyScopes at h
  cases kind with
  | variableTag => exact absurd h List.not_mem_nil
  | sectionTag =>
      dsimp only at h
      split at h
      · split at h
        · obtain ⟨item, -, hitem⟩ := List.mem_map.1 h
          exact .inr ⟨item, hitem.symm⟩
        · exact .inr ⟨v, List.mem_singleton.1 h⟩
      · split at h
        · exact .inr ⟨v, List.mem_singleton.1 h⟩
        · exact absurd h List.not_mem_nil
  | invertedTag =>
      dsimp only at h
      split at h
      · exact absurd h List.not_mem_nil
      · exact .inl (List.mem_singleton.1 h)

def renderBodies (body : ScopeChain κ → Run κ String) : List (ScopeChain κ) → Run κ String
  | [] => pure ""
  | c :: rest => do
      let first ← body c
      let others ← renderBodies body rest
      return first ++ others

theorem renderBodies_singleton (body : ScopeChain κ → Run κ String) (c : ScopeChain κ) :
    renderBodies body [c] = body c := by
  simp only [renderBodies, pure_bind, String.append_empty]
  exact bind_pure (body c)

theorem renderItems_eq (scope : ScopeChain κ) (body : ScopeChain κ → Run κ String)
    (items : List (Value κ)) :
    renderItems scope body items = renderBodies body (items.map scope.extended) := by
  induction items with
  | nil => rfl
  | cons item rest ih => rw [renderItems, ih]; rfl

namespace Site

theorem renderSection_eq (site : Site κ) (v : Value κ) :
    site.renderSection v =
      renderBodies site.body (bodyScopes .sectionTag site.scope v) := by
  unfold renderSection bodyScopes
  by_cases htruthy : v.isTruthy
  · simp only [htruthy, if_true]
    cases v.items? with
    | some items => exact renderItems_eq site.scope site.body items
    | none => exact (renderBodies_singleton site.body _).symm
  · simp only [htruthy, Bool.false_eq_true, if_false]
    by_cases hobserver : v.observer.isSome
    · simp only [hobserver, if_true]
      exact (renderBodies_singleton site.body _).symm
    · simp only [hobserver, Bool.false_eq_true, if_false]
      rfl

theorem renderDefault_variable {site : Site κ} (hkind : site.tag.kind = .variableTag)
    (contentType : ContentType) (v : Value κ) :
    site.renderDefault contentType v = pure ⟨v.text, .text⟩ := by
  simp only [renderDefault, hkind]

/-- A tag with a body renders it in the chains that belong to the value, and its
fragment has the type of the document. -/
theorem renderDefault_eq {site : Site κ} (hkind : site.tag.kind ≠ .variableTag)
    (contentType : ContentType) (v : Value κ) :
    site.renderDefault contentType v =
      (⟨·, contentType⟩) <$>
        renderBodies site.body (bodyScopes site.tag.kind site.scope v) := by
  cases h : site.tag.kind with
  | variableTag => exact absurd h hkind
  | sectionTag =>
      simp only [renderDefault, h, renderSection_eq, map_eq_pure_bind]
  | invertedTag =>
      simp only [renderDefault, h, bodyScopes]
      by_cases htruthy : v.isTruthy
      · simp only [htruthy, if_true]
        rfl
      · simp only [htruthy, Bool.false_eq_true, if_false, renderBodies_singleton,
          map_eq_pure_bind]

/-! ## Actions -/

theorem events_perform_log (site : Site κ) (contentType : ContentType) (e : Event κ)
    (next : Action κ) :
    (site.perform contentType (.log e next)).events =
      e :: (site.perform contentType next).events := by
  rw [perform, Run.events_bind_of_ok (a := ()) rfl]
  rfl

theorem result_perform_log (site : Site κ) (contentType : ContentType) (e : Event κ)
    (next : Action κ) :
    (site.perform contentType (.log e next)).result =
      (site.perform contentType next).result := by
  rw [perform, Run.result_bind_of_ok (a := ()) rfl]

theorem result_perform_logAll (site : Site κ) (contentType : ContentType)
    (events : List (Event κ)) (next : Action κ) :
    (site.perform contentType (.logAll events next)).result =
      (site.perform contentType next).result := by
  induction events with
  | nil => rfl
  | cons e rest ih => exact (result_perform_log site contentType e _).trans ih

theorem events_resume {α : Type} (x : Run κ String) (contentType : ContentType)
    (next : Except RenderError Rendering → Run κ α) :
    (resume x contentType next).events =
      x.events ++ (next (x.result.map fun text => ⟨text, contentType⟩)).events := by
  simp only [Run.events, resume, List.filterMap_append]

/-- Expanding the tree of the body is, but for the frame, rendering the body. -/
theorem perform_expand_eq_inner {site : Site κ} {nodes : List Node} {c : ScopeChain κ}
    (h : site.expand nodes c = site.inner c) (contentType : ContentType)
    (next : Except RenderError Rendering → Action κ) :
    (site.perform contentType (.expand nodes c next)).result =
        (site.perform contentType (.inner c next)).result ∧
      (site.perform contentType (.expand nodes c next)).events =
        (site.perform contentType (.inner c next)).events := by
  constructor
  · simp only [perform, resume, Run.result_framed, h]
  · simp only [perform, events_resume, Run.result_framed, Run.events_framed, h]

theorem perform_fallback_done (site : Site κ) (contentType : ContentType) (v : Value κ) :
    site.perform contentType (.fallback v .done) = site.renderDefault contentType v := by
  simp only [perform, Run.ofExcept, List.append_nil]

/-! ## Values -/

theorem fragment_eq_renderDefault {site : Site κ} {v : Value κ}
    (h : site.tag.kind = .invertedTag ∨ v.override = none) (setting : Setting κ) :
    site.fragment setting v = site.renderDefault setting.contentType v := by
  unfold fragment
  rcases h with hkind | hoverride
  · simp only [hkind]
  · simp only [Value.render, hoverride, perform_fallback_done]
    cases site.tag.kind <;> rfl

/-- The override of a value is called, except by inverted sections. -/
theorem override_mem_fragment {site : Site κ} {v : Value κ} {o : Override κ}
    (hkind : site.tag.kind ≠ .invertedTag) (hoverride : v.override = some o)
    (setting : Setting κ) :
    .override o site.tag setting.contentType ∈ (site.fragment setting v).events := by
  unfold fragment
  cases h : site.tag.kind with
  | invertedTag => exact absurd h hkind
  | variableTag | sectionTag =>
      simp only [Value.render, hoverride, events_perform_log]
      exact List.mem_cons_self

theorem result_renderValue (site : Site κ) (setting : Setting κ) (escapes : Bool)
    (v : Value κ) :
    (site.renderValue setting escapes v).result =
      (site.fragment setting v).result.map (·.embed setting.contentType escapes) := by
  rw [renderValue, ← map_eq_pure_bind, Run.result_map]

theorem events_renderValue (site : Site κ) (setting : Setting κ) (escapes : Bool)
    (v : Value κ) :
    (site.renderValue setting escapes v).events = (site.fragment setting v).events := by
  rw [renderValue, ← map_eq_pure_bind, Run.events_map]

end Site
end Mustache
