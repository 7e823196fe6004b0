import Mustache.Proofs.Render.ChainViews
import Mustache.Proofs.Render.Sections

/-!
# Scopes that are overlooked

A name is looked up in one scope after the other, and only the first name of a path is.  So a
scope that knows none of the names of an expression is passed over wherever it stands in the
chain, unless the expression asks for the innermost scope itself.  If it has no position
either, then `@key` and its kin pass over it as well.

Rendering pushes further scopes on top of it, but no tag below ever finds out that it is
there.  For a section on a boolean or a number this means that the body has nothing to do
with the value: it renders as it would in the chain of the section.
-/

namespace Mustache

variable {κ : Type}

/-! ## Expressions -/

namespace Expr

/-- The innermost scope itself is part of the expression. -/
def usesImplicit : Expr → Bool
  | .implicit => true
  | .name _ => false
  | .member base _ => base.usesImplicit
  | .call f a => f.usesImplicit || a.usesImplicit

/-- The names that are looked up in the scope chain. -/
def names : Expr → List String
  | .implicit => []
  | .name id => [id]
  | .member base _ => base.names
  | .call f a => f.names ++ a.names

/-- The value has nothing to offer to the expression as a scope. -/
structure Overlooks (s : Value κ) (e : Expr) : Prop where
  explicit : e.usesImplicit = false
  unknown : ∀ id ∈ e.names, s.lookup id = none

variable {s : Value κ}

theorem overlooks_member {base : Expr} {key : String} :
    (Expr.member base key).Overlooks s ↔ base.Overlooks s :=
  ⟨fun h => ⟨h.explicit, h.unknown⟩, fun h => ⟨h.explicit, h.unknown⟩⟩

theorem overlooks_call {f a : Expr} :
    (Expr.call f a).Overlooks s ↔ f.Overlooks s ∧ a.Overlooks s := by
  constructor
  · intro ⟨hexplicit, hunknown⟩
    obtain ⟨hf, ha⟩ := Bool.or_eq_false_iff.1 hexplicit
    obtain ⟨hfnames, hanames⟩ := List.forall_mem_append.1 hunknown
    exact ⟨⟨hf, hfnames⟩, ⟨ha, hanames⟩⟩
  · intro ⟨hf, ha⟩
    exact ⟨Bool.or_eq_false_iff.2 ⟨hf.explicit, ha.explicit⟩,
      List.forall_mem_append.2 ⟨hf.unknown, ha.unknown⟩⟩

end Expr

/-! ## Chains with one more scope -/

/-- The second list has one more member, somewhere. -/
inductive Inserted {α : Type} (a : α) : List α → List α → Prop where
  | here {rest : List α} : Inserted a rest (a :: rest)
  | under {first : α} {rest rest' : List α} :
      Inserted a rest rest' → Inserted a (first :: rest) (first :: rest')

theorem Inserted.findSome?_eq {α β : Type} {a : α} {before after : List α}
    (h : Inserted a before after) {f : α → Option β} (ha : f a = none) :
    after.findSome? f = before.findSome? f := by
  induction h with
  | here => rw [List.findSome?_cons, ha]
  | under _ ih => rw [List.findSome?_cons, List.findSome?_cons, ih]

namespace ScopeChain

/-- The second chain has one more scope, somewhere, and the same hooks. -/
structure Hides (s : Value κ) (c c' : ScopeChain κ) : Prop where
  scopes : Inserted s c.scopes c'.scopes
  hooks : c'.hooks = c.hooks

variable {s : Value κ} {c c' : ScopeChain κ}

theorem hides_withScope (s : Value κ) (c : ScopeChain κ) : Hides s c (c.withScope s) :=
  ⟨.here, rfl⟩

theorem hides_extended (hobserver : s.observer = none) (c : ScopeChain κ) :
    Hides s c (c.extended s) :=
  ⟨.here, by rw [hooks_extended, hobserver]; rfl⟩

theorem Hides.extended (v : Value κ) (h : Hides s c c') :
    Hides s (c.extended v) (c'.extended v) where
  scopes := .under h.scopes
  hooks := by rw [hooks_extended, hooks_extended, h.hooks]

theorem Hides.position?_eq (h : Hides s c c') (hposition : s.position = none) :
    c'.position? = c.position? :=
  h.scopes.findSome?_eq hposition

theorem Hides.resolve_eq (h : Hides s c c') (hposition : s.position = none) {id : String}
    (hunknown : s.lookup id = none) : c'.resolve id = c.resolve id := by
  rw [resolve, resolve, h.position?_eq hposition, h.scopes.findSome?_eq hunknown]

end ScopeChain

theorem Expr.Overlooks.evaluate_eq {s : Value κ} {c c' : ScopeChain κ}
    (h : ScopeChain.Hides s c c') (hposition : s.position = none) (host : Host κ) {e : Expr}
    (he : e.Overlooks s) : e.evaluate host c' = e.evaluate host c := by
  induction e with
  | implicit => exact absurd he.explicit (by decide)
  | name id =>
      rw [evaluate, evaluate, h.resolve_eq hposition (he.unknown id (by simp [names]))]
  | member base key ih => rw [evaluate, evaluate, ih (overlooks_member.1 he)]
  | call f a ihf iha =>
      obtain ⟨hf, ha⟩ := overlooks_call.1 he
      rw [evaluate, evaluate, ihf hf, iha ha]

theorem hides_simulation {s : Value κ} (hposition : s.position = none) (setting : Setting κ) :
    ChainSimulation setting (Expr.Overlooks s) (ScopeChain.Hides s) Run.RepeatedBy :=
  repeatedBy_simulation (fun v h => h.extended v) (·.hooks) fun he h =>
    he.evaluate_eq h hposition setting.host

/-! ## Plain values -/

/-- A boolean or a number without capabilities. -/
inductive Value.IsPlain : Value κ → Prop where
  | ofBool (b : Bool) : IsPlain (.ofBool b)
  | ofInt (n : Int64) : IsPlain (.ofInt n)
  | ofFloat (x : Float) : IsPlain (.ofFloat x)

theorem Value.IsPlain.overlooks {v : Value κ} (h : v.IsPlain) {e : Expr}
    (he : e.usesImplicit = false) : e.Overlooks v := by
  refine ⟨he, fun id _ => ?_⟩
  cases h <;> rfl

theorem Value.IsPlain.override {v : Value κ} (h : v.IsPlain) : v.override = none := by
  cases h <;> rfl

theorem Value.IsPlain.observer {v : Value κ} (h : v.IsPlain) : v.observer = none := by
  cases h <;> rfl

theorem Value.IsPlain.position {v : Value κ} (h : v.IsPlain) : v.position = none := by
  cases h <;> rfl

theorem bodyScopes_of_isPlain {v : Value κ} (h : v.IsPlain) (c : ScopeChain κ) :
    bodyScopes .sectionTag c v = if v.isTruthy then [c.extended v] else [] := by
  cases h <;> rfl

theorem renderBodies_of_isPlain {setting : Setting κ} {levels : Nat} {body : List Node}
    {c : ScopeChain κ} {v : Value κ} (hplain : v.IsPlain)
    (hexplicit : ∀ e, ReachedExpr setting.partials body e → e.usesImplicit = false)
    (hcalls : (renderLevels setting levels body c).NoHostOverride) :
    renderBodies (renderLevels setting levels body) (bodyScopes .sectionTag c v) =
      if v.isTruthy then renderLevels setting levels body c else pure "" := by
  have hpushed : renderLevels setting levels body (c.extended v) =
      renderLevels setting levels body c :=
    (hides_simulation hplain.position setting).related_renderLevels levels body
      (fun e he => hplain.overlooks (hexplicit e he))
      (ScopeChain.hides_extended hplain.observer c) hcalls
  rw [bodyScopes_of_isPlain hplain]
  split
  · rw [renderBodies_singleton, hpushed]
  · rfl

/-! ## Trees -/

/-- Whatever else `s` has to offer, be it an observer, as a mere scope it makes no difference
to a tree all of whose expressions overlook it: text or error, events and frames are the
same.  The body of a section on a boolean or a number is such a tree as soon as it does not
ask for the innermost scope, so it is rendered in the chain of the section, or not at all.
The entries of `s` may have the names of keys further down a path.  All this goes as far as
no override of the host is called, because an override is given the chain itself. -/
theorem renderTree_overlooks_scope (setting : Setting κ) (c : ScopeChain κ) :
    (∀ (s : Value κ) (nodes : List Node), s.position = none →
      (∀ e, ReachedExpr setting.partials nodes e → e.Overlooks s) →
      (renderTree setting nodes c).NoHostOverride →
        renderTree setting nodes (c.withScope s) = renderTree setting nodes c) ∧
    (∀ (levels : Nat) (e : Expr) (body : List Node) (source : String)
        (candidate v : Value κ), (e.evaluate setting.host c).result = .ok candidate →
      finalCandidate setting.host (.ofSection false e source) c.hooks candidate = v →
      v.IsPlain →
      (∀ e', ReachedExpr setting.partials body e' → e'.usesImplicit = false) →
      (renderLevels setting (levels + 1) body c).NoHostOverride →
        (Node.sectionTag false e body source).renderOn setting (renderLevels setting levels) c =
          e.around setting.host c (.ofSection false e source) candidate
            (if v.isTruthy then renderLevels setting (levels + 1) body c else pure "")) ∧
    (∀ (s : Value κ) (base : Expr) (key : String), s.position = none → base.Overlooks s →
      (Expr.member base key).evaluate setting.host (c.withScope s) =
        (Expr.member base key).evaluate setting.host c) ∧
    ∀ s : Value κ, s.position = none → ∀ id ∈ ["@key", "@index", "@first", "@last"],
      (c.withScope s).resolve id = c.resolve id := by
  refine ⟨?tree, ?plainSection, ?key, ?position⟩
  case tree =>
    intro s nodes hposition hoverlooked hcalls
    exact (hides_simulation hposition setting).related_renderTree nodes hoverlooked
      (ScopeChain.hides_withScope s c) hcalls
  case plainSection =>
    intro levels e body source candidate v hcandidate hlast hplain hexplicit hcalls
    have hwhole := Node.renderOn_section hcandidate hlast (.inr hplain.override)
      (renderLevels setting levels) body
    have hbody := renderBodies_of_isPlain hplain hexplicit hcalls
    rw [hwhole]
    exact congrArg (e.around setting.host c (.ofSection false e source) candidate) hbody
  case key =>
    intro s base key hposition hbase
    exact (Expr.overlooks_member.2 hbase).evaluate_eq (ScopeChain.hides_withScope s c) hposition
      setting.host
  case position =>
    intro s hposition id hid
    have hsame := (ScopeChain.hides_withScope s c).position?_eq hposition
    simp only [List.mem_cons, List.not_mem_nil, or_false] at hid
    rcases hid with rfl | rfl | rfl | rfl <;>
      simp [ScopeChain.resolve, ScopeChain.positionField?, hsame]

/-- A scope with the key of a path, below which a partial asks for the position of an
element that is further out. -/
theorem renderTree_overlooks_scope_key :
    let resolve : String → Except RenderError (List Node) :=
      fun _ => .ok [.variableTag (.name "@last") true]
    let setting : Setting Unit := ⟨bodyHost, .html, 8, some resolve⟩
    let path : Expr := .member (.name "user") "name"
    let body : List Node := [.variableTag path true, .text " ", .partialTag "p"]
    let user : Value Unit :=
      { Value.ofEntries [("user", .ofEntries [("name", .ofString "Ann")]),
          ("on", .ofBool true)] with position := some ⟨none, 0, true, false⟩ }
    let c := ScopeChain.empty.withScope user
    let s : Value Unit := .ofEntries [("name", .ofString "Bob")]
    s.lookup "name" = some (.ofString "Bob") ∧ s.position = none ∧
      (∀ e, ReachedExpr setting.partials body e → e.Overlooks s ∧ e.usesImplicit = false) ∧
      (renderTree setting body c).NoHostOverride ∧
      (renderTree setting body c).result.toOption = some "Ann false" ∧
      renderTree setting body (c.withScope s) = renderTree setting body c ∧
      (Node.sectionTag false (.name "on") body "").renderOn setting (renderLevels setting 8) c =
        (Expr.name "on").around bodyHost c (.ofSection false (.name "on") "") (.ofBool true)
          (renderTree setting body c) ∧
      (path.evaluate bodyHost (c.withScope s)).result =
        (path.evaluate bodyHost c).result ∧
      (c.withScope s).resolve "@last" = c.resolve "@last" := by
  intro resolve setting path body user c s
  have htrees : ∀ tree, Reaches setting.partials body tree →
      tree = body ∨ tree = [.variableTag (.name "@last") true] := by
    intro tree h
    induction h with
    | self => exact .inl rfl
    | included _ _ hpartials hresolve _ =>
        obtain rfl := Option.some.inj hpartials
        exact .inr (Except.ok.inj hresolve).symm
  have hexprs : ∀ e, ReachedExpr setting.partials body e →
      e.Overlooks s ∧ e.usesImplicit = false := by
    intro e ⟨tree, hreaches, he⟩
    rcases htrees tree hreaches with rfl | rfl
    · obtain rfl : e = path := by simpa [body, exprs, Node.exprs] using he
      exact ⟨⟨rfl, by simp [path, Expr.names]; rfl⟩, rfl⟩
    · obtain rfl : e = .name "@last" := by simpa [exprs, Node.exprs] using he
      exact ⟨⟨rfl, by simp [Expr.names]; rfl⟩, rfl⟩
  have hcalls : (renderTree setting body c).NoHostOverride := by
    unfold Run.NoHostOverride Run.Avoids
    decide +kernel
  obtain ⟨htree, hsection, hkey, hposition⟩ := renderTree_overlooks_scope setting c
  refine ⟨rfl, rfl, hexprs, hcalls, by decide +kernel, ?_, ?_, ?_, ?_⟩
  · exact htree s body rfl (fun e he => (hexprs e he).1) hcalls
  · exact hsection 8 (.name "on") body "" (.ofBool true) (.ofBool true) rfl rfl
      (.ofBool true) (fun e he => (hexprs e he).2) hcalls
  · rw [hkey s (.name "user") "name" rfl ⟨rfl, by simp [Expr.names]; rfl⟩]
  · exact hposition s rfl "@last" (by simp)

end Mustache
