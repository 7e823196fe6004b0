import Mathlib.Order.Filter.AtTopBot.Basic
import Mathlib.Order.Filter.Finite
import Mustache.Proofs.Render.Inlining

/-!
# Why rendering ends

Partials may include each other in cycles, and an override may expand whatever it likes, so
the tree alone does not bound a render.  The recursion is therefore looked at call by call.
A call renders a list of nodes at some depth; the calls nested in it render the body of a
section at the same depth, or some other tree one level further down.  The first are smaller
and the second are closer to the limit, however often iteration repeats them.

`Setting.unfold` is the engine with this recursion left open.  It puts together what it is
told about the nested calls and asks about no others.  So unfolding it often enough says all
there is to say about a call, whatever is assumed about the calls further in, and it says
what the engine says.
-/

namespace Mustache

variable {κ : Type}

/-- A list of nodes that is to be rendered while `depth` frames are open. -/
structure Call (κ : Type) where
  depth : Nat
  nodes : List Node
  scope : ScopeChain κ

mutual

/-- The number of nodes, at any depth. -/
def Node.size : Node → Nat
  | .text _ | .variableTag _ _ | .partialTag _ => 1
  | .sectionTag _ _ body _ => treeSize body + 1

def treeSize : List Node → Nat
  | [] => 0
  | node :: rest => node.size + treeSize rest

end

theorem size_le_of_mem {node : Node} {nodes : List Node} (h : node ∈ nodes) :
    node.size ≤ treeSize nodes := by
  induction h with
  | head rest => exact Nat.le_add_right _ _
  | tail _ _ ih => exact Nat.le_add_left_of_le ih

/-- A tag as hooks and overrides get to know it, and its body. -/
def Node.tag? : Node → Option (TagInfo × List Node)
  | .text _ | .partialTag _ => none
  | .variableTag e _ => some (.ofVariable e, [])
  | .sectionTag inverted e body source => some (.ofSection inverted e source, body)

/-- In some course of events the action asks for the nodes to be rendered in the chain; the
body of its tag is `body`. -/
def Action.Asks (body : List Node) : Action κ → List Node → ScopeChain κ → Prop
  | .done _, _, _ => False
  | .log _ next, nodes, c => next.Asks body nodes c
  | .inner scope next, nodes, c => nodes = body ∧ c = scope ∨ ∃ r, (next r).Asks body nodes c
  | .expand tree scope next, nodes, c => nodes = tree ∧ c = scope ∨ ∃ r, (next r).Asks body nodes c
  | .fallback _ next, nodes, c => ∃ r, (next r).Asks body nodes c

namespace Setting

variable (setting : Setting κ)

/-- What comes of a call. -/
def answer (call : Call κ) : Run κ String :=
  renderLevels setting (setting.maxDepth + 1 - call.depth) call.nodes call.scope

/-! ## The recursion left open -/

/-- A node at some depth, for which `again` answers the nested calls. -/
def unfoldNode (again : Call κ → Run κ String) (depth : Nat) :
    Node → ScopeChain κ → Run κ String
  | .text content, _ => pure content
  | .partialTag name, c =>
      match setting.partials with
      | none => Run.fail (.partialNotFound name)
      | some resolve =>
          match resolve name with
          | .error e => Run.fail e
          | .ok nodes => .framed (.inclusion name) (again ⟨depth + 1, nodes, c⟩)
  | .variableTag e escapes, c =>
      (Site.ofVariable (fun nodes c => again ⟨depth + 1, nodes, c⟩) e c).render setting e escapes
  | .sectionTag inverted e body source, c =>
      (Site.ofSection (fun c => again ⟨depth, body, c⟩)
        (fun nodes c => again ⟨depth + 1, nodes, c⟩) inverted e body source c).render setting e
          true

def unfoldNodes (again : Call κ → Run κ String) (depth : Nat) :
    List Node → ScopeChain κ → Run κ String
  | [], _ => pure ""
  | node :: rest, c => do
      let first ← setting.unfoldNode again depth node c
      let others ← unfoldNodes again depth rest c
      return first ++ others

/-- A call, for which `again` answers the nested calls. -/
def unfold (again : Call κ → Run κ String) (call : Call κ) : Run κ String :=
  if call.depth > setting.maxDepth then Run.fail (.recursionLimit setting.maxDepth)
  else setting.unfoldNodes again call.depth call.nodes call.scope

/-- The calls that rendering the nodes of a call can lead to at once. -/
inductive Nested (call : Call κ) : Call κ → Prop where
  | body {node : Node} {info : TagInfo} {body : List Node} {c : ScopeChain κ} {v : Value κ} :
      call.depth ≤ setting.maxDepth → node ∈ call.nodes → node.tag? = some (info, body) →
        c ∈ bodyScopes info.kind call.scope v → Nested call ⟨call.depth, body, c⟩
  | included {name : String} {nodes : List Node}
      {resolve : String → Except RenderError (List Node)} :
      call.depth ≤ setting.maxDepth → .partialTag name ∈ call.nodes →
        setting.partials = some resolve → resolve name = .ok nodes →
        Nested call ⟨call.depth + 1, nodes, call.scope⟩
  | asked {node : Node} {info : TagInfo} {body nodes : List Node} {c : ScopeChain κ}
      {handle : κ} :
      call.depth ≤ setting.maxDepth → node ∈ call.nodes → node.tag? = some (info, body) →
        (setting.host.override handle ⟨info, call.scope, setting.contentType⟩).Asks body nodes c →
        Nested call ⟨call.depth + 1, nodes, c⟩

/-- What is left of the depth, and the number of nodes. -/
def measure (call : Call κ) : Nat × Nat :=
  (setting.maxDepth + 1 - call.depth, treeSize call.nodes)

variable {setting}

theorem treeSize_body_lt {node : Node} {info : TagInfo} {body : List Node}
    (htag : node.tag? = some (info, body)) : treeSize body < node.size := by
  cases node with
  | text content => cases htag
  | partialTag name => cases htag
  | variableTag e escapes =>
      cases htag
      exact Nat.zero_lt_one
  | sectionTag inverted e body source =>
      cases htag
      exact Nat.lt_succ_self _

/-- Either the depth grows, or it stays the same and there are fewer nodes. -/
theorem Nested.measure_lt {call nested : Call κ} (h : setting.Nested call nested) :
    Prod.Lex (· < ·) (· < ·) (setting.measure nested) (setting.measure call) := by
  cases h with
  | included hdepth _ _ _ | asked hdepth _ _ _ =>
      apply Prod.Lex.left
      change setting.maxDepth + 1 - (call.depth + 1) < setting.maxDepth + 1 - call.depth
      omega
  | body _ hnode htag _ =>
      apply Prod.Lex.right
      exact Nat.lt_of_lt_of_le (treeSize_body_lt htag) (size_le_of_mem hnode)

theorem wellFounded_nested (setting : Setting κ) :
    WellFounded fun nested call => setting.Nested call nested :=
  Subrelation.wf (fun h => h.measure_lt)
    (InvImage.wf setting.measure (WellFounded.prod_lex wellFounded_lt wellFounded_lt))

/-! ## The engine answers as its unfolding -/

theorem answer_of_gt {call : Call κ} (h : setting.maxDepth < call.depth) :
    setting.answer call = Run.fail (.recursionLimit setting.maxDepth) := by
  rw [answer, Nat.sub_eq_zero_of_le h]
  rfl

theorem answer_of_le {call : Call κ} (h : call.depth ≤ setting.maxDepth) :
    setting.answer call =
      renderNodesOn setting (fun nodes c => setting.answer ⟨call.depth + 1, nodes, c⟩)
        call.nodes call.scope := by
  have hlevels : setting.maxDepth + 1 - call.depth =
      setting.maxDepth + 1 - (call.depth + 1) + 1 := by
    omega
  rw [answer, hlevels]
  rfl

theorem renderOn_eq_unfoldNode {depth : Nat} (h : depth ≤ setting.maxDepth) (node : Node)
    (c : ScopeChain κ) :
    node.renderOn setting (fun nodes c => setting.answer ⟨depth + 1, nodes, c⟩) c =
      setting.unfoldNode setting.answer depth node c := by
  cases node with
  | text content => rw [Node.renderOn, unfoldNode]
  | partialTag name =>
      rw [Node.renderOn]
      rfl
  | variableTag e escapes => rw [Node.renderOn, unfoldNode]
  | sectionTag inverted e body source =>
      have hbody : ∀ c, renderNodesOn setting
          (fun nodes c => setting.answer ⟨depth + 1, nodes, c⟩) body c =
          setting.answer ⟨depth, body, c⟩ :=
        fun c => (answer_of_le h : setting.answer ⟨depth, body, c⟩ = _).symm
      rw [Node.renderOn, unfoldNode]
      simp only [hbody]

theorem answer_eq_unfold (call : Call κ) :
    setting.answer call = setting.unfold setting.answer call := by
  rw [unfold]
  by_cases hdepth : call.depth ≤ setting.maxDepth
  · rw [if_neg (Nat.not_lt.2 hdepth), answer_of_le hdepth]
    induction call.nodes with
    | nil => rw [renderNodesOn, unfoldNodes]
    | cons node rest ih => rw [renderNodesOn, unfoldNodes, renderOn_eq_unfoldNode hdepth, ih]
  · rw [if_pos (Nat.not_le.1 hdepth), answer_of_gt (Nat.not_le.1 hdepth)]

end Setting

/-! ## Finitely many nested calls -/

/-- Among the answers to calls, `x` looks at finitely many, and all those calls have `P`, if
the answers are those of `last`. -/
def Supported {α : Type} (last : Call κ → Run κ String) (P : Call κ → Prop)
    (x : (Call κ → Run κ String) → Run κ α) : Prop :=
  ∃ calls : List (Call κ), (∀ call ∈ calls, P call) ∧
    ∀ again, (∀ call ∈ calls, again call = last call) → x again = x last

section Supported

variable {last : Call κ → Run κ String} {P : Call κ → Prop}

namespace Supported

theorem const {α : Type} (x : Run κ α) : Supported last P fun _ => x :=
  ⟨[], nofun, fun _ _ => rfl⟩

theorem ask {call : Call κ} (h : P call) : Supported last P fun again => again call :=
  ⟨[call], List.forall_mem_singleton.2 h, fun _ hagain => hagain call List.mem_cons_self⟩

theorem agree {α β : Type} {x : (Call κ → Run κ String) → Run κ α}
    {y : (Call κ → Run κ String) → Run κ β} (hx : Supported last P x)
    (hy : ∀ again, x again = x last → y again = y last) : Supported last P y := by
  obtain ⟨calls, hP, hcalls⟩ := hx
  exact ⟨calls, hP, fun again hagain => hy again (hcalls again hagain)⟩

theorem agree₂ {α β γ : Type} {x : (Call κ → Run κ String) → Run κ α}
    {y : (Call κ → Run κ String) → Run κ β} {z : (Call κ → Run κ String) → Run κ γ}
    (hx : Supported last P x) (hy : Supported last P y)
    (hz : ∀ again, x again = x last → y again = y last → z again = z last) :
    Supported last P z := by
  obtain ⟨calls, hP, hcalls⟩ := hx
  obtain ⟨others, hP', hothers⟩ := hy
  refine ⟨calls ++ others, List.forall_mem_append.2 ⟨hP, hP'⟩, ?_⟩
  intro again hagain
  obtain ⟨hfirst, hrest⟩ := List.forall_mem_append.1 hagain
  exact hz again (hcalls again hfirst) (hothers again hrest)

theorem comp {α β : Type} {x : (Call κ → Run κ String) → Run κ α} (h : Supported last P x)
    (f : Run κ α → Run κ β) : Supported last P fun again => f (x again) :=
  h.agree fun _ hx => congrArg f hx

/-- What follows a run only has to be looked at for the result that it has for `last`. -/
theorem settle {α β : Type} {x : (Call κ → Run κ String) → Run κ α}
    {f : (Call κ → Run κ String) → Except RenderError α → Run κ β} (hx : Supported last P x)
    (hf : ∀ result, Supported last P (f · result)) :
    Supported last P fun again => (x again).settle (f again) := by
  apply hx.agree₂ (hf (x last).result)
  intro again hfirst hnext
  rw [hfirst, Run.settle, Run.settle, hnext]

theorem bind {α β : Type} {x : (Call κ → Run κ String) → Run κ α}
    {f : (Call κ → Run κ String) → α → Run κ β} (hx : Supported last P x)
    (hf : ∀ a, Supported last P (f · a)) : Supported last P fun again => x again >>= f again := by
  cases hresult : (x last).result with
  | error e =>
      apply hx.agree
      intro again hfirst
      rw [hfirst, Run.bind_of_error hresult, Run.bind_of_error hresult]
  | ok a =>
      apply hx.agree₂ (hf a)
      intro again hfirst hnext
      rw [hfirst, Run.bind_of_ok hresult, Run.bind_of_ok hresult, hnext]

theorem join {x y : (Call κ → Run κ String) → Run κ String} (hx : Supported last P x)
    (hy : Supported last P y) :
    Supported last P fun again => do
      let first ← x again
      let others ← y again
      return first ++ others :=
  hx.bind fun _ => hy.bind fun _ => const _

theorem renderBodies {body : (Call κ → Run κ String) → ScopeChain κ → Run κ String}
    {scopes : List (ScopeChain κ)} (h : ∀ c ∈ scopes, Supported last P (body · c)) :
    Supported last P fun again => renderBodies (body again) scopes := by
  induction scopes with
  | nil => exact const _
  | cons c rest ih =>
      obtain ⟨hfirst, hrest⟩ := List.forall_mem_cons.1 h
      exact hfirst.join (ih hrest)

end Supported

/-- A place for a tag that looks at the answers to calls with `P` only, as far as the tag
makes use of it. -/
structure SupportedSite (last : Call κ → Run κ String) (P : Call κ → Prop)
    (setting : Setting κ) (info : TagInfo) (body : List Node) (c : ScopeChain κ)
    (site : (Call κ → Run κ String) → Site κ) : Prop where
  tag : ∀ again, (site again).tag = info
  scope : ∀ again, (site again).scope = c
  bodies : ∀ v, ∀ c' ∈ bodyScopes info.kind c v,
    Supported last P fun again => (site again).body c'
  inner : ∀ again c', (site again).inner c' = (site again).expand body c'
  asked : ∀ handle nodes c',
    (setting.host.override handle ⟨info, c, setting.contentType⟩).Asks body nodes c' →
      Supported last P fun again => (site again).expand nodes c'

namespace SupportedSite

variable {setting : Setting κ} {info : TagInfo} {body : List Node} {c : ScopeChain κ}
  {site : (Call κ → Run κ String) → Site κ}
  (h : SupportedSite last P setting info body c site)
include h

theorem renderDefault (contentType : ContentType) (v : Value κ) :
    Supported last P fun again => (site again).renderDefault contentType v := by
  by_cases hkind : info.kind = .variableTag
  · have hdefault : ∀ again, (site again).renderDefault contentType v = pure ⟨v.text, .text⟩ :=
      fun again => Site.renderDefault_variable (by rw [h.tag, hkind]) contentType v
    simp only [hdefault]
    exact .const _
  · have hdefault : ∀ again, (site again).renderDefault contentType v =
        (⟨·, contentType⟩) <$> renderBodies (site again).body (bodyScopes info.kind c v) := by
      intro again
      rw [Site.renderDefault_eq (by rwa [h.tag]), h.tag, h.scope]
    simp only [hdefault]
    exact (Supported.renderBodies (h.bodies v)).comp _

theorem perform (contentType : ContentType) {action : Action κ}
    (hasks : ∀ nodes c, action.Asks body nodes c →
      Supported last P fun again => (site again).expand nodes c) :
    Supported last P fun again => (site again).perform contentType action := by
  induction action with
  | done result => exact .const _
  | log event next ih =>
      simp only [Site.perform]
      exact (Supported.const _).bind fun _ => ih hasks
  | inner scope next ih =>
      simp only [Site.perform_inner, h.inner]
      apply ((hasks body scope (.inl ⟨rfl, rfl⟩)).comp (Run.framed .body)).settle
      intro result
      exact ih _ fun nodes c hnext => hasks nodes c (.inr ⟨_, hnext⟩)
  | expand nodes scope next ih =>
      simp only [Site.perform_expand]
      apply ((hasks nodes scope (.inl ⟨rfl, rfl⟩)).comp (Run.framed .template)).settle
      intro result
      exact ih _ fun nodes c hnext => hasks nodes c (.inr ⟨_, hnext⟩)
  | fallback v next ih =>
      simp only [Site.perform_fallback]
      apply (h.renderDefault contentType v).settle
      intro result
      exact ih _ fun nodes c hnext => hasks nodes c ⟨_, hnext⟩

theorem fragment (v : Value κ) :
    Supported last P fun again => (site again).fragment setting v := by
  unfold Site.fragment
  simp only [h.tag, h.scope]
  cases info.kind with
  | invertedTag => exact h.renderDefault setting.contentType v
  | variableTag | sectionTag =>
      apply h.perform
      intro nodes c hasks
      unfold Value.render at hasks
      cases hoverride : v.override with
      | none =>
          rw [hoverride] at hasks
          obtain ⟨r, hr⟩ := hasks
          exact hr.elim
      | some o =>
          rw [hoverride] at hasks
          cases o with
          | fixed rendering => exact hasks.elim
          | host handle => exact h.asked handle nodes c hasks

theorem render (e : Expr) (escapes : Bool) :
    Supported last P fun again => (site again).render setting e escapes := by
  unfold Site.render
  simp only [h.tag, h.scope, observe_eq_between]
  apply (Supported.const _).bind
  intro candidate
  apply Supported.comp
  exact (h.fragment _).bind fun _ => .const _

end SupportedSite

namespace Setting

variable {setting : Setting κ} {call : Call κ}

theorem supported_unfoldNode (hdepth : call.depth ≤ setting.maxDepth) {node : Node}
    (hnode : node ∈ call.nodes) :
    Supported last (setting.Nested call) fun again =>
      setting.unfoldNode again call.depth node call.scope := by
  cases node with
  | text content =>
      simp only [unfoldNode]
      exact .const _
  | partialTag name =>
      simp only [unfoldNode]
      cases hpartials : setting.partials with
      | none => exact .const _
      | some resolve =>
          cases hresolve : resolve name with
          | error e =>
              simp only [hresolve]
              exact .const _
          | ok nodes =>
              simp only [hresolve]
              exact (Supported.ask (.included hdepth hnode hpartials hresolve)).comp _
  | variableTag e escapes =>
      simp only [unfoldNode]
      apply SupportedSite.render
      exact
        { tag := fun _ => rfl
          scope := fun _ => rfl
          bodies := fun _ _ hscope => absurd hscope List.not_mem_nil
          inner := fun _ _ => rfl
          asked := fun _ _ _ hasks => .ask (.asked hdepth hnode rfl hasks) }
  | sectionTag inverted e body source =>
      simp only [unfoldNode]
      apply SupportedSite.render
      exact
        { tag := fun _ => rfl
          scope := fun _ => rfl
          bodies := fun _ _ hscope => .ask (.body hdepth hnode rfl hscope)
          inner := fun _ _ => rfl
          asked := fun _ _ _ hasks => .ask (.asked hdepth hnode rfl hasks) }

/-- A call depends on the answers to finitely many calls, all of which are nested in it. -/
theorem supported_unfold (last : Call κ → Run κ String) (setting : Setting κ)
    (call : Call κ) :
    Supported last (setting.Nested call) fun again => setting.unfold again call := by
  simp only [unfold]
  by_cases hdepth : call.depth > setting.maxDepth
  · simp only [if_pos hdepth]
    exact .const _
  · simp only [if_neg hdepth]
    have hnodes : ∀ nodes ⊆ call.nodes, Supported last (setting.Nested call) fun again =>
        setting.unfoldNodes again call.depth nodes call.scope := by
      intro nodes hsubset
      induction nodes with
      | nil =>
          simp only [unfoldNodes]
          exact .const _
      | cons node rest ih =>
          obtain ⟨hnode, hrest⟩ := List.cons_subset.1 hsubset
          simp only [unfoldNodes]
          exact (supported_unfoldNode (Nat.not_lt.1 hdepth) hnode).join (ih hrest)
    exact hnodes call.nodes (List.Subset.refl _)

end Setting

end Supported

/-! ## Unfolding comes to an end -/

namespace Setting

variable (setting : Setting κ)

/-- Unfolding the recursion often enough leaves nothing to what is assumed about the calls
that are still open. -/
theorem eventually_iterate_unfold (call : Call κ) :
    ∀ᶠ n in Filter.atTop, ∀ start, setting.unfold^[n] start call = setting.answer call := by
  induction call using setting.wellFounded_nested.induction with
  | _ call ih =>
      obtain ⟨calls, hnested, hcalls⟩ :=
        Setting.supported_unfold setting.answer setting call
      have hall : ∀ᶠ n in Filter.atTop, ∀ nested ∈ calls, ∀ start,
          setting.unfold^[n] start nested = setting.answer nested :=
        calls.finite_toSet.eventually_all.2 fun nested hmem => ih nested (hnested nested hmem)
      obtain ⟨bound, hbound⟩ := Filter.eventually_atTop.1 hall
      refine Filter.eventually_atTop.2 ⟨bound + 1, ?_⟩
      intro n hn start
      obtain ⟨m, rfl⟩ := Nat.exists_eq_add_of_le' hn
      rw [← Nat.add_assoc, Function.iterate_succ_apply', answer_eq_unfold]
      apply hcalls
      intro nested hmem
      exact hbound (m + bound) (Nat.le_add_left _ _) nested hmem start

end Setting

/-! ## Partials that include themselves -/

section SelfIncluded

variable {setting : Setting κ} {resolve : String → Except RenderError (List Node)}
  {name : String} {before after : List Node}

/-- What comes of a tree that includes itself: the first error of the nodes before that, as
they are rendered at one depth after the other, or the recursion limit if there is none. -/
theorem Setting.answer_selfIncluded (hpartials : setting.partials = some resolve)
    (hresolve : resolve name = .ok (before ++ .partialTag name :: after)) (c : ScopeChain κ)
    {depth : Nat} (hdepth : depth ≤ setting.maxDepth + 1) :
    ∃ last e,
      (setting.answer ⟨depth, before ++ .partialTag name :: after, c⟩).result = .error e ∧
      (∀ d, depth ≤ d → d < last → ∃ text, (setting.answer ⟨d, before, c⟩).result = .ok text) ∧
      (last ≤ setting.maxDepth ∧ (setting.answer ⟨last, before, c⟩).result = .error e ∨
        last = setting.maxDepth + 1 ∧ e = .recursionLimit setting.maxDepth) := by
  induction hdepth using Nat.decreasingInduction with
  | self =>
      refine ⟨setting.maxDepth + 1, .recursionLimit setting.maxDepth, ?_, ?_, .inr ⟨rfl, rfl⟩⟩
      · rw [Setting.answer_of_gt (Nat.lt_succ_self _)]
        rfl
      · intro d hle hlt
        exact absurd hlt (Nat.not_lt.2 hle)
  | of_succ depth hlt ih =>
      have hle : depth ≤ setting.maxDepth := Nat.le_of_lt_succ hlt
      have hbefore : setting.answer ⟨depth, before, c⟩ = _ := Setting.answer_of_le hle
      have hwhole : setting.answer ⟨depth, before ++ .partialTag name :: after, c⟩ = _ :=
        Setting.answer_of_le hle
      dsimp only at hbefore hwhole
      rw [renderNodesOn_append, ← hbefore, renderNodesOn, Node.renderOn, hpartials] at hwhole
      simp only [hresolve] at hwhole
      cases hfirst : (setting.answer ⟨depth, before, c⟩).result with
      | error e =>
          refine ⟨depth, e, ?_, ?_, .inl ⟨hle, hfirst⟩⟩
          · rw [hwhole, Run.result_bind_of_error hfirst]
          · intro d hge hlt
            exact absurd hlt (Nat.not_lt.2 hge)
      | ok text =>
          obtain ⟨last, e, herror, hokay, hlast⟩ := ih
          have hincluded : (Run.framed (.inclusion name) (setting.answer
              ⟨depth + 1, before ++ .partialTag name :: after, c⟩)).result = .error e := herror
          refine ⟨last, e, ?_, ?_, hlast⟩
          · rw [hwhole, Run.result_bind_of_ok hfirst, Run.bind_of_error hincluded,
              Run.result_bind_of_error rfl]
          · intro d hge hlt
            rcases Nat.eq_or_lt_of_le hge with rfl | hgt
            · exact ⟨text, hfirst⟩
            · exact hokay d hgt hlt

end SelfIncluded

/-- Rendering ends, whatever partials and overrides lead to.  The calls nested in a call are
smaller: they are closer to the limit or else have fewer nodes.  A call makes finitely many
of them, and what comes of it depends on their answers only.  So finitely many unfoldings of
the recursion determine the text or the error of a call, no matter what is assumed about the
calls that are still open.

A tree that includes itself on its top level has no text.  If what comes before does not
fail at some depth, the render stops at the recursion limit. -/
theorem renderTree_terminates (setting : Setting κ) :
    (∀ call nested, setting.Nested call nested →
      Prod.Lex (· < ·) (· < ·) (setting.measure nested) (setting.measure call)) ∧
    (∀ call, ∃ calls : List (Call κ), (∀ nested ∈ calls, setting.Nested call nested) ∧
      ∀ again, (∀ nested ∈ calls, again nested = setting.answer nested) →
        setting.unfold again call = setting.answer call) ∧
    (∀ call, ∃ n, ∀ start, setting.unfold^[n] start call = setting.answer call) ∧
    (∀ nodes c, setting.answer ⟨0, nodes, c⟩ = renderTree setting nodes c) ∧
    ∀ resolve name before after c, setting.partials = some resolve →
      resolve name = .ok (before ++ .partialTag name :: after) →
      ∃ depth e,
        (renderTree setting (before ++ .partialTag name :: after) c).result = .error e ∧
        (∀ d < depth, ∃ text, (setting.answer ⟨d, before, c⟩).result = .ok text) ∧
        (depth ≤ setting.maxDepth ∧ (setting.answer ⟨depth, before, c⟩).result = .error e ∨
          depth = setting.maxDepth + 1 ∧ e = .recursionLimit setting.maxDepth) := by
  refine ⟨?decreases, ?finite, ?unfoldings, ?whole, ?selfIncluded⟩
  case decreases => exact fun _ _ => Setting.Nested.measure_lt
  case finite =>
    intro call
    obtain ⟨calls, hnested, hcalls⟩ :=
      Setting.supported_unfold setting.answer setting call
    refine ⟨calls, hnested, ?_⟩
    intro again hagain
    exact (hcalls again hagain).trans (Setting.answer_eq_unfold call).symm
  case unfoldings =>
    intro call
    exact (setting.eventually_iterate_unfold call).exists
  case whole => exact fun _ _ => rfl
  case selfIncluded =>
    intro resolve name before after c hpartials hresolve
    obtain ⟨depth, e, herror, hokay, hlast⟩ :=
      Setting.answer_selfIncluded hpartials hresolve c (Nat.zero_le _)
    exact ⟨depth, e, herror, fun d hd => hokay d (Nat.zero_le d) hd, hlast⟩

/-- A partial that includes itself between two texts. -/
theorem renderTree_terminates_loop :
    let tree : List Node := [.text "x", .partialTag "loop", .text "y"]
    let resolve : String → Except RenderError (List Node) := fun _ => .ok tree
    let setting : Setting Unit := ⟨bodyHost, .html, 3, some resolve⟩
    let c : ScopeChain Unit := .empty
    setting.Nested ⟨0, tree, c⟩ ⟨1, tree, c⟩ ∧
      Prod.Lex (· < ·) (· < ·) (setting.measure ⟨1, tree, c⟩) (setting.measure ⟨0, tree, c⟩) ∧
      (∀ d ≤ 3, (setting.answer ⟨d, [.text "x"], c⟩).result = .ok "x") ∧
      resolve "loop" = .ok ([.text "x"] ++ .partialTag "loop" :: [.text "y"]) ∧
      (renderTree setting tree c).result = .error (.recursionLimit 3) := by
  intro tree resolve setting c
  have hnested : setting.Nested ⟨0, tree, c⟩ ⟨1, tree, c⟩ :=
    .included (Nat.zero_le _) (.tail _ (.head _)) rfl rfl
  have hbefore : ∀ d ≤ 3, (setting.answer ⟨d, [.text "x"], c⟩).result = .ok "x" := by
    intro d hd
    rw [Setting.answer_of_le hd]
    rfl
  obtain ⟨hdecreases, -, -, -, hself⟩ := renderTree_terminates setting
  obtain ⟨depth, e, herror, -, ⟨hdepth, hfirst⟩ | ⟨-, rfl⟩⟩ :=
    hself resolve "loop" [.text "x"] [.text "y"] c rfl rfl
  · rw [hbefore depth hdepth] at hfirst
    cases hfirst
  · exact ⟨hnested, hdecreases _ _ hnested, hbefore, rfl, herror⟩

end Mustache
