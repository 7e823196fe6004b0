import Mustache.Proofs.Render.Comparison
import Mustache.Proofs.Render.HookTrace

/-!
# The recursion limit

A render with a smaller limit is a render with a larger one, cut off at the first frame
that is one too many.  A run leaves each frame that it enters, so the number of frames it
has open at once does not depend on where it stands: for runs one after the other it is
the larger of the two numbers, and a frame around a run adds one.

Nothing else tells two limits apart.  As long as overrides propagate errors, a run that
stays below the limit is the same under both, and a run that goes beyond it fails.
-/

namespace Mustache

variable {κ : Type}

namespace Step

theorem le_depths (trace : List (Step κ)) (n : Nat) : n ≤ (depths trace n).2 := by
  induction trace generalizing n with
  | nil => exact Nat.le_refl n
  | cons s rest ih =>
      cases s with
      | event e => exact ih n
      | enter frame => exact Nat.le_max_left _ _
      | leave => exact Nat.le_max_left _ _

theorem depths_append (s t : List (Step κ)) (n : Nat) :
    depths (s ++ t) n =
      ((depths t (depths s n).1).1, max (depths s n).2 (depths t (depths s n).1).2) := by
  induction s generalizing n with
  | nil =>
      have hle := le_depths t n
      simp only [List.nil_append, depths, Nat.max_eq_right hle]
  | cons step rest ih =>
      cases step with
      | event e => exact ih n
      | enter frame => simp only [List.cons_append, depths, ih, Nat.max_assoc]
      | leave => simp only [List.cons_append, depths, ih, Nat.max_assoc]

/-- The steps leave each frame that they enter and have at most `height` frames open at
once, and at some point as many. -/
def Nests (trace : List (Step κ)) (height : Nat) : Prop :=
  ∀ n, depths trace n = (n, n + height)

theorem nests_events (events : List (Event κ)) : Nests (events.map .event) 0 := by
  intro n
  induction events with
  | nil => rfl
  | cons e rest ih => exact ih

theorem Nests.append {s t : List (Step κ)} {height height' : Nat} (hs : Nests s height)
    (ht : Nests t height') : Nests (s ++ t) (max height height') := by
  intro n
  rw [depths_append, hs n, ht n, Nat.add_max_add_left]

theorem Nests.enclosed {trace : List (Step κ)} {height : Nat} (h : Nests trace height)
    (frame : Frame) : Nests (.enter frame :: trace ++ [.leave]) (height + 1) := by
  intro n
  rw [List.cons_append, depths, depths_append, h (n + 1)]
  simp only [depths, Nat.add_sub_cancel, Prod.mk.injEq, true_and]
  omega

end Step

namespace Run

variable {α β : Type}

theorem maxOpen_of_nests {x : Run κ α} {height : Nat} (h : Step.Nests x.trace height) :
    x.maxOpen = height := by
  rw [maxOpen, h 0, Nat.zero_add]

/-- The first run is the second one, cut off where `levels` frames are open. -/
structure CutAt (levels limit : Nat) (x y : Run κ α) : Prop where
  nests : Step.Nests y.trace y.maxOpen
  below : y.maxOpen < levels → x = y
  beyond : levels ≤ y.maxOpen → x.result = .error (.recursionLimit limit)

variable {levels limit : Nat}

theorem CutAt.of_nests {x y : Run κ α} {height : Nat} (hnests : Step.Nests y.trace height)
    (hbelow : height < levels → x = y)
    (hbeyond : levels ≤ height → x.result = .error (.recursionLimit limit)) :
    CutAt levels limit x y := by
  obtain rfl := maxOpen_of_nests hnests
  exact ⟨hnests, hbelow, hbeyond⟩

/-- Without frames there is nothing to cut off. -/
theorem CutAt.refl {x : Run κ α} (hnests : Step.Nests x.trace 0) :
    CutAt (levels + 1) limit x x := by
  apply CutAt.of_nests hnests
  · intro _
    rfl
  · intro hbeyond
    exact absurd hbeyond (by omega)

theorem CutAt.framed {x y : Run κ α} (h : CutAt levels limit x y) (frame : Frame) :
    CutAt (levels + 1) limit (framed frame x) (framed frame y) := by
  apply CutAt.of_nests (h.nests.enclosed frame)
  · intro hbelow
    rw [h.below (by omega)]
  · intro hbeyond
    exact h.beyond (by omega)

theorem CutAt.bind {x y : Run κ α} {f g : α → Run κ β} (h : CutAt levels limit x y)
    (hnext : ∀ a, CutAt levels limit (f a) (g a)) :
    CutAt levels limit (x >>= f) (y >>= g) := by
  cases hy : y.result with
  | error e =>
      have hnests : Step.Nests (y >>= g).trace y.maxOpen := by
        rw [bind_of_error hy]
        exact h.nests
      apply CutAt.of_nests hnests
      · intro hbelow
        rw [h.below hbelow, bind_of_error hy, bind_of_error hy]
      · intro hbeyond
        exact result_bind_of_error (h.beyond hbeyond) f
  | ok a =>
      rw [bind_of_ok hy]
      apply CutAt.of_nests (h.nests.append (hnext a).nests)
      · intro hbelow
        rw [h.below (by omega), bind_of_ok hy, (hnext a).below (by omega)]
      · intro hbeyond
        by_cases hfirst : levels ≤ y.maxOpen
        · exact result_bind_of_error (h.beyond hfirst) f
        · rw [h.below (by omega), result_bind_of_ok hy]
          exact (hnext a).beyond (by omega)

theorem CutAt.settle {x y : Run κ α} {f g : Except RenderError α → Run κ β}
    (h : CutAt levels limit x y) (hstops : ∀ e, f (.error e) = fail e)
    (hnext : ∀ result, CutAt levels limit (f result) (g result)) :
    CutAt levels limit (x.settle f) (y.settle g) := by
  have hrest := hnext y.result
  apply CutAt.of_nests (h.nests.append hrest.nests)
  · intro hbelow
    rw [h.below (by omega), Run.settle, hrest.below (by omega)]
    rfl
  · intro hbeyond
    by_cases hfirst : levels ≤ y.maxOpen
    · rw [Run.settle, h.beyond hfirst, hstops]
      rfl
    · rw [h.below (by omega)]
      exact hrest.beyond (by omega)

theorem CutAt.between {x y : Run κ α} (before : List (Event κ))
    (after : Except RenderError α → List (Event κ)) (h : CutAt levels limit x y) :
    CutAt levels limit (x.between before after) (y.between before after) := by
  have hnests := ((Step.nests_events before).append h.nests).append
    (Step.nests_events (after y.result))
  rw [Nat.zero_max, Nat.max_zero] at hnests
  apply CutAt.of_nests hnests
  · intro hbelow
    rw [h.below hbelow]
  · exact h.beyond

theorem cutAt_comparison (levels limit : Nat) :
    Comparison (κ := κ) (CutAt (levels + 1) limit) where
  ofExcept _ := CutAt.refl (Step.nests_events [])
  emit e := CutAt.refl (Step.nests_events [e])
  bind := CutAt.bind
  settle := CutAt.settle
  between := CutAt.between

end Run

/-! ## Renders with two limits -/

section Trees

variable {setting : Setting κ} {levels limit limit' : Nat}
  {deeper deeper' : List Node → ScopeChain κ → Run κ String}

theorem cutAt_render (hpropagates : setting.host.Propagates) {site site' : Site κ}
    (hsites : Comparison.Sites (Run.CutAt (levels + 1) limit) (fun _ => True) site site')
    (e : Expr) (escapes : Bool) :
    Run.CutAt (levels + 1) limit (site.render setting e escapes)
      (site'.render setting e escapes) := by
  have hexpands : setting.host.ExpandsOnly fun _ => True :=
    fun _ _ => Action.expandsOnly_of_forall (fun _ => trivial) _
  exact (Run.cutAt_comparison levels limit).render hsites hpropagates hexpands e escapes

mutual

theorem Node.cutAt_renderOn (hpropagates : setting.host.Propagates)
    (hdeeper : ∀ nodes c, Run.CutAt levels limit (deeper nodes c) (deeper' nodes c))
    (node : Node) (c : ScopeChain κ) :
    Run.CutAt (levels + 1) limit
      (node.renderOn { setting with maxDepth := limit } deeper c)
      (node.renderOn { setting with maxDepth := limit' } deeper' c) := by
  have hcomparison := Run.cutAt_comparison (κ := κ) levels limit
  cases node with
  | text content =>
      rw [Node.renderOn, Node.renderOn]
      exact hcomparison.ofExcept (.ok content)
  | partialTag name =>
      rw [Node.renderOn, Node.renderOn]
      cases setting.partials with
      | none => exact hcomparison.ofExcept _
      | some resolve =>
          cases hresolve : resolve name with
          | error e =>
              simp only [hresolve]
              exact hcomparison.ofExcept _
          | ok nodes =>
              simp only [hresolve]
              exact (hdeeper nodes c).framed (.inclusion name)
  | variableTag e escapes =>
      rw [Node.renderOn, Node.renderOn]
      have hsites : Comparison.Sites (Run.CutAt (levels + 1) limit) (fun _ => True)
          (.ofVariable deeper e c) (.ofVariable deeper' e c) :=
        { tag := rfl
          scope := rfl
          body := fun _ => hcomparison.ofExcept (.ok "")
          inner := fun c => (hdeeper [] c).framed .body
          expand := fun c _ => (hdeeper _ c).framed .template }
      exact cutAt_render hpropagates hsites e escapes
  | sectionTag inverted e body source =>
      rw [Node.renderOn, Node.renderOn]
      have hbody := cutAt_renderNodesOn hpropagates hdeeper body
      have hsites : Comparison.Sites (Run.CutAt (levels + 1) limit) (fun _ => True)
          (.ofSection _ deeper inverted e body source c)
          (.ofSection _ deeper' inverted e body source c) :=
        { tag := rfl
          scope := rfl
          body := hbody
          inner := fun c => (hdeeper body c).framed .body
          expand := fun c _ => (hdeeper _ c).framed .template }
      exact cutAt_render hpropagates hsites e true

theorem cutAt_renderNodesOn (hpropagates : setting.host.Propagates)
    (hdeeper : ∀ nodes c, Run.CutAt levels limit (deeper nodes c) (deeper' nodes c))
    (nodes : List Node) (c : ScopeChain κ) :
    Run.CutAt (levels + 1) limit
      (renderNodesOn { setting with maxDepth := limit } deeper nodes c)
      (renderNodesOn { setting with maxDepth := limit' } deeper' nodes c) := by
  have hcomparison := Run.cutAt_comparison (κ := κ) levels limit
  cases nodes with
  | nil =>
      rw [renderNodesOn, renderNodesOn]
      exact hcomparison.ofExcept (.ok "")
  | cons node rest =>
      rw [renderNodesOn, renderNodesOn]
      exact hcomparison.join (node.cutAt_renderOn hpropagates hdeeper c)
        (cutAt_renderNodesOn hpropagates hdeeper rest c)

end

end Trees

theorem cutAt_renderLevels {setting : Setting κ} (hpropagates : setting.host.Propagates)
    {limit limit' levels levels' : Nat} (hle : levels ≤ levels') (nodes : List Node)
    (c : ScopeChain κ) :
    Run.CutAt levels limit (renderLevels { setting with maxDepth := limit } levels nodes c)
      (renderLevels { setting with maxDepth := limit' } levels' nodes c) := by
  induction levels' generalizing levels nodes c with
  | zero =>
      obtain rfl := Nat.le_zero.1 hle
      apply Run.CutAt.of_nests (Step.nests_events [])
      · intro hbelow
        exact absurd hbelow (Nat.lt_irrefl 0)
      · intro _
        rfl
  | succ levels' ih =>
      cases levels with
      | zero =>
          have hcut : Run.CutAt 1 limit _
              (renderLevels { setting with maxDepth := limit' } (levels' + 1) nodes c) :=
            cutAt_renderNodesOn hpropagates (fun nodes c => ih (Nat.zero_le levels') nodes c)
              nodes c
          refine ⟨hcut.nests, ?_, ?_⟩
          · intro hbelow
            exact absurd hbelow (Nat.not_lt_zero _)
          · intro _
            rfl
      | succ levels =>
          have hlevels : levels ≤ levels' := Nat.le_of_succ_le_succ hle
          exact cutAt_renderNodesOn hpropagates (fun nodes c => ih hlevels nodes c) nodes c

/-- A limit that a render does not run into might as well be larger.  A render that
succeeds with some limit succeeds with exactly those that allow for the frames it has
open at once, and with any other it runs into the limit. -/
theorem renderTree_maxDepth (setting : Setting κ) (hpropagates : setting.host.Propagates)
    (nodes : List Node) (scope : ScopeChain κ) :
    let run := fun depth => renderTree { setting with maxDepth := depth } nodes scope
    (∀ depth depth', depth ≤ depth' →
      (run depth).result ≠ .error (.recursionLimit depth) → run depth' = run depth) ∧
    ∀ depth text, (run depth).result = .ok text → ∀ depth',
      ((∃ text', (run depth').result = .ok text') ↔ (run depth).maxOpen ≤ depth') ∧
      (depth' < (run depth).maxOpen →
        (run depth').result = .error (.recursionLimit depth')) := by
  intro run
  have hcut : ∀ {depth depth' : Nat}, depth ≤ depth' →
      Run.CutAt (depth + 1) depth (run depth) (run depth') :=
    fun hle => cutAt_renderLevels hpropagates (Nat.succ_le_succ hle) nodes scope
  have hsame : ∀ depth depth', depth ≤ depth' →
      (run depth).result ≠ .error (.recursionLimit depth) → run depth' = run depth := by
    intro depth depth' hle hlimit
    by_cases hbelow : (run depth').maxOpen < depth + 1
    · exact ((hcut hle).below hbelow).symm
    · exact absurd ((hcut hle).beyond (Nat.le_of_not_lt hbelow)) hlimit
  refine ⟨hsame, ?_⟩
  intro depth text htext depth'
  have hopen : (run depth).maxOpen ≤ depth := by
    apply Nat.le_of_not_lt
    intro hbeyond
    have hlimit := (hcut (Nat.le_refl depth)).beyond hbeyond
    rw [htext] at hlimit
    exact nomatch hlimit
  have hbeyond : depth' < (run depth).maxOpen →
      (run depth').result = .error (.recursionLimit depth') := by
    intro hsmall
    have hdepth : depth' ≤ depth := by omega
    exact (hcut hdepth).beyond hsmall
  refine ⟨⟨?_, ?_⟩, hbeyond⟩
  · rintro ⟨text', htext'⟩
    apply Nat.le_of_not_lt
    intro hsmall
    rw [hbeyond hsmall] at htext'
    exact nomatch htext'
  · intro hle
    rcases Nat.le_total depth depth' with hdepth | hdepth
    · have hlimit : (run depth).result ≠ .error (.recursionLimit depth) := by
        rw [htext]
        exact nofun
      exact ⟨text, by rw [hsame depth depth' hdepth hlimit, htext]⟩
    · exact ⟨text, by rw [(hcut hdepth).below (by omega), htext]⟩

/-- Two frames inside each other, a section that its override expands around a partial,
and a partial after them that does not add to their number. -/
theorem renderTree_maxDepth_two :
    let setting : Setting Unit := ⟨bodyHost, .html, 256, some fun _ => .ok [.text "x"]⟩
    let nodes : List Node := [.sectionTag false .implicit [.partialTag "p"] "", .partialTag "p"]
    let scope := ScopeChain.empty.withScope { override := some (.host ()) }
    let run := fun depth => renderTree { setting with maxDepth := depth } nodes scope
    bodyHost.Propagates ∧
      (run 2).result = .ok "xx" ∧ (run 2).maxOpen = 2 ∧
      run 256 = run 2 ∧ (run 1).result = .error (.recursionLimit 1) := by
  intro setting nodes scope run
  have hpropagates : bodyHost.Propagates := fun _ _ => ⟨fun _ => rfl, fun _ => trivial⟩
  have htext : (run 2).result = .ok "xx" := rfl
  have hopen : (run 2).maxOpen = 2 := by decide +kernel
  obtain ⟨hsame, hexact⟩ := renderTree_maxDepth setting hpropagates nodes scope
  have hlimit : (run 2).result ≠ .error (.recursionLimit 2) := by
    rw [htext]
    exact nofun
  have hsmall : 1 < (run 2).maxOpen := by
    rw [hopen]
    decide
  have hbeyond := (hexact 2 "xx" htext 1).2 hsmall
  exact ⟨hpropagates, htext, hopen, hsame 2 256 (by decide) hlimit, hbeyond⟩

end Mustache
