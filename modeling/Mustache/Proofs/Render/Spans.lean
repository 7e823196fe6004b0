import Mustache.Render.Engine

/-!
# Spans

A span is one piece of the log of a render together with its inner structure: a single
call of a capability, or a whole tag between the hooks of its scope chain.  The hooks of
a tag enclose each other like brackets.  The will function of the innermost one is the
first event and its did function the last one, and everything that concerns the hooks
further out stands in between.

A failed render leaves spans open at the end of its log.  When nothing catches the
failure, all that follows it are the did functions of the open spans.
-/

namespace Mustache

variable {κ : Type}

namespace Observer

def replace (host : Host κ) (tag : TagInfo) (o : Observer κ) (v : Value κ) : Value κ :=
  match o.will with
  | some h => host.will h tag v
  | none => v

def willEvents (tag : TagInfo) (o : Observer κ) (v : Value κ) : List (Event κ) :=
  match o.will with
  | some h => [.will h tag v]
  | none => []

def didEvents (tag : TagInfo) (o : Observer κ) (v : Value κ) (text : Option String) :
    List (Event κ) :=
  match o.did with
  | some h => [.did h tag v text]
  | none => []

end Observer

/-- The value that is rendered for a tag: each hook is given what the one before it
returned. -/
def finalCandidate (host : Host κ) (tag : TagInfo) (hooks : List (Observer κ))
    (candidate : Value κ) : Value κ :=
  hooks.foldl (fun v o => o.replace host tag v) candidate

/-- The events of a tag that renders the value `last` to `text`.  Each hook, from the
innermost one on, encloses those further out; `inside` happens in the middle. -/
def bracket (host : Host κ) (tag : TagInfo) (last : Value κ) (text : Option String)
    (inside : List (Event κ)) : List (Observer κ) → Value κ → List (Event κ)
  | [], _ => inside
  | o :: outer, v =>
      o.willEvents tag v ++ bracket host tag last text inside outer (o.replace host tag v) ++
        o.didEvents tag last text

/-! ## The two phases of the hooks -/

def opening (host : Host κ) (tag : TagInfo) : List (Observer κ) → Value κ → List (Event κ)
  | [], _ => []
  | o :: outer, v => o.willEvents tag v ++ opening host tag outer (o.replace host tag v)

def closing (tag : TagInfo) (hooks : List (Observer κ)) (last : Value κ)
    (text : Option String) : List (Event κ) :=
  hooks.reverse.flatMap fun o => o.didEvents tag last text

theorem closing_cons (tag : TagInfo) (o : Observer κ) (outer : List (Observer κ))
    (last : Value κ) (text : Option String) :
    closing tag (o :: outer) last text =
      closing tag outer last text ++ o.didEvents tag last text := by
  simp [closing]

theorem bracket_eq (host : Host κ) (tag : TagInfo) (last : Value κ) (text : Option String)
    (inside : List (Event κ)) (hooks : List (Observer κ)) (v : Value κ) :
    bracket host tag last text inside hooks v =
      opening host tag hooks v ++ inside ++ closing tag hooks last text := by
  induction hooks generalizing v with
  | nil => simp [bracket, opening, closing]
  | cons o outer ih =>
      rw [bracket, ih, opening, closing_cons]
      simp only [List.append_assoc]

theorem willPhase_eq (host : Host κ) (tag : TagInfo) (hooks : List (Observer κ))
    (v : Value κ) :
    willPhase host tag hooks v =
      (opening host tag hooks v, finalCandidate host tag hooks v) := by
  induction hooks generalizing v with
  | nil => rfl
  | cons o outer ih =>
      unfold willPhase opening finalCandidate
      rw [List.foldl_cons]
      cases hwill : o.will with
      | none =>
          simp only [Observer.willEvents, Observer.replace, hwill, List.nil_append]
          exact ih v
      | some h =>
          simp only [Observer.willEvents, Observer.replace, hwill, ih]
          rfl

theorem didPhase_eq (tag : TagInfo) (hooks : List (Observer κ)) (v : Value κ)
    (text : Option String) : didPhase tag hooks v text = closing tag hooks v text := by
  unfold didPhase closing
  induction hooks.reverse with
  | nil => rfl
  | cons o rest ih =>
      cases hdid : o.did with
      | none => simp [Observer.didEvents, hdid, ih]
      | some h => simp [Observer.didEvents, hdid, ih]

theorem result_observe (host : Host κ) (tag : TagInfo) (hooks : List (Observer κ))
    (candidate : Value κ) (render : Value κ → Run κ String) :
    (observe host tag hooks candidate render).result =
      (render (finalCandidate host tag hooks candidate)).result := by
  simp only [observe, willPhase_eq]

theorem events_observe (host : Host κ) (tag : TagInfo) (hooks : List (Observer κ))
    (candidate : Value κ) (render : Value κ → Run κ String) :
    (observe host tag hooks candidate render).events =
      let last := finalCandidate host tag hooks candidate
      bracket host tag last (render last).result.toOption (render last).events hooks
        candidate := by
  have hevents : ∀ events : List (Event κ),
      (events.map Step.event).filterMap Step.event? = events := by
    intro events
    rw [List.filterMap_map]
    exact List.filterMap_some
  simp only [observe, willPhase_eq, didPhase_eq, bracket_eq, Run.events_mk,
    List.filterMap_append, hevents]
  rfl

/-! ## Spans and their events -/

inductive Span (κ : Type) where
  | call (event : Event κ)
  /-- A tag, the hooks of its chain from the innermost one out, the value its expression
  has, what happens while the final candidate is rendered, and the text it contributes,
  if it has any. -/
  | tag (info : TagInfo) (hooks : List (Observer κ)) (candidate : Value κ)
      (inside : List (Span κ)) (text : Option String)

mutual

def Span.events (host : Host κ) : Span κ → List (Event κ)
  | .call e => [e]
  | .tag info hooks candidate inside text =>
      bracket host info (finalCandidate host info hooks candidate) text
        (spanEvents host inside) hooks candidate

def spanEvents (host : Host κ) : List (Span κ) → List (Event κ)
  | [] => []
  | s :: rest => s.events host ++ spanEvents host rest

end

theorem spanEvents_append (host : Host κ) (earlier later : List (Span κ)) :
    spanEvents host (earlier ++ later) = spanEvents host earlier ++ spanEvents host later := by
  induction earlier with
  | nil => rfl
  | cons s rest ih => simp only [List.cons_append, spanEvents, ih, List.append_assoc]

theorem spanEvents_singleton (host : Host κ) (s : Span κ) :
    spanEvents host [s] = s.events host := by
  simp only [spanEvents, List.append_nil]

theorem spanEvents_calls (host : Host κ) (events : List (Event κ)) :
    spanEvents host (events.map .call) = events := by
  induction events with
  | nil => rfl
  | cons e rest ih => simp only [List.map_cons, spanEvents, Span.events, ih, List.cons_append,
      List.nil_append]

/-! ## Calls of hooks -/

/-- Calls of filters and of render overrides, as opposed to those of hooks. -/
def Event.IsCall : Event κ → Prop
  | .filter _ _ | .override _ _ _ => True
  | .will _ _ _ | .did _ _ _ _ => False

/-- Hooks are called by the tags among the spans and by nothing else. -/
inductive Hookless : List (Span κ) → Prop where
  | nil : Hookless []
  | call {e : Event κ} {rest : List (Span κ)} :
      e.IsCall → Hookless rest → Hookless (.call e :: rest)
  | tag {info : TagInfo} {hooks : List (Observer κ)} {candidate : Value κ}
      {inside rest : List (Span κ)} {text : Option String} :
      Hookless inside → Hookless rest → Hookless (.tag info hooks candidate inside text :: rest)

theorem Hookless.append {earlier later : List (Span κ)} (hearlier : Hookless earlier)
    (hlater : Hookless later) : Hookless (earlier ++ later) := by
  induction hearlier with
  | nil => exact hlater
  | call he _ ih => exact .call he ih
  | tag hinside _ _ ih => exact .tag hinside ih

theorem hookless_calls {events : List (Event κ)} (h : ∀ e ∈ events, e.IsCall) :
    Hookless (events.map .call) := by
  induction events with
  | nil => exact .nil
  | cons e rest ih =>
      exact .call (h e List.mem_cons_self) (ih fun e' he' => h e' (List.mem_cons_of_mem e he'))

/-! ## Spans left open by a failure -/

/-- All tags in the spans, at any depth, have a text. -/
inductive Completed : List (Span κ) → Prop where
  | nil : Completed []
  | call {e : Event κ} {rest : List (Span κ)} :
      Completed rest → Completed (.call e :: rest)
  | tag {info : TagInfo} {hooks : List (Observer κ)} {candidate : Value κ}
      {inside rest : List (Span κ)} {text : String} :
      Completed inside → Completed rest →
        Completed (.tag info hooks candidate inside (some text) :: rest)

theorem Completed.append {earlier later : List (Span κ)} (hearlier : Completed earlier)
    (hlater : Completed later) : Completed (earlier ++ later) := by
  induction hearlier with
  | nil => exact hlater
  | call _ ih => exact .call ih
  | tag hinside _ _ ih => exact .tag hinside ih

theorem completed_calls (events : List (Event κ)) :
    Completed (events.map (Span.call (κ := κ))) := by
  induction events with
  | nil => exact .nil
  | cons e rest ih => exact .call ih

/-- A tag that is being rendered when something fails. -/
structure OpenTag (κ : Type) where
  info : TagInfo
  hooks : List (Observer κ)
  candidate : Value κ

/-- What is left to do for a tag without text. -/
def OpenTag.unwind (host : Host κ) (t : OpenTag κ) : List (Event κ) :=
  closing t.info t.hooks (finalCandidate host t.info t.hooks t.candidate) none

/-- The spans stop at a failure: up to it `before` happened, with every tag completed
but the ones in `opened`, innermost first, which enclose the failure. -/
inductive Interrupted (host : Host κ) :
    List (Span κ) → (before : List (Event κ)) → (opened : List (OpenTag κ)) → Prop where
  | here {spans : List (Span κ)} :
      Completed spans → Interrupted host spans (spanEvents host spans) []
  | inside {earlier inner : List (Span κ)} {info : TagInfo} {hooks : List (Observer κ)}
      {candidate : Value κ} {before : List (Event κ)} {opened : List (OpenTag κ)} :
      Completed earlier → Interrupted host inner before opened →
        Interrupted host (earlier ++ [.tag info hooks candidate inner none])
          (spanEvents host earlier ++ opening host info hooks candidate ++ before)
          (opened ++ [⟨info, hooks, candidate⟩])

theorem Interrupted.append_left {host : Host κ} {earlier spans : List (Span κ)}
    {before : List (Event κ)} {opened : List (OpenTag κ)} (hearlier : Completed earlier)
    (hspans : Interrupted host spans before opened) :
    Interrupted host (earlier ++ spans) (spanEvents host earlier ++ before) opened := by
  cases hspans with
  | here hcompleted =>
      rw [← spanEvents_append]
      exact .here (hearlier.append hcompleted)
  | inside hmiddle hinner =>
      rw [← List.append_assoc, ← List.append_assoc, ← List.append_assoc,
        ← spanEvents_append]
      exact .inside (hearlier.append hmiddle) hinner

/-- After the failure there are only the did functions of the open tags, from the
innermost tag out, and none of them is given a text. -/
theorem Interrupted.spanEvents_eq {host : Host κ} {spans : List (Span κ)}
    {before : List (Event κ)} {opened : List (OpenTag κ)}
    (h : Interrupted host spans before opened) :
    spanEvents host spans = before ++ opened.flatMap (OpenTag.unwind host) := by
  induction h with
  | here => simp
  | inside hearlier hinner ih =>
      simp only [spanEvents_append, spanEvents_singleton, Span.events, bracket_eq, ih,
        List.flatMap_append, List.flatMap_singleton, List.append_assoc]
      rfl

end Mustache
