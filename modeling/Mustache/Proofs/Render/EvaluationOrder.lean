import Mustache.Render.Evaluate

/-!
# The order of calls

The calls of an expression are made in post-order: those of the function, then those of the
argument, then the call itself.  Evaluation tries them one after the other, each with the
values of its two sides, and ends at the first one that fails.  That a function is not
callable counts as a failure of its call, so it is found out after the argument has been
evaluated.

Without calls there is nothing to fail.  The head of a path is looked up in the chain once,
and each key is looked up in what was found so far.
-/

namespace Mustache

variable {κ : Type}

/-! ## Calls -/

structure CallSite where
  filter : Expr
  argument : Expr

/-- The calls in an expression, in post-order. -/
def Expr.calls : Expr → List CallSite
  | .implicit | .name _ => []
  | .member base _ => base.calls
  | .call f a => f.calls ++ (a.calls ++ [⟨f, a⟩])

/-- A call, the two sides of which have been evaluated. -/
structure Attempt (κ : Type) where
  site : CallSite
  function : Value κ
  argument : Value κ

namespace Attempt

/-- What the call does.  Only a function that is a filter is called at all. -/
def run (host : Host κ) (x : Attempt κ) : Run κ (Value κ) :=
  match x.function.filter with
  | some filter => filter.call host x.argument
  | none => Run.fail (.filterNotCallable x.site.filter.text)

def outcome (host : Host κ) (x : Attempt κ) : Except RenderError (Value κ) :=
  (x.run host).result

/-- The filter that is invoked, if there is one. -/
def invocation (x : Attempt κ) : List (Event κ) :=
  (x.function.filter.map fun filter => .filter filter x.argument).toList

/-- The values of the call are those of its two sides. -/
structure Given (host : Host κ) (c : ScopeChain κ) (x : Attempt κ) : Prop where
  function : (x.site.filter.evaluate host c).result = .ok x.function
  argument : (x.site.argument.evaluate host c).result = .ok x.argument

def Succeeds (host : Host κ) (x : Attempt κ) : Prop :=
  ∃ v, x.outcome host = .ok v

theorem events_run (host : Host κ) (x : Attempt κ) : (x.run host).events = x.invocation := by
  unfold run invocation
  cases x.function.filter with
  | none => rfl
  | some filter =>
      simp only [Filter.call]
      rw [Run.events_bind_of_ok (a := ()) rfl, Run.events_ofExcept]
      rfl

theorem outcome_of_not_callable (host : Host κ) {x : Attempt κ}
    (h : x.function.filter = none) :
    x.outcome host = .error (.filterNotCallable x.site.filter.text) := by
  rw [outcome, run, h]
  rfl

end Attempt

/-! ## One call after the other -/

/-- The attempts are at the given calls, in order, and end at the first one that fails.  The
result is its error, or any success if none fails. -/
inductive Attempted {α : Type} (host : Host κ) :
    List CallSite → List (Attempt κ) → Except RenderError α → Prop where
  | done {a : α} : Attempted host [] [] (.ok a)
  | next {x : Attempt κ} {sites : List CallSite} {rest : List (Attempt κ)}
      {result : Except RenderError α} :
      x.Succeeds host → Attempted host sites rest result →
        Attempted host (x.site :: sites) (x :: rest) result
  | failed {x : Attempt κ} {sites : List CallSite} {err : RenderError} :
      x.outcome host = .error err → Attempted host (x.site :: sites) [x] (.error err)

namespace Attempted

variable {α β : Type} {host : Host κ} {sites later : List CallSite}
  {attempts others : List (Attempt κ)} {result : Except RenderError α}

theorem append {a : α} {answer : Except RenderError β}
    (h : Attempted host sites attempts (.ok a)) (hothers : Attempted host later others answer) :
    Attempted host (sites ++ later) (attempts ++ others) answer := by
  generalize hresult : Except.ok a = result at h
  induction h with
  | done => exact hothers
  | next hsucceeds _ ih => exact .next hsucceeds (ih hresult)
  | failed _ => exact nomatch hresult

theorem stop {err : RenderError} (h : Attempted host sites attempts (.error err : Except _ α))
    (later : List CallSite) :
    Attempted host (sites ++ later) attempts (.error err : Except _ β) := by
  generalize hresult : Except.error err = result at h
  induction h with
  | done => exact nomatch hresult
  | next hsucceeds _ ih => exact .next hsucceeds (ih hresult)
  | failed hfails =>
      obtain rfl := Except.error.inj hresult
      exact .failed hfails

theorem of_outcome (x : Attempt κ) : Attempted host [x.site] [x] (x.outcome host) := by
  cases houtcome : x.outcome host with
  | ok v => exact .next ⟨v, houtcome⟩ .done
  | error err => exact .failed houtcome

theorem map (f : α → β) (h : Attempted host sites attempts result) :
    Attempted host sites attempts (result.map f) := by
  induction h with
  | done => exact .done
  | next hsucceeds _ ih => exact .next hsucceeds ih
  | failed hfails => exact .failed hfails

theorem starts (h : Attempted host sites attempts result) :
    attempts.map (·.site) <+: sites := by
  induction h with
  | done => exact List.prefix_rfl
  | next _ _ ih => exact List.cons_prefix_cons.2 ⟨rfl, ih⟩
  | failed _ => exact List.cons_prefix_cons.2 ⟨rfl, List.nil_prefix⟩

theorem of_ok {a : α} (h : Attempted host sites attempts (.ok a)) :
    attempts.map (·.site) = sites ∧ ∀ x ∈ attempts, x.Succeeds host := by
  generalize hresult : Except.ok a = result at h
  induction h with
  | done => exact ⟨rfl, nofun⟩
  | next hsucceeds _ ih =>
      obtain ⟨hsites, hrest⟩ := ih hresult
      exact ⟨congrArg _ hsites, List.forall_mem_cons.2 ⟨hsucceeds, hrest⟩⟩
  | failed _ => exact nomatch hresult

theorem eq_error_iff (h : Attempted host sites attempts result) (err : RenderError) :
    result = .error err ↔ ∃ earlier last, attempts = earlier ++ [last] ∧
      (∀ x ∈ earlier, x.Succeeds host) ∧ last.outcome host = .error err := by
  induction h with
  | done => simp
  | @next x sites rest result hsucceeds _ ih =>
      rw [ih]
      constructor
      · rintro ⟨earlier, last, rfl, hearlier, hfails⟩
        exact ⟨x :: earlier, last, rfl, List.forall_mem_cons.2 ⟨hsucceeds, hearlier⟩, hfails⟩
      · rintro ⟨earlier, last, hsplit, hearlier, hfails⟩
        cases earlier with
        | nil =>
            obtain ⟨rfl, rfl⟩ := List.cons.inj hsplit
            obtain ⟨v, hv⟩ := hsucceeds
            exact nomatch hv.symm.trans hfails
        | cons first earlier =>
            obtain ⟨rfl, rfl⟩ := List.cons.inj hsplit
            exact ⟨earlier, last, rfl, (List.forall_mem_cons.1 hearlier).2, hfails⟩
  | @failed x sites err' hfails =>
      constructor
      · intro herr
        obtain rfl := Except.error.inj herr
        exact ⟨[], x, rfl, nofun, hfails⟩
      · rintro ⟨earlier, last, hsplit, -, hlast⟩
        obtain ⟨rfl, hsame⟩ : [] = earlier ∧ [x] = [last] := List.append_inj' hsplit rfl
        obtain rfl := List.singleton_inj.1 hsame
        rw [hfails] at hlast
        exact congrArg _ (Except.error.inj hlast)

end Attempted

/-! ## Evaluation -/

namespace Expr

variable (host : Host κ) (c : ScopeChain κ)

theorem evaluate_call (f a : Expr) :
    (Expr.call f a).evaluate host c = f.evaluate host c >>= fun function =>
      a.evaluate host c >>= fun argument => Attempt.run host ⟨⟨f, a⟩, function, argument⟩ :=
  rfl

/-- Evaluation tries the calls of the expression in post-order. -/
theorem exists_attempts (e : Expr) :
    ∃ attempts : List (Attempt κ), Attempted host e.calls attempts (e.evaluate host c).result ∧
      (∀ x ∈ attempts, x.Given host c) ∧
      (e.evaluate host c).events = attempts.flatMap Attempt.invocation := by
  induction e with
  | implicit => exact ⟨[], .done, nofun, rfl⟩
  | name id => exact ⟨[], .done, nofun, rfl⟩
  | member base key ih =>
      obtain ⟨attempts, hattempted, hgiven, hevents⟩ := ih
      refine ⟨attempts, ?_, hgiven, ?_⟩
      · rw [evaluate, ← map_eq_pure_bind, Run.result_map]
        exact hattempted.map _
      · rw [evaluate, ← map_eq_pure_bind, Run.events_map, hevents]
  | call f a hf ha =>
      obtain ⟨attempts, hattempted, hgiven, hevents⟩ := hf
      rw [evaluate_call, calls]
      cases hfunction : (f.evaluate host c).result with
      | error err =>
          rw [hfunction] at hattempted
          refine ⟨attempts, ?_, hgiven, ?_⟩
          · rw [Run.result_bind_of_error hfunction]
            exact hattempted.stop _
          · rw [Run.events_bind_of_error hfunction, hevents]
      | ok function =>
          rw [hfunction] at hattempted
          obtain ⟨others, hattempted', hgiven', hevents'⟩ := ha
          cases hargument : (a.evaluate host c).result with
          | error err =>
              rw [hargument] at hattempted'
              refine ⟨attempts ++ others, ?_, List.forall_mem_append.2 ⟨hgiven, hgiven'⟩, ?_⟩
              · rw [Run.result_bind_of_ok hfunction, Run.result_bind_of_error hargument]
                exact hattempted.append (hattempted'.stop _)
              · rw [Run.events_bind_of_ok hfunction, Run.events_bind_of_error hargument, hevents,
                  hevents', List.flatMap_append]
          | ok argument =>
              rw [hargument] at hattempted'
              let x : Attempt κ := ⟨⟨f, a⟩, function, argument⟩
              have hx : x.Given host c := ⟨hfunction, hargument⟩
              refine ⟨attempts ++ (others ++ [x]), ?_, ?_, ?_⟩
              · rw [Run.result_bind_of_ok hfunction, Run.result_bind_of_ok hargument]
                exact hattempted.append (hattempted'.append (.of_outcome x))
              · exact List.forall_mem_append.2 ⟨hgiven, List.forall_mem_append.2
                  ⟨hgiven', List.forall_mem_singleton.2 hx⟩⟩
              · rw [Run.events_bind_of_ok hfunction, Run.events_bind_of_ok hargument, hevents,
                  hevents', Attempt.events_run, List.flatMap_append, List.flatMap_append,
                  List.flatMap_singleton]

end Expr

/-! ## Paths -/

/-- What the value has under the key, or nothing. -/
def Value.member (v : Value κ) (key : String) : Value κ :=
  (v.lookup key).getD .empty

theorem Value.foldl_member_empty (keys : List String) :
    keys.foldl Value.member (Value.empty : Value κ) = .empty := by
  induction keys with
  | nil => rfl
  | cons key keys ih => exact ih

theorem Value.foldl_member_of_missing {keys before after : List String} {key : String}
    {start : Value κ} (hkeys : keys = before ++ key :: after)
    (hmissing : (before.foldl Value.member start).lookup key = none) :
    keys.foldl Value.member start = .empty := by
  have hstep : (before.foldl Value.member start).member key = .empty := by
    rw [member, hmissing]
    rfl
  rw [hkeys, List.foldl_append, List.foldl_cons, hstep, foldl_member_empty]

/-- The heads of paths, and what they are in a chain. -/
inductive Expr.Head (c : ScopeChain κ) : Expr → Value κ → Prop where
  | implicit : Head c .implicit c.top
  | name {id : String} : Head c (.name id) (c.resolve id)

theorem Expr.exists_path {e : Expr} (h : e.calls = []) (host : Host κ) (c : ScopeChain κ) :
    ∃ (head : Expr) (start : Value κ) (keys : List String),
      Expr.Head c head start ∧ e = keys.foldl .member head ∧
      e.evaluate host c = pure (keys.foldl Value.member start) := by
  induction e with
  | implicit => exact ⟨_, _, [], .implicit, rfl, rfl⟩
  | name id => exact ⟨_, _, [], .name, rfl, rfl⟩
  | call f a => simp [calls] at h
  | member base key ih =>
      obtain ⟨head, start, keys, hhead, rfl, hvalue⟩ := ih h
      refine ⟨head, start, keys ++ [key], hhead, ?_, ?_⟩
      · rw [List.foldl_append]
        rfl
      · rw [evaluate, hvalue, pure_bind, List.foldl_append]
        rfl

/-- Evaluation tries the calls of an expression in post-order, each with the values of its two
sides, and up to the first one that fails.  Its error is that of the expression, which has no
other.  What is not callable fails by the name it is written with, if its argument does not
fail before.  Without calls an expression cannot fail: its head is looked up in the chain, and
then one key after the other in what was found; if one is missing the value is empty. -/
theorem evaluate_in_order (host : Host κ) (c : ScopeChain κ) (e : Expr) :
    (∃ attempts : List (Attempt κ),
      attempts.map (·.site) <+: e.calls ∧ (∀ x ∈ attempts, x.Given host c) ∧
      (e.evaluate host c).events = attempts.flatMap Attempt.invocation ∧
      (∀ v, (e.evaluate host c).result = .ok v →
        attempts.map (·.site) = e.calls ∧ ∀ x ∈ attempts, x.Succeeds host) ∧
      ∀ err, (e.evaluate host c).result = .error err ↔
        ∃ earlier last, attempts = earlier ++ [last] ∧
          (∀ x ∈ earlier, x.Succeeds host) ∧ last.outcome host = .error err) ∧
    (∀ (f a : Expr) (function : Value κ), e = .call f a →
      (f.evaluate host c).result = .ok function → function.filter = none →
        (∀ v, (a.evaluate host c).result = .ok v →
          (e.evaluate host c).result = .error (.filterNotCallable f.text)) ∧
        ∀ err, (a.evaluate host c).result = .error err →
          (e.evaluate host c).result = .error err) ∧
    (e.calls = [] → ∃ (head : Expr) (start : Value κ) (keys : List String),
      Expr.Head c head start ∧ e = keys.foldl .member head ∧
      e.evaluate host c = pure (keys.foldl Value.member start) ∧
      ∀ before key after, keys = before ++ key :: after →
        (before.foldl Value.member start).lookup key = none →
          e.evaluate host c = pure .empty) := by
  refine ⟨?order, ?notCallable, ?path⟩
  case order =>
    obtain ⟨attempts, hattempted, hgiven, hevents⟩ := e.exists_attempts host c
    refine ⟨attempts, hattempted.starts, hgiven, hevents, ?_, hattempted.eq_error_iff⟩
    intro v hv
    rw [hv] at hattempted
    exact hattempted.of_ok
  case notCallable =>
    rintro f a function rfl hfunction hfilter
    rw [Expr.evaluate_call, Run.result_bind_of_ok hfunction]
    refine ⟨?_, ?_⟩
    · intro v hv
      rw [Run.result_bind_of_ok hv]
      exact Attempt.outcome_of_not_callable host hfilter
    · intro err herr
      rw [Run.result_bind_of_error herr]
  case path =>
    intro hcalls
    obtain ⟨head, start, keys, hhead, hpath, hvalue⟩ := Expr.exists_path hcalls host c
    refine ⟨head, start, keys, hhead, hpath, hvalue, ?_⟩
    intro before key after hkeys hmissing
    rw [hvalue, Value.foldl_member_of_missing hkeys hmissing]

/-- What is not callable, around calls that succeed and around one that fails; and a path with
a key that is missing. -/
theorem evaluate_in_order_nested :
    let host : Host Bool :=
      ⟨fun fails v => if fails then .error (.customFailure "no") else .ok v, fun _ _ v => v,
        fun _ _ => .done (.ok default)⟩
    let c : ScopeChain Bool := ScopeChain.empty.withScope (.ofEntries
      [("f", { filter := some (.host false) }), ("g", { filter := some (.host true) }),
        ("x", .ofString "s")])
    let inner : Expr := .call (.name "f") (.name "x")
    let failing : Expr := .call (.name "x") (.call (.name "f") (.call (.name "g") (.name "x")))
    let path : Expr := .member (.member (.name "x") "y") "length"
    (failing.evaluate host c).result = .error (.customFailure "no") ∧
      (∃ attempts : List (Attempt Bool),
        (failing.evaluate host c).events = attempts.flatMap Attempt.invocation ∧
        attempts.map (·.site) <+: failing.calls ∧
        ∃ earlier last, attempts = earlier ++ [last] ∧ (∀ x ∈ earlier, x.Succeeds host) ∧
          last.outcome host = .error (.customFailure "no")) ∧
      (inner.evaluate host c).result = .ok (.ofString "s") ∧
      ((Expr.call (.name "x") inner).evaluate host c).result = .error (.filterNotCallable "x") ∧
      path.calls = [] ∧ ∃ (head : Expr) (start : Value Bool) (keys : List String),
        Expr.Head c head start ∧ path = keys.foldl .member head ∧
        path.evaluate host c = pure (keys.foldl Value.member start) := by
  intro host c inner failing path
  have hfailing : (failing.evaluate host c).result = .error (.customFailure "no") := rfl
  have hinner : (inner.evaluate host c).result = .ok (.ofString "s") := rfl
  obtain ⟨⟨attempts, hstarts, -, hevents, -, hfails⟩, -, -⟩ := evaluate_in_order host c failing
  have hnotCallable := ((evaluate_in_order host c (.call (.name "x") inner)).2.1 (.name "x") inner
    (.ofString "s") rfl rfl rfl).1 _ hinner
  obtain ⟨head, start, keys, hhead, hpath, hvalue, -⟩ := (evaluate_in_order host c path).2.2 rfl
  exact ⟨hfailing, ⟨attempts, hevents, hstarts, (hfails _).1 hfailing⟩, hinner, hnotCallable, rfl,
    head, start, keys, hhead, hpath, hvalue⟩

end Mustache
