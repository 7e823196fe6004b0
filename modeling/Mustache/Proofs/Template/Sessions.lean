import Mustache.Proofs.Template.Cache

/-!
# Sessions with a repository

A session puts one operation after the other to a repository and holds on to the templates
that it gets.  The same operations can be put to a repository that keeps nothing, where a
name stands for the source that was registered last, or else for a file, and is compiled
anew each time.  All its answers come from the compiler, the files and the renderer, and
from nothing that the other repository does.  The answers are the same: what each operation
does to the two is compared once, and the rest is induction on the operations.
-/

namespace Mustache

/-- A repository that keeps nothing of what it has compiled. -/
structure Uncached where
  loader : Option Loader
  /-- All registrations, the last one first. -/
  registered : List (String × String) := []

namespace Uncached

def register (u : Uncached) (name source : String) : Uncached :=
  { u with registered := (name, source) :: u.registered }

def source (u : Uncached) (w : Workspace) (name : String) : Except TemplateError String :=
  match u.registered.lookup name, u.loader with
  | some s, _ => .ok s
  | none, some l => l.load w name
  | none, none => .error (.notFound name)

def compiled (u : Uncached) (w : Workspace) (name : String) : Except TemplateError Compiled := do
  (compile (← u.source w name)).mapError .compile

/-- The tree of a partial.  Only a name that stands for nothing is not found. -/
def resolve (u : Uncached) (w : Workspace) (name : String) : Except RenderError (List Node) :=
  match u.compiled w name with
  | .ok compiled => .ok compiled.nodes
  | .error (.notFound _) => .error (.partialNotFound name)
  | .error e => .error (.invalidPartial name e.message)

def names (u : Uncached) (w : Workspace) : List String :=
  let discovered := (u.loader.map (·.discover w)).getD []
  (u.registered.map (·.1) ++ discovered).eraseDups.mergeSort

/-- One entry for each name, with an error if the name does not compile. -/
def check (u : Uncached) (w : Workspace) : List (String × Option TemplateError) :=
  (u.names w).map fun name =>
    match u.compiled w name with
    | .ok _ => (name, none)
    | .error e => (name, some e)

variable {κ : Type}

/-- A new template: the compiled tree, the content type of its last pragma or else of the
configuration, and the standard library. -/
def wrap (config : Config) (compiled : Compiled) : Template κ where
  nodes := compiled.nodes
  config :=
    { contentType := compiled.contentType.getD config.contentType
      maxDepth := config.maxDepth }
  base := .standard

def template (u : Uncached) (w : Workspace) (config : Config) (name : String) :
    Except TemplateError (Template κ) :=
  (u.compiled w name).map (wrap config)

def templateOfSource (config : Config) (source : String) : Except TemplateError (Template κ) :=
  match compile source with
  | .ok compiled => .ok (wrap config compiled)
  | .error e => .error (.compile e)

/-- What a template renders to with the partials of this moment. -/
def render (u : Uncached) (w : Workspace) (host : Host κ) (t : Template κ) (data : Value κ) :
    Run κ String :=
  renderTree
    { host
      contentType := t.config.contentType
      maxDepth := t.config.maxDepth
      partials := some (u.resolve w) }
    t.nodes (t.base.extended data)

theorem template_eq (u : Uncached) (w : Workspace) (config : Config) (name : String) :
    (u.compiled w name).map (Template.ofCompiled (κ := κ) · config) =
      u.template w config name := rfl

theorem templateOfSource_eq (config : Config) (source : String) :
    Repository.templateOfSource (κ := κ) config source = templateOfSource config source := by
  rw [Repository.templateOfSource, Template.ofSource, templateOfSource]
  cases compile source with
  | ok compiled => rfl
  | error e => rfl

theorem names_check (u : Uncached) (w : Workspace) : (u.check w).map (·.1) = u.names w := by
  rw [check, List.map_map]
  apply List.map_id''
  intro name
  simp only [Function.comp_apply]
  cases u.compiled w name with
  | ok compiled => rfl
  | error e => rfl

theorem check_entry {u : Uncached} {w : Workspace} {name : String}
    {fault : Option TemplateError} (hentry : (name, fault) ∈ u.check w) (e : TemplateError) :
    fault = some e ↔ u.compiled w name = .error e := by
  obtain ⟨name', _, heq⟩ := List.mem_map.1 hentry
  cases hcompiled : u.compiled w name' with
  | ok compiled =>
      simp only [hcompiled] at heq
      obtain ⟨rfl, rfl⟩ := Prod.mk.inj heq
      simp [hcompiled]
  | error e' =>
      simp only [hcompiled] at heq
      obtain ⟨rfl, rfl⟩ := Prod.mk.inj heq
      simp [hcompiled]

end Uncached

theorem exists_error_of_toOption_isNone {ε α : Type} {x : Except ε α}
    (h : x.toOption.isNone = true) : ∃ e, x = .error e := by
  cases x with
  | error e => exact ⟨e, rfl⟩
  | ok a => cases h

theorem exists_ok_of_toOption_isSome {ε α : Type} {x : Except ε α}
    (h : x.toOption.isSome = true) : ∃ a, x = .ok a := by
  cases x with
  | error e => cases h
  | ok a => exact ⟨a, rfl⟩

/-! ## Operations -/

/-- What can be asked of a repository, through any handle of it, and of the templates that
it has given.  The handle's configuration is part of what it asks for; templates are known
by their places in the order in which they were given. -/
inductive Operation (κ : Type) where
  | register (name source : String)
  | template (config : Config) (name : String)
  | templateOfSource (config : Config) (source : String)
  | compiled (name : String)
  | resolve (name : String)
  | names
  | check
  | extendBase (held : Nat) (v : Value κ)
  | registerHook (held : Nat) (v : Value κ)
  | render (held : Nat) (host : Host κ) (data : Value κ)

inductive Answer (κ : Type) where
  | done
  | template (found : Except TemplateError (Template κ))
  | compiled (found : Except TemplateError Compiled)
  | resolved (found : Except RenderError (List Node))
  | names (names : List String)
  | checked (report : List (String × Option TemplateError))
  | rendered (outcome : Run κ String)

/-- Whether something could not be found, loaded or compiled. -/
def Answer.fails {κ : Type} : Answer κ → Bool
  | .template (.error _) | .compiled (.error _) | .resolved (.error _) => true
  | _ => false

def Operation.registration? {κ : Type} : Operation κ → Option (String × String)
  | .register name source => some (name, source)
  | _ => none

structure Session (σ κ : Type) where
  store : σ
  /-- The templates that the session holds, in the order in which it got them. -/
  held : List (Template κ) := []

namespace Session

variable {σ κ : Type}

/-- Holds on to a template that was found. -/
def hold (s : Session σ κ) (found : Except TemplateError (Template κ)) (store : σ) :
    Answer κ × Session σ κ :=
  (.template found, { store, held := s.held ++ found.toOption.toList })

def step (w : Workspace) (s : Session Repository κ) :
    Operation κ → Answer κ × Session Repository κ
  | .register name source => (.done, { s with store := s.store.register name source })
  | .template config name =>
      let (found, r) := s.store.template w config name
      s.hold found r
  | .templateOfSource config source =>
      s.hold (Repository.templateOfSource config source) s.store
  | .compiled name =>
      let (found, r) := s.store.fetch w name
      (.compiled found, { s with store := r })
  | .resolve name =>
      let (found, r) := s.store.fetchPartial w name
      (.resolved found, { s with store := r })
  | .names => (.names (s.store.names w), s)
  | .check =>
      let (report, r) := s.store.check w
      (.checked report, { s with store := r })
  | .extendBase h v => (.done, { s with held := s.held.modify h (·.extendBase v) })
  | .registerHook h v => (.done, { s with held := s.held.modify h (·.registerHook v) })
  | .render h host data =>
      match s.held[h]? with
      | none => (.done, s)
      | some t =>
          let (outcome, r) := s.store.render w host t data
          (.rendered outcome, { s with store := r })

def stepUncached (w : Workspace) (s : Session Uncached κ) :
    Operation κ → Answer κ × Session Uncached κ
  | .register name source => (.done, { s with store := s.store.register name source })
  | .template config name => s.hold (s.store.template w config name) s.store
  | .templateOfSource config source => s.hold (Uncached.templateOfSource config source) s.store
  | .compiled name => (.compiled (s.store.compiled w name), s)
  | .resolve name => (.resolved (s.store.resolve w name), s)
  | .names => (.names (s.store.names w), s)
  | .check => (.checked (s.store.check w), s)
  | .extendBase h v => (.done, { s with held := s.held.modify h (·.extendBase v) })
  | .registerHook h v => (.done, { s with held := s.held.modify h (·.registerHook v) })
  | .render h host data =>
      match s.held[h]? with
      | none => (.done, s)
      | some t => (.rendered (s.store.render w host t data), s)

/-- Takes steps for all operations; the answers, and the session afterwards. -/
def run (next : Session σ κ → Operation κ → Answer κ × Session σ κ) (s : Session σ κ) :
    List (Operation κ) → List (Answer κ) × Session σ κ
  | [] => ([], s)
  | operation :: operations =>
      let (answer, s) := next s operation
      let (answers, s) := run next s operations
      (answer :: answers, s)

theorem run_append_snd (next : Session σ κ → Operation κ → Answer κ × Session σ κ)
    (s : Session σ κ) (earlier later : List (Operation κ)) :
    (s.run next (earlier ++ later)).2 = ((s.run next earlier).2.run next later).2 := by
  induction earlier generalizing s with
  | nil => rfl
  | cons operation earlier ih => exact ih (next s operation).2

end Session

section Steps

variable {κ : Type} {w : Workspace} (s : Session Repository κ)

theorem Session.step_template (config : Config) (name : String) :
    s.step w (.template config name) =
      s.hold ((s.store.find w name).map (.ofCompiled · config)) (s.store.fetch w name).2 := rfl

theorem Session.step_compiled (name : String) :
    s.step w (.compiled name) =
      (.compiled (s.store.find w name), { s with store := (s.store.fetch w name).2 }) := rfl

theorem Session.step_resolve (name : String) :
    s.step w (.resolve name) =
      (.resolved (s.store.resolve w name), { s with store := (s.store.fetch w name).2 }) := rfl

theorem Session.step_render {held : Nat} {t : Template κ} (ht : s.held[held]? = some t)
    (host : Host κ) (data : Value κ) :
    s.step w (.render held host data) =
      (.rendered (t.render host (some (s.store.resolve w)) data),
        { s with store := (s.store.render w host t data).2 }) := by
  simp only [step, ht]
  rfl

theorem Session.step_render_none {held : Nat} (hnone : s.held[held]? = none) (host : Host κ)
    (data : Value κ) : s.step w (.render held host data) = (.done, s) := by
  simp only [step, hnone]

end Steps

/-! ## Repositories with the same sources -/

/-- Both have the same sources, and what the one keeps is what the other would compile. -/
structure Uncached.Represents (u : Uncached) (w : Workspace) (r : Repository) : Prop where
  loader : r.loader = u.loader
  lookup (name : String) : r.sources.lookup name = u.registered.lookup name
  consistent : r.Consistent w

namespace Uncached.Represents

variable {u : Uncached} {w : Workspace} {r r' : Repository}

theorem start (loader : Option Loader) (w : Workspace) :
    Represents { loader } w { loader } where
  loader := rfl
  lookup _ := rfl
  consistent := nofun

theorem register (h : u.Represents w r) (name source : String) :
    (u.register name source).Represents w (r.register name source) where
  loader := h.loader
  lookup := by
    intro name'
    rw [Repository.register, Uncached.register, Entries.lookup_insert, Entries.lookup_cons,
      h.lookup]
  consistent := h.consistent.register name source

theorem asked (h : u.Represents w r) (hasked : r.Asked w r') : u.Represents w r' where
  loader := hasked.sameSources.loader.trans h.loader
  lookup name := by rw [hasked.sameSources.sources, h.lookup]
  consistent := hasked.consistent h.consistent

theorem fresh_eq (h : u.Represents w r) (name : String) :
    r.fresh w name = u.compiled w name := by
  rw [Repository.fresh, Repository.source, h.loader, h.lookup]
  rfl

theorem find_eq (h : u.Represents w r) (name : String) : r.find w name = u.compiled w name := by
  rw [h.consistent.find_eq, h.fresh_eq]

theorem resolve_eq (h : u.Represents w r) : r.resolve w = u.resolve w := by
  funext name
  rw [Repository.resolve, h.find_eq, Uncached.resolve]
  rfl

theorem mem_names (h : u.Represents w r) (name : String) :
    name ∈ r.names w ↔ name ∈ u.registered.map (·.1) ∨
      ∃ l, u.loader = some l ∧ name ∈ l.discover w := by
  have hkeys : ∀ entries : List (String × String),
      name ∈ entries.map (·.1) ↔ (entries.lookup name).isSome := by
    intro entries
    rw [List.lookup_isSome_iff, List.mem_map]
    simp only [beq_iff_eq]
    exact exists_congr fun entry => and_congr_right fun _ => eq_comm
  rw [Repository.mem_names, hkeys, hkeys, h.lookup, h.loader]

theorem names_eq (h : u.Represents w r) : r.names w = u.names w := by
  have hsorted : (u.names w).Pairwise (· < ·) := Repository.pairwise_mergeSort_eraseDups _
  apply Repository.eq_of_pairwise_lt (r.pairwise_names w) hsorted
  intro name
  rw [h.mem_names, Uncached.names, List.mem_mergeSort, List.mem_eraseDups, List.mem_append,
    Repository.mem_discover]

theorem check_eq (h : u.Represents w r) : (r.check w).1 = u.check w := by
  rw [h.consistent.check_eq, h.names_eq, Uncached.check]
  apply List.map_congr_left
  intro name _
  rw [h.fresh_eq]
  cases u.compiled w name with
  | ok compiled => rfl
  | error e => rfl

theorem render_eq {κ : Type} (h : u.Represents w r) (host : Host κ) (t : Template κ)
    (data : Value κ) : t.render host (some (r.resolve w)) data = u.render w host t data := by
  rw [h.resolve_eq]
  rfl

end Uncached.Represents

/-! ## Sessions with the same answers -/

namespace Session

variable {κ : Type} {w : Workspace}

structure Represents (u : Session Uncached κ) (w : Workspace) (s : Session Repository κ) :
    Prop where
  store : u.store.Represents w s.store
  held : s.held = u.held

theorem represents_hold {u : Session Uncached κ} {s : Session Repository κ}
    (h : u.Represents w s) (found : Except TemplateError (Template κ)) {r : Repository}
    (hstore : u.store.Represents w r) :
    (s.hold found r).1 = (u.hold found u.store).1 ∧
      (u.hold found u.store).2.Represents w (s.hold found r).2 :=
  ⟨rfl, hstore, congrArg (· ++ found.toOption.toList) h.held⟩

theorem represents_step {u : Session Uncached κ} {s : Session Repository κ}
    (h : u.Represents w s) (operation : Operation κ) :
    (s.step w operation).1 = (u.stepUncached w operation).1 ∧
      (u.stepUncached w operation).2.Represents w (s.step w operation).2 := by
  cases operation with
  | register name source => exact ⟨rfl, h.store.register name source, h.held⟩
  | template config name =>
      rw [step_template, h.store.find_eq, Uncached.template_eq]
      exact represents_hold h _ (h.store.asked (s.store.asked_fetch w name))
  | templateOfSource config source =>
      rw [step, Uncached.templateOfSource_eq]
      exact represents_hold h _ h.store
  | compiled name =>
      rw [step_compiled, h.store.find_eq]
      exact ⟨rfl, h.store.asked (s.store.asked_fetch w name), h.held⟩
  | resolve name =>
      rw [step_resolve, h.store.resolve_eq]
      exact ⟨rfl, h.store.asked (s.store.asked_fetch w name), h.held⟩
  | names => exact ⟨congrArg Answer.names h.store.names_eq, h⟩
  | check =>
      have hasked := s.store.asked_checkEach w (s.store.names w)
      exact ⟨congrArg Answer.checked h.store.check_eq, h.store.asked hasked, h.held⟩
  | extendBase held v => exact ⟨rfl, h.store, congrArg (List.modify · held _) h.held⟩
  | registerHook held v => exact ⟨rfl, h.store, congrArg (List.modify · held _) h.held⟩
  | render held host data =>
      cases ht : s.held[held]? with
      | none =>
          have hheld : u.held[held]? = none := by rw [← h.held, ht]
          rw [step_render_none s ht]
          simp only [stepUncached, hheld]
          exact ⟨trivial, h⟩
      | some t =>
          have hheld : u.held[held]? = some t := by rw [← h.held, ht]
          rw [step_render s ht, h.store.render_eq]
          simp only [stepUncached, hheld]
          exact ⟨trivial, h.store.asked (s.store.asked_fetchAll w _), h.held⟩

theorem represents_run {u : Session Uncached κ} {s : Session Repository κ}
    (h : u.Represents w s) (operations : List (Operation κ)) :
    (s.run (step w) operations).1 = (u.run (stepUncached w) operations).1 ∧
      (u.run (stepUncached w) operations).2.Represents w (s.run (step w) operations).2 := by
  induction operations generalizing u s with
  | nil => exact ⟨rfl, h⟩
  | cons operation operations ih =>
      obtain ⟨hanswer, hnext⟩ := represents_step h operation
      obtain ⟨hanswers, hlast⟩ := ih hnext
      exact ⟨List.cons_eq_cons.2 ⟨hanswer, hanswers⟩, hlast⟩

/-! ## What a session leaves as it was -/

theorem hold_error {σ : Type} (s : Session σ κ) (e : TemplateError) :
    (s.hold (.error e) s.store).2 = s := by
  rw [hold]
  exact congrArg (Session.mk s.store) (List.append_nil s.held)

/-- Nothing is kept and nothing is held if something is not found or does not compile. -/
theorem step_of_fails {s : Session Repository κ} {operation : Operation κ}
    (h : (s.step w operation).1.fails = true) : (s.step w operation).2 = s := by
  cases operation with
  | template config name =>
      rw [step_template] at h ⊢
      cases hfound : s.store.find w name with
      | error e =>
          rw [Repository.fetch_of_error hfound]
          exact s.hold_error e
      | ok compiled =>
          rw [hfound] at h
          cases h
  | templateOfSource config source =>
      rw [step] at h ⊢
      cases hfound : Repository.templateOfSource (κ := κ) config source with
      | error e => exact s.hold_error e
      | ok t =>
          rw [hfound] at h
          cases h
  | compiled name =>
      rw [step_compiled] at h ⊢
      cases hfound : s.store.find w name with
      | error e => rw [Repository.fetch_of_error hfound]
      | ok compiled =>
          rw [hfound] at h
          cases h
  | resolve name =>
      rw [step_resolve] at h ⊢
      cases hfound : s.store.find w name with
      | error e => rw [Repository.fetch_of_error hfound]
      | ok compiled =>
          rw [Repository.resolve, hfound] at h
          cases h
  | register | names | check | extendBase | registerHook => cases h
  | render held host data =>
      cases ht : s.held[held]? with
      | none => rw [step_render_none s ht]
      | some t =>
          rw [step_render s ht] at h
          cases h

theorem later_step (s : Session Repository κ) (operation : Operation κ) :
    s.store.Later (s.step w operation).2.store := by
  cases operation with
  | register name source => exact s.store.later_register name source
  | template config name => exact (s.store.asked_fetch w name).sameSources.later
  | compiled name => exact (s.store.asked_fetch w name).sameSources.later
  | resolve name => exact (s.store.asked_fetch w name).sameSources.later
  | check => exact (s.store.asked_checkEach w (s.store.names w)).sameSources.later
  | templateOfSource | names | extendBase | registerHook => exact .refl s.store
  | render held host data =>
      cases ht : s.held[held]? with
      | none =>
          rw [step_render_none s ht]
          exact .refl s.store
      | some t =>
          rw [step_render s ht]
          exact (s.store.asked_fetchAll w _).sameSources.later

theorem later_run (s : Session Repository κ) (operations : List (Operation κ)) :
    s.store.Later (s.run (step w) operations).2.store := by
  induction operations generalizing s with
  | nil => exact .refl s.store
  | cons operation operations ih => exact (s.later_step operation).trans (ih _)

/-- The templates are still held, with the trees that they had. -/
def Keeps (held held' : List (Template κ)) : Prop :=
  ∀ (h : Nat) (t : Template κ), held[h]? = some t →
    ∃ t', held'[h]? = some t' ∧ t'.nodes = t.nodes ∧ t'.config = t.config

theorem Keeps.refl (held : List (Template κ)) : Keeps held held :=
  fun _ t ht => ⟨t, ht, rfl, rfl⟩

theorem Keeps.trans {held held' held'' : List (Template κ)} (h : Keeps held held')
    (h' : Keeps held' held'') : Keeps held held'' := by
  intro i t ht
  obtain ⟨t', ht', hnodes, hconfig⟩ := h i t ht
  obtain ⟨t'', ht'', hnodes', hconfig'⟩ := h' i t' ht'
  exact ⟨t'', ht'', hnodes'.trans hnodes, hconfig'.trans hconfig⟩

theorem Keeps.append (held new : List (Template κ)) : Keeps held (held ++ new) := by
  intro i t ht
  obtain ⟨hlt, _⟩ := List.getElem?_eq_some_iff.1 ht
  exact ⟨t, by rw [List.getElem?_append_left hlt, ht], rfl, rfl⟩

theorem Keeps.modify (held : List (Template κ)) (changed : Nat)
    {f : Template κ → Template κ} (hf : ∀ t, (f t).nodes = t.nodes ∧ (f t).config = t.config) :
    Keeps held (held.modify changed f) := by
  intro i t ht
  rw [List.getElem?_modify, ht]
  by_cases hchanged : changed = i
  · exact ⟨f t, by simp [hchanged], hf t⟩
  · exact ⟨t, by simp [hchanged], rfl, rfl⟩

theorem keeps_step (s : Session Repository κ) (operation : Operation κ) :
    Keeps s.held (s.step w operation).2.held := by
  cases operation with
  | template | templateOfSource => exact .append s.held _
  | extendBase changed v => exact .modify s.held changed fun _ => ⟨rfl, rfl⟩
  | registerHook changed v => exact .modify s.held changed fun _ => ⟨rfl, rfl⟩
  | register | compiled | resolve | names | check => exact .refl s.held
  | render held host data =>
      cases ht : s.held[held]? with
      | none =>
          rw [step_render_none s ht]
          exact .refl s.held
      | some t =>
          rw [step_render s ht]
          exact .refl s.held

theorem keeps_run (s : Session Repository κ) (operations : List (Operation κ)) :
    Keeps s.held (s.run (step w) operations).2.held := by
  induction operations generalizing s with
  | nil => exact .refl s.held
  | cons operation operations ih => exact (s.keeps_step operation).trans (ih _)

theorem registered_step (u : Session Uncached κ) (operation : Operation κ) :
    (u.stepUncached w operation).2.store =
      { u.store with
        registered := operation.registration?.toList ++ u.store.registered } := by
  cases operation with
  | render held host data =>
      unfold stepUncached
      simp only
      split
      · rfl
      · rfl
  | _ => rfl

theorem registered_run (u : Session Uncached κ) (operations : List (Operation κ)) :
    (u.run (stepUncached w) operations).2.store =
      { u.store with
        registered :=
          (operations.filterMap Operation.registration?).reverse ++ u.store.registered } := by
  induction operations generalizing u with
  | nil => rfl
  | cons operation operations ih =>
      have hrest := ih (u.stepUncached w operation).2
      rw [registered_step] at hrest
      rw [Session.run, hrest, List.filterMap_cons]
      cases operation.registration? with
      | none => rfl
      | some registration => simp

theorem mem_registered {loader : Option Loader} {operations : List (Operation κ)}
    {name : String} :
    name ∈ (Session.run (stepUncached w) { store := { loader } } operations).2.store.registered.map
        (·.1) ↔
      ∃ source, Operation.register name source ∈ operations := by
  rw [registered_run, List.append_nil, List.map_reverse, List.mem_reverse, List.mem_map]
  constructor
  · rintro ⟨⟨_, source⟩, hmem, rfl⟩
    obtain ⟨operation, hoperation, hregistration⟩ := List.mem_filterMap.1 hmem
    cases operation with
    | register name' source' =>
        obtain ⟨rfl, rfl⟩ := Prod.mk.inj (Option.some.inj hregistration)
        exact ⟨_, hoperation⟩
    | _ => exact nomatch hregistration
  · rintro ⟨source, hoperation⟩
    exact ⟨(name, source), List.mem_filterMap.2 ⟨_, hoperation, rfl⟩, rfl⟩

/-- A repository answers as if it kept nothing. -/
theorem cache_transparent (loader : Option Loader) (w : Workspace)
    (operations : List (Operation κ)) :
    let start : Session Repository κ := { store := { loader } }
    let uncached := Session.run (stepUncached w) { store := { loader } } operations
    let s := (start.run (step w) operations).2
    let u := uncached.2.store
    (start.run (step w) operations).1 = uncached.1 ∧
      s.store.Consistent w ∧
      (s.store.names w).Pairwise (· < ·) ∧
      (∀ name, name ∈ s.store.names w ↔
        (∃ source, .register name source ∈ operations) ∨
          ∃ l, loader = some l ∧ name ∈ l.discover w) ∧
      (s.store.check w).1.map (·.1) = s.store.names w ∧
      (∀ name fault, (name, fault) ∈ (s.store.check w).1 →
        ∀ e, fault = some e ↔ u.compiled w name = .error e) ∧
      (∀ operation, (s.step w operation).1.fails = true → (s.step w operation).2 = s) ∧
      (∀ names, (s.store.fetchAll w names).resolve w = u.resolve w) ∧
      ∀ earlier later, operations = earlier ++ later →
        let before := (start.run (step w) earlier).2
        (∀ (held : Nat) (t : Template κ), before.held[held]? = some t →
          ∃ t', s.held[held]? = some t' ∧ t'.nodes = t.nodes ∧ t'.config = t.config ∧
            ∀ host data, (s.step w (.render held host data)).1 =
              .rendered (u.render w host t' data)) ∧
        ∀ name text generation compiled,
          before.store.lookup w name = .ok (.source text generation) →
            compile text = .ok compiled →
              (s.store.store name generation compiled).Consistent w := by
  intro start uncached s u
  have hstart : (Session.mk (κ := κ) (Uncached.mk loader []) []).Represents w start :=
    ⟨.start loader w, rfl⟩
  obtain ⟨hanswers, hlast⟩ := represents_run hstart operations
  have hstore : u.Represents w s.store := hlast.store
  refine ⟨hanswers, hstore.consistent, s.store.pairwise_names w, ?_, ?_, ?_, ?_, ?_, ?_⟩
  · intro name
    rw [hstore.mem_names, mem_registered, ← hstore.loader, (later_run start operations).loader]
  · rw [hstore.check_eq, hstore.names_eq, Uncached.names_check]
  · intro name fault hentry
    rw [hstore.check_eq] at hentry
    exact Uncached.check_entry hentry
  · intro operation hfails
    exact step_of_fails hfails
  · intro names
    rw [hstore.consistent.resolve_fetchAll, hstore.resolve_eq]
  · intro earlier later hoperations before
    have hs : s = (before.run (step w) later).2 := by
      simp only [s, hoperations, run_append_snd, before]
    constructor
    · intro held t ht
      obtain ⟨t', ht', hnodes, hconfig⟩ := keeps_run before later held t ht
      rw [← hs] at ht'
      refine ⟨t', ht', hnodes, hconfig, ?_⟩
      intro host data
      rw [step_render s ht', hstore.render_eq]
    · intro name text generation compiled hlookup hcompile
      have hlater : before.store.Later s.store := by
        rw [hs]
        exact later_run before later
      exact hlater.store hstore.consistent hlookup hcompile

/-- A template that is read from a file, kept, and only then shadowed by a registration,
another one from a text, a partial that does not compile for a while, and a name that does
not compile in the end. -/
theorem cache_transparent_shadowed_file :
    let host : Host Unit := ⟨fun _ v => .ok v, fun _ _ v => v, fun _ _ => .done (.ok default)⟩
    let loader : Option Loader := some ⟨"t", "mustache"⟩
    let w : Workspace :=
      { root := .directory
          [("t", .directory [("a.mustache", .file (.text "file {{>p}}"))])] }
    let earlier : List (Operation Unit) :=
      [.register "p" "one", .template {} "a", .render 0 host .empty]
    let later : List (Operation Unit) :=
      [.register "p" "\x7b\x7b#", .render 0 host .empty, .register "p" "two",
        .templateOfSource {} "text {{>p}}", .register "a" "registered {{>p}}",
        .render 0 host .empty, .render 1 host .empty, .template {} "a", .render 2 host .empty,
        .register "q" "\x7b\x7b#"]
    let texts : List (Answer Unit) → List (Option String) := List.filterMap fun
      | .rendered outcome => some outcome.result.toOption
      | _ => none
    let start : Session Repository Unit := { store := { loader } }
    let uncached := Session.run (stepUncached w) { store := { loader } } (earlier ++ later)
    let s := (start.run (step w) (earlier ++ later)).2
    texts (start.run (step w) (earlier ++ later)).1 =
        [some "file one", none, some "file two", some "text two", some "registered two"] ∧
      (start.run (step w) (earlier ++ later)).1 = uncached.1 ∧
      s.store.Consistent w ∧
      (s.step w (.compiled "q")).1.fails = true ∧ (s.step w (.compiled "q")).2 = s ∧
      (∃ e, ("q", some e) ∈ (s.store.check w).1) ∧
      (∃ t, ((start.run (step w) earlier).2.held)[0]? = some t ∧
        ∃ t', s.held[0]? = some t' ∧ t'.nodes = t.nodes) ∧
      ∃ compiled, start.store.lookup w "a" = .ok (.source "file {{>p}}" 0) ∧
        compile "file {{>p}}" = .ok compiled ∧ (s.store.store "a" 0 compiled).Consistent w := by
  intro host loader w earlier later texts start uncached s
  have htexts : texts (start.run (step w) (earlier ++ later)).1 =
      [some "file one", none, some "file two", some "text two", some "registered two"] := by
    decide +kernel
  have hfails : (s.step w (.compiled "q")).1.fails = true := by decide +kernel
  have hheld : (((start.run (step w) earlier).2.held)[0]?).isSome = true := by decide +kernel
  obtain ⟨t, ht⟩ := Option.isSome_iff_exists.1 hheld
  obtain ⟨hanswers, hconsistent, _, hnames, hchecked, hfaults, hunchanged, _, hmoments⟩ :=
    cache_transparent loader w (earlier ++ later)
  have hrefuses : (uncached.2.store.compiled w "q").toOption.isNone = true := by
    decide +kernel
  have hregistered : ∃ source, Operation.register "q" source ∈ earlier ++ later :=
    ⟨"\x7b\x7b#", by simp [earlier, later]⟩
  obtain ⟨t', ht', hnodes, _, _⟩ := (hmoments earlier later rfl).1 0 t ht
  have hlookup : start.store.lookup w "a" = .ok (.source "file {{>p}}" 0) := by rfl
  have hcompiles : (compile "file {{>p}}").toOption.isSome = true := by decide +kernel
  obtain ⟨compiled, hcompile⟩ := exists_ok_of_toOption_isSome hcompiles
  have hstored := (hmoments [] (earlier ++ later) rfl).2 "a" _ 0 compiled hlookup hcompile
  simp only [start, uncached, s] at htexts hfails hrefuses ⊢
  obtain ⟨e, he⟩ := exists_error_of_toOption_isNone hrefuses
  have hname := (hnames "q").2 (.inl hregistered)
  rw [← hchecked] at hname
  obtain ⟨⟨_, fault⟩, hentry, rfl⟩ := List.mem_map.1 hname
  have hfault := (hfaults "q" fault hentry e).2 he
  subst hfault
  exact ⟨htexts, hanswers, hconsistent, hfails, hunchanged _ hfails, ⟨e, hentry⟩,
    ⟨t, ht, t', ht', hnodes⟩, compiled, hlookup, hcompile, hstored⟩

end Session

end Mustache
