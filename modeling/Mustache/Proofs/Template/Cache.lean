import Mustache.Template.Repository

/-!
# What a repository keeps

All that a repository keeps for a name is what the current source of that name compiles to.
Asking for templates preserves this, and so does registering a source, which drops what was
kept for its name.  It is also safe to keep what was compiled from a source that was looked
up long ago: unless the generation has changed since, the source is still the current one.
-/

namespace Mustache.Repository

variable {r r' r'' : Repository} {w : Workspace}

/-- What the current source of a name compiles to. -/
def fresh (r : Repository) (w : Workspace) (name : String) : Except TemplateError Compiled := do
  (compile (← r.source w name)).mapError .compile

theorem fresh_of_source {name text : String} (h : r.source w name = .ok text) :
    r.fresh w name = (compile text).mapError .compile := by
  rw [fresh, h]
  rfl

def Consistent (r : Repository) (w : Workspace) : Prop :=
  ∀ name compiled, r.cache.lookup name = some compiled → r.fresh w name = .ok compiled

theorem consistent_ofDirectory (root extension : String) (w : Workspace) :
    (ofDirectory root extension).Consistent w :=
  fun _ _ h => nomatch h

/-! ## Sources -/

/-- The repositories differ at most in what they keep. -/
structure SameSources (r r' : Repository) : Prop where
  loader : r'.loader = r.loader
  sources : r'.sources = r.sources
  generation : r'.generation = r.generation

namespace SameSources

theorem refl (r : Repository) : SameSources r r := ⟨rfl, rfl, rfl⟩

theorem trans (h : SameSources r r') (h' : SameSources r' r'') : SameSources r r'' :=
  ⟨h'.loader.trans h.loader, h'.sources.trans h.sources, h'.generation.trans h.generation⟩

theorem source_eq (h : SameSources r r') (name : String) : r'.source w name = r.source w name := by
  rw [source, source, h.loader, h.sources]

theorem fresh_eq (h : SameSources r r') (name : String) : r'.fresh w name = r.fresh w name := by
  rw [fresh, fresh, h.source_eq]

end SameSources

theorem sameSources_store (r : Repository) (name : String) (generation : Nat)
    (compiled : Compiled) : SameSources r (r.store name generation compiled) := by
  unfold store
  split
  · exact ⟨rfl, rfl, rfl⟩
  · exact .refl r

/-- The second repository has come from the first one by asking and registering. -/
structure Later (r r' : Repository) : Prop where
  loader : r'.loader = r.loader
  generation : r.generation ≤ r'.generation
  sources : r'.generation = r.generation → r'.sources = r.sources

namespace Later

theorem refl (r : Repository) : Later r r := ⟨rfl, Nat.le_refl _, fun _ => rfl⟩

theorem trans (h : Later r r') (h' : Later r' r'') : Later r r'' where
  loader := h'.loader.trans h.loader
  generation := Nat.le_trans h.generation h'.generation
  sources := by
    intro hsame
    have hle := h.generation
    have hle' := h'.generation
    rw [h'.sources (by omega), h.sources (by omega)]

end Later

theorem SameSources.later (h : SameSources r r') : Later r r' :=
  ⟨h.loader, Nat.le_of_eq h.generation.symm, fun _ => h.sources⟩

theorem later_register (r : Repository) (name source : String) :
    Later r (r.register name source) where
  loader := rfl
  generation := Nat.le_succ _
  sources hsame := absurd hsame (Nat.succ_ne_self _)

/-! ## Keeping and dropping -/

theorem Consistent.store {name : String} {generation : Nat} {compiled : Compiled}
    (h : r.Consistent w)
    (hcurrent : r.generation = generation → r.fresh w name = .ok compiled) :
    (r.store name generation compiled).Consistent w := by
  intro name' compiled' hkept
  rw [(r.sameSources_store name generation compiled).fresh_eq]
  unfold Repository.store at hkept
  split at hkept
  · next hgeneration =>
    rw [Entries.lookup_insert] at hkept
    by_cases hname : name' = name
    · rw [if_pos hname] at hkept
      rw [hname, hcurrent hgeneration, Option.some.inj hkept]
    · rw [if_neg hname] at hkept
      exact h name' compiled' hkept
  · exact h name' compiled' hkept

theorem Consistent.register (h : r.Consistent w) (name source : String) :
    (r.register name source).Consistent w := by
  intro name' compiled hkept
  have hkept : (r.cache.erase name).lookup name' = some compiled := hkept
  rw [Entries.lookup_erase] at hkept
  by_cases hname : name' = name
  · rw [if_pos hname] at hkept
    exact nomatch hkept
  · rw [if_neg hname] at hkept
    have hsource : (r.register name source).source w name' = r.source w name' := by
      simp only [Repository.source, Repository.register, Entries.lookup_insert, if_neg hname]
    rw [fresh, hsource]
    exact h name' compiled hkept

theorem lookup_of_kept {name : String} {compiled : Compiled}
    (h : r.cache.lookup name = some compiled) : r.lookup w name = .ok (.cached compiled) := by
  rw [lookup, h]

theorem lookup_of_not_kept {name : String} (h : r.cache.lookup name = none) :
    r.lookup w name = (r.source w name).map (.source · r.generation) := by
  rw [lookup, h]
  rfl

theorem lookup_eq_source {name text : String} {generation : Nat}
    (h : r.lookup w name = .ok (.source text generation)) :
    r.source w name = .ok text ∧ r.generation = generation := by
  cases hkept : r.cache.lookup name with
  | some compiled =>
      rw [lookup_of_kept hkept] at h
      exact nomatch h
  | none =>
      rw [lookup_of_not_kept hkept] at h
      cases hsource : r.source w name with
      | error e =>
          rw [hsource] at h
          exact nomatch h
      | ok found =>
          rw [hsource] at h
          obtain ⟨rfl, rfl⟩ := Lookup.source.inj (Except.ok.inj h)
          exact ⟨rfl, rfl⟩

/-- A source may be looked up, compiled and kept with anything happening in between. -/
theorem Later.store {name text : String} {generation : Nat} {compiled : Compiled}
    (hlater : Later r r') (h : r'.Consistent w)
    (hlookup : r.lookup w name = .ok (.source text generation))
    (hcompile : compile text = .ok compiled) :
    (r'.store name generation compiled).Consistent w := by
  obtain ⟨hsource, rfl⟩ := lookup_eq_source hlookup
  apply h.store
  intro hgeneration
  have hsource' : r'.source w name = .ok text := by
    rw [source, hlater.loader, hlater.sources hgeneration]
    exact hsource
  rw [fresh_of_source hsource', hcompile]
  rfl

/-! ## Asking -/

/-- The second repository has come from the first one by asking. -/
structure Asked (w : Workspace) (r r' : Repository) : Prop where
  sameSources : SameSources r r'
  consistent : r.Consistent w → r'.Consistent w

namespace Asked

theorem refl (r : Repository) : Asked w r r := ⟨.refl r, id⟩

theorem trans (h : Asked w r r') (h' : Asked w r' r'') : Asked w r r'' :=
  ⟨h.sameSources.trans h'.sameSources, fun hr => h'.consistent (h.consistent hr)⟩

end Asked

theorem asked_fetch (r : Repository) (w : Workspace) (name : String) :
    Asked w r (r.fetch w name).2 := by
  unfold fetch
  split
  · exact .refl r
  · exact .refl r
  · next text generation hlookup =>
    split
    · exact .refl r
    · next compiled hcompile =>
      exact ⟨sameSources_store .., fun h => (Later.refl r).store h hlookup hcompile⟩

theorem asked_fetchAll (r : Repository) (w : Workspace) (names : List String) :
    Asked w r (r.fetchAll w names) := by
  unfold fetchAll
  induction names generalizing r with
  | nil => exact .refl r
  | cons name names ih => exact (r.asked_fetch w name).trans (ih (r.fetch w name).2)

theorem asked_checkEach (r : Repository) (w : Workspace) (names : List String) :
    Asked w r (r.checkEach w names).2 := by
  induction names generalizing r with
  | nil => exact .refl r
  | cons name names ih => exact (r.asked_fetch w name).trans (ih (r.fetch w name).2)

theorem fetch_of_error {name : String} {e : TemplateError}
    (h : (r.fetch w name).1 = .error e) : (r.fetch w name).2 = r := by
  unfold fetch at h ⊢
  split
  · rfl
  · rfl
  · next text generation hlookup =>
    cases hcompile : compile text with
    | error e' => rfl
    | ok compiled =>
        simp only [hlookup, hcompile] at h
        exact nomatch h

/-! ## Answers -/

/-- What is kept does not show. -/
theorem Consistent.find_eq (h : r.Consistent w) (name : String) :
    r.find w name = r.fresh w name := by
  cases hkept : r.cache.lookup name with
  | some compiled =>
      rw [find, fetch, lookup_of_kept hkept]
      exact (h name compiled hkept).symm
  | none =>
      rw [find, fetch, lookup_of_not_kept hkept]
      cases hsource : r.source w name with
      | error e =>
          rw [fresh, hsource]
          rfl
      | ok text =>
          rw [fresh_of_source hsource]
          simp only [Except.map]
          cases compile text with
          | error e => rfl
          | ok compiled => rfl

theorem Consistent.checkEach_eq (h : r.Consistent w) (names : List String) :
    (r.checkEach w names).1 = names.map fun name => (name, faultOf (r.fresh w name)) := by
  induction names generalizing r with
  | nil => rfl
  | cons name names ih =>
      have hasked := r.asked_fetch w name
      have hfirst : (r.fetch w name).1 = r.fresh w name := h.find_eq name
      have hrest := ih (hasked.consistent h)
      simp only [hasked.sameSources.fresh_eq] at hrest
      rw [List.map_cons, ← hrest, ← hfirst]
      rfl

theorem Consistent.check_eq (h : r.Consistent w) :
    (r.check w).1 = (r.names w).map fun name => (name, faultOf (r.fresh w name)) :=
  h.checkEach_eq (r.names w)

/-- A render gets the same partials whether or not it has asked for some before. -/
theorem Consistent.resolve_fetchAll (h : r.Consistent w) (names : List String) :
    (r.fetchAll w names).resolve w = r.resolve w := by
  have hasked := r.asked_fetchAll w names
  funext name
  rw [resolve, resolve, (hasked.consistent h).find_eq, h.find_eq, hasked.sameSources.fresh_eq]

/-! ## Names -/

theorem nodup_eraseDups (names : List String) : names.eraseDups.Nodup := by
  match names with
  | [] => exact .nil
  | name :: rest =>
      rw [List.eraseDups_cons, List.nodup_cons]
      constructor
      · intro hmem
        rw [List.mem_eraseDups, List.mem_filter] at hmem
        simp at hmem
      · exact nodup_eraseDups _
termination_by names.length
decreasing_by
  have hle := List.length_filter_le (fun b => !b == name) rest
  simp only [List.length_cons]
  omega

theorem pairwise_mergeSort_eraseDups (names : List String) :
    names.eraseDups.mergeSort.Pairwise (· < ·) := by
  have hle : names.eraseDups.mergeSort.Pairwise (fun a b => decide (a ≤ b) = true) := by
    apply List.pairwise_mergeSort
    · intro a b c hab hbc
      rw [decide_eq_true_iff] at hab hbc ⊢
      exact String.le_trans hab hbc
    · intro a b
      rcases String.le_total a b with hab | hba
      · simp [hab]
      · simp [hba]
  have hnodup : names.eraseDups.mergeSort.Nodup :=
    (List.mergeSort_perm _ _).nodup_iff.2 (nodup_eraseDups names)
  apply List.Pairwise.imp ?_ (hle.and hnodup)
  intro a b hab
  have hab_le : a ≤ b := of_decide_eq_true hab.1
  apply String.not_le.1
  intro hba
  exact hab.2 (String.le_antisymm hab_le hba)

/-- A strictly increasing list is determined by its members. -/
theorem eq_of_pairwise_lt {names names' : List String} (h : names.Pairwise (· < ·))
    (h' : names'.Pairwise (· < ·)) (hmem : ∀ name, name ∈ names ↔ name ∈ names') :
    names = names' := by
  have hne : ∀ {a b : String}, a < b → a ≠ b := by
    rintro a _ hlt rfl
    exact String.lt_irrefl a hlt
  have hperm : names.Perm names' :=
    (List.perm_ext_iff_of_nodup (h.imp hne) (h'.imp hne)).2 hmem
  apply hperm.eq_of_pairwise ?_ h h'
  intro a b _ _ hab hba
  exact absurd (String.lt_trans hab hba) (String.lt_irrefl a)

theorem pairwise_names (r : Repository) (w : Workspace) : (r.names w).Pairwise (· < ·) :=
  pairwise_mergeSort_eraseDups _

theorem mem_discover {loader : Option Loader} {name : String} :
    name ∈ (loader.map (·.discover w)).getD [] ↔ ∃ l, loader = some l ∧ name ∈ l.discover w := by
  cases loader with
  | none => simp
  | some l => simp

theorem mem_names {name : String} :
    name ∈ r.names w ↔
      name ∈ r.sources.map (·.1) ∨ ∃ l, r.loader = some l ∧ name ∈ l.discover w := by
  rw [names, List.mem_mergeSort, List.mem_eraseDups, List.mem_append, mem_discover]

theorem mem_names_ofDirectory {root extension name : String} :
    name ∈ (ofDirectory root extension).names w ↔
      name ∈ (Loader.ofExtension root extension).discover w := by
  simp [mem_names, ofDirectory]

end Mustache.Repository
