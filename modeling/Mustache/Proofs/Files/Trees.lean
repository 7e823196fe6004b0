import Mustache.Files.Tree
import Mustache.Proofs.Files.Paths

/-!
# Places in a file tree

Listing the files of a tree and following paths through it agree: in a tree whose directories
have entries with names, each its own, a file is listed at a place just when the names on the
way there lead to it.  Writing, making directories and removing keep a tree in that form.
Below a directory the same holds of the paths that are joined to its own.
-/

namespace Mustache

namespace FileTree

theorem mem_of_lookup {entries : List (String × FileTree)} {s : String} {t : FileTree}
    (h : entries.lookup s = some t) : (s, t) ∈ entries := by
  obtain ⟨front, back, rfl, -⟩ := List.lookup_eq_some_iff.1 h
  simp

theorem lookup_of_mem {entries : List (String × FileTree)} {s : String} {t : FileTree}
    (distinct : (entries.map (·.1)).Nodup) (h : (s, t) ∈ entries) : entries.lookup s = some t := by
  obtain ⟨front, back, rfl⟩ := List.append_of_mem h
  refine List.lookup_eq_some_iff.2 ⟨front, back, rfl, ?_⟩
  rintro ⟨s', t'⟩ hfront
  rw [List.map_append, List.nodup_append] at distinct
  have hne : s' ≠ s := distinct.2.2 s' (List.mem_map_of_mem hfront) s (by simp)
  simpa using Ne.symm hne

/-! ## Well-formed trees -/

/-- The entries of every directory have names, each its own. -/
inductive WellFormed : FileTree → Prop
  | file (content : FileContent) : WellFormed (.file content)
  | directory {entries : List (String × FileTree)} (distinct : (entries.map (·.1)).Nodup)
      (names : ∀ e ∈ entries, Path.IsName e.1) (inner : ∀ e ∈ entries, WellFormed e.2) :
      WellFormed (.directory entries)

namespace WellFormed

theorem emptyDirectory : WellFormed emptyDirectory :=
  .directory .nil nofun nofun

variable {entries : List (String × FileTree)} {t : FileTree}

theorem erase (h : WellFormed (.directory entries)) (s : String) :
    WellFormed (.directory (Entries.erase entries s)) := by
  cases h with
  | directory distinct names inner =>
      have hsublist : (Entries.erase entries s).Sublist entries := List.filter_sublist
      exact .directory (distinct.sublist (hsublist.map _))
        (fun e he => names e (hsublist.subset he)) (fun e he => inner e (hsublist.subset he))

/-- An entry may be put in the place of another one of its name. -/
theorem replace (h : WellFormed (.directory entries)) {s : String} (hs : Path.IsName s)
    (ht : t.WellFormed) : WellFormed (.directory ((s, t) :: Entries.erase entries s)) := by
  have hfresh : s ∉ (Entries.erase entries s).map (·.1) := by
    simp [Entries.erase]
  cases h.erase s with
  | directory distinct names inner =>
      refine .directory (List.nodup_cons.2 ⟨hfresh, distinct⟩) ?_ ?_
      · exact List.forall_mem_cons.2 ⟨hs, names⟩
      · exact List.forall_mem_cons.2 ⟨ht, inner⟩

theorem lookup (h : WellFormed (.directory entries)) {s : String} (hs : entries.lookup s = some t) :
    t.WellFormed := by
  cases h with
  | directory _ _ inner => exact inner (s, t) (mem_of_lookup hs)

theorem lookup_getD (h : WellFormed (.directory entries)) (s : String) :
    ((entries.lookup s).getD FileTree.emptyDirectory).WellFormed := by
  cases hs : entries.lookup s with
  | none => exact emptyDirectory
  | some inner => exact h.lookup hs

theorem write (h : t.WellFormed) (content : FileContent) {place : List String}
    (hplace : ∀ s ∈ place, Path.IsName s) : (t.write content place).WellFormed := by
  induction place generalizing t with
  | nil => exact .file content
  | cons s rest ih =>
      rw [List.forall_mem_cons] at hplace
      cases t with
      | file old => exact h
      | directory entries => exact h.replace hplace.1 (ih (h.lookup_getD s) hplace.2)

theorem makeDirectory (h : t.WellFormed) {place : List String}
    (hplace : ∀ s ∈ place, Path.IsName s) : (t.makeDirectory place).WellFormed := by
  induction place generalizing t with
  | nil => exact h
  | cons s rest ih =>
      rw [List.forall_mem_cons] at hplace
      cases t with
      | file old => exact h
      | directory entries => exact h.replace hplace.1 (ih (h.lookup_getD s) hplace.2)

theorem remove (h : t.WellFormed) (place : List String) : (t.remove place).WellFormed := by
  induction place generalizing t with
  | nil => exact h
  | cons s rest ih =>
      cases h with
      | file content => cases rest <;> exact .file content
      | @directory entries distinct names inner =>
          cases rest with
          | nil => exact (WellFormed.directory distinct names inner).erase s
          | cons s' rest =>
              refine .directory ?_ ?_ ?_
              · rw [List.map_map]
                exact distinct
              · rw [List.forall_mem_map]
                exact names
              · rw [List.forall_mem_map]
                intro e he
                dsimp only
                split
                · exact ih (inner e he)
                · exact inner e he

end WellFormed

/-! ## Following segments -/

/-- Where one segment leads to, behind the directories on the way there. -/
def enter (trail : List FileTree) (here : FileTree) (s : String) :
    Except IoError (List FileTree × FileTree) :=
  match here with
  | .file _ => .error .notDirectory
  | .directory entries =>
      if s = "" ∨ s = "." then .ok (trail, here)
      else if s = ".." then .ok (trail.tail, trail.head?.getD here)
      else
        match entries.lookup s with
        | some inner => .ok (here :: trail, inner)
        | none => .error .notFound

theorem follow_cons (trail : List FileTree) (here : FileTree) (s : String) (rest : List String) :
    follow trail here (s :: rest) = (enter trail here s).bind fun (trail, here) =>
      follow trail here rest := by
  cases here with
  | file content => cases trail <;> rfl
  | directory entries =>
      rw [follow.eq_def, enter]
      dsimp only
      split
      · rfl
      · split
        · cases trail <;> rfl
        · cases entries.lookup s <;> rfl

theorem follow_of_enter {trail trail' : List FileTree} {here here' : FileTree} {s : String}
    (h : enter trail here s = .ok (trail', here')) (rest : List String) :
    follow trail here (s :: rest) = follow trail' here' rest := by
  rw [follow_cons, h]
  rfl

theorem exists_enter_of_follow {trail : List FileTree} {here there : FileTree} {s : String}
    {rest : List String} (h : follow trail here (s :: rest) = .ok there) :
    ∃ trail' here', enter trail here s = .ok (trail', here') ∧
      follow trail' here' rest = .ok there := by
  cases henter : enter trail here s with
  | error e =>
      rw [follow_cons, henter] at h
      exact nomatch h
  | ok next => exact ⟨next.1, next.2, rfl, by rw [← follow_of_enter henter, h]⟩

/-- What follows only depends on where the first segments lead to. -/
theorem exists_follow_append {trail : List FileTree} {here there : FileTree}
    {front : List String} (h : follow trail here front = .ok there) :
    ∃ trail', ∀ rest, follow trail here (front ++ rest) = follow trail' there rest := by
  induction front generalizing trail here with
  | nil =>
      obtain rfl := Except.ok.inj h
      exact ⟨trail, fun _ => rfl⟩
  | cons s front ih =>
      obtain ⟨trail', here', henter, h⟩ := exists_enter_of_follow h
      obtain ⟨trail'', hrest⟩ := ih h
      exact ⟨trail'', fun rest => (follow_of_enter henter _).trans (hrest rest)⟩

/-- An empty segment only asks for a directory, and so does any segment behind it. -/
theorem follow_empty_segment (trail : List FileTree) (here : FileTree) (front : List String)
    {rest : List String} (hrest : rest ≠ []) :
    follow trail here (front ++ "" :: rest) = follow trail here (front ++ rest) := by
  induction front generalizing trail here with
  | nil =>
      obtain ⟨s, rest, rfl⟩ := List.exists_cons_of_ne_nil hrest
      cases here with
      | file content => rfl
      | directory entries => exact follow_of_enter rfl _
  | cons s front ih =>
      rw [List.cons_append, List.cons_append, follow_cons, follow_cons]
      simp only [ih]

theorem WellFormed.enter {trail trail' : List FileTree} {here here' : FileTree} {s : String}
    (htrees : ∀ t ∈ here :: trail, t.WellFormed)
    (h : enter trail here s = .ok (trail', here')) : ∀ t ∈ here' :: trail', t.WellFormed := by
  rw [List.forall_mem_cons] at htrees
  obtain ⟨hhere, htrail⟩ := htrees
  cases here with
  | file content => exact nomatch h
  | directory entries =>
      unfold FileTree.enter at h
      dsimp only at h
      split at h
      · obtain ⟨rfl, rfl⟩ := Prod.mk.inj (Except.ok.inj h)
        exact List.forall_mem_cons.2 ⟨hhere, htrail⟩
      · split at h
        · obtain ⟨rfl, rfl⟩ := Prod.mk.inj (Except.ok.inj h)
          cases trail with
          | nil => exact List.forall_mem_cons.2 ⟨hhere, nofun⟩
          | cons outer trail => exact htrail
        · cases hlookup : entries.lookup s with
          | none =>
              rw [hlookup] at h
              exact nomatch h
          | some inner =>
              rw [hlookup] at h
              obtain ⟨rfl, rfl⟩ := Prod.mk.inj (Except.ok.inj h)
              exact List.forall_mem_cons.2
                ⟨hhere.lookup hlookup, List.forall_mem_cons.2 ⟨hhere, htrail⟩⟩

theorem WellFormed.follow {trail : List FileTree} {here there : FileTree} {place : List String}
    (htrees : ∀ t ∈ here :: trail, t.WellFormed)
    (h : follow trail here place = .ok there) : there.WellFormed := by
  induction place generalizing trail here with
  | nil =>
      obtain rfl := Except.ok.inj h
      exact htrees _ List.mem_cons_self
  | cons s rest ih =>
      obtain ⟨trail', here', henter, h⟩ := exists_enter_of_follow h
      exact ih (WellFormed.enter htrees henter) h

/-! ## Following names -/

theorem enter_name {s : String} (hs : Path.IsName s) (trail : List FileTree)
    (entries : List (String × FileTree)) :
    enter trail (.directory entries) s =
      match entries.lookup s with
      | some inner => .ok (.directory entries :: trail, inner)
      | none => .error .notFound := by
  rw [enter, if_neg (not_or.2 ⟨hs.ne_empty, hs.ne_dot⟩), if_neg hs.ne_dots]

theorem mem_entries_of_enter {s : String} (hs : Path.IsName s) {trail trail' : List FileTree}
    {here inner : FileTree} (h : enter trail here s = .ok (trail', inner)) :
    ∃ entries, here = .directory entries ∧ (s, inner) ∈ entries := by
  cases here with
  | file content => exact nomatch h
  | directory entries =>
      rw [enter_name hs] at h
      cases hlookup : entries.lookup s with
      | none =>
          rw [hlookup] at h
          exact nomatch h
      | some t =>
          rw [hlookup] at h
          obtain ⟨-, rfl⟩ := Prod.mk.inj (Except.ok.inj h)
          exact ⟨entries, rfl, mem_of_lookup hlookup⟩

theorem enter_of_mem_entries {entries : List (String × FileTree)} {s : String} {inner : FileTree}
    (hentries : WellFormed (.directory entries)) (h : (s, inner) ∈ entries)
    (trail : List FileTree) :
    enter trail (.directory entries) s = .ok (.directory entries :: trail, inner) := by
  cases hentries with
  | directory distinct names _ => rw [enter_name (names _ h), lookup_of_mem distinct h]

theorem mem_entryPaths {entries : List (String × FileTree)} {place : List String} :
    place ∈ entryPaths entries ↔
      ∃ s t, (s, t) ∈ entries ∧ ∃ rest ∈ filePaths t, place = s :: rest := by
  induction entries with
  | nil => simp [entryPaths]
  | cons e entries ih =>
      obtain ⟨s, t⟩ := e
      rw [entryPaths, List.mem_append, ih, List.mem_map]
      constructor
      · rintro (⟨rest, hrest, rfl⟩ | ⟨s', t', he, hplace⟩)
        · exact ⟨s, t, List.mem_cons_self, rest, hrest, rfl⟩
        · exact ⟨s', t', List.mem_cons_of_mem _ he, hplace⟩
      · rintro ⟨s', t', he, rest, hrest, rfl⟩
        rcases List.mem_cons.1 he with heq | he
        · obtain ⟨rfl, rfl⟩ := Prod.mk.inj heq
          exact .inl ⟨rest, hrest, rfl⟩
        · exact .inr ⟨s', t', he, rest, hrest, rfl⟩

theorem mem_filePaths_of_follow {trail : List FileTree} {t : FileTree} {content : FileContent}
    {place : List String} (hplace : ∀ s ∈ place, Path.IsName s)
    (h : follow trail t place = .ok (.file content)) : place ∈ filePaths t := by
  induction place generalizing trail t with
  | nil =>
      obtain rfl := Except.ok.inj h
      simp [filePaths]
  | cons s rest ih =>
      rw [List.forall_mem_cons] at hplace
      obtain ⟨trail', inner, henter, hinner⟩ := exists_enter_of_follow h
      obtain ⟨entries, rfl, he⟩ := mem_entries_of_enter hplace.1 henter
      exact mem_entryPaths.2 ⟨s, inner, he, rest, ih hplace.2 hinner, rfl⟩

theorem WellFormed.isName_of_mem {t : FileTree} (h : t.WellFormed) {place : List String}
    (hplace : place ∈ filePaths t) : ∀ s ∈ place, Path.IsName s := by
  induction h generalizing place with
  | file content =>
      obtain rfl := List.mem_singleton.1 hplace
      exact nofun
  | directory distinct names inner ih =>
      obtain ⟨s, t, he, rest, hrest, rfl⟩ := mem_entryPaths.1 hplace
      exact List.forall_mem_cons.2 ⟨names (s, t) he, ih (s, t) he hrest⟩

theorem WellFormed.follow_of_mem {t : FileTree} (h : t.WellFormed) {place : List String}
    (hplace : place ∈ filePaths t) (trail : List FileTree) :
    ∃ content, FileTree.follow trail t place = .ok (.file content) := by
  induction h generalizing place trail with
  | file content =>
      obtain rfl := List.mem_singleton.1 hplace
      exact ⟨content, rfl⟩
  | directory distinct names inner ih =>
      obtain ⟨s, t, he, rest, hrest, rfl⟩ := mem_entryPaths.1 hplace
      rw [follow_of_enter (enter_of_mem_entries (.directory distinct names inner) he trail)]
      exact ih (s, t) he hrest _

end FileTree

namespace Workspace

/-! ## Workspaces -/

/-- The tree is well-formed, and the current directory is given by names. -/
structure WellFormed (w : Workspace) : Prop where
  root : w.root.WellFormed
  current : ∀ s ∈ w.current, Path.IsName s

namespace WellFormed

variable {w : Workspace}

theorem write (h : w.WellFormed) (path : String) (content : FileContent) :
    (w.write path content).WellFormed where
  root := h.root.write content (Path.isName_of_mem_resolve h.current path)
  current := h.current

theorem makeDirectory (h : w.WellFormed) (path : String) : (w.makeDirectory path).WellFormed where
  root := h.root.makeDirectory (Path.isName_of_mem_resolve h.current path)
  current := h.current

theorem remove (h : w.WellFormed) (path : String) : (w.remove path).WellFormed where
  root := h.root.remove _
  current := h.current

end WellFormed

theorem find_eq_follow {w : Workspace} {path : String} (h : path ≠ "") :
    w.find path = FileTree.follow [] w.root
      ((if Path.isAbsolute path then [] else w.current) ++ Path.segments path) := by
  rw [find, if_neg h, walk]
  split <;> rfl

theorem ne_empty_of_find {w : Workspace} {path : String} {here : FileTree}
    (h : w.find path = .ok here) : path ≠ "" := by
  rintro rfl
  exact nomatch h

/-- Joined to a path, a relative one is followed from where the first one leads to. -/
theorem exists_find_join {w : Workspace} {base : String} {here : FileTree}
    (hbase : w.find base = .ok here) :
    ∃ trail, ∀ rest, Path.isAbsolute rest = false →
      w.find (Path.join base rest) = FileTree.follow trail here (Path.segments rest) := by
  have hne := ne_empty_of_find hbase
  rw [find_eq_follow hne] at hbase
  obtain ⟨trail, htrail⟩ := FileTree.exists_follow_append hbase
  refine ⟨trail, fun rest hrest => ?_⟩
  have hjoin_ne : Path.join base rest ≠ "" := Path.join_ne_empty hne hrest
  obtain ⟨front, hjoin, hfront⟩ := Path.segments_join hne hrest
  rw [find_eq_follow hjoin_ne, Path.isAbsolute_join hne hrest, hjoin, ← htrail]
  rcases hfront with hfront | hfront
  · rw [hfront, List.append_assoc]
  · rw [hfront, List.append_assoc, List.append_assoc, List.singleton_append,
      ← List.append_assoc, ← List.append_assoc,
      FileTree.follow_empty_segment _ _ _ (Path.segments_ne_nil rest)]

theorem isDirectory_iff {w : Workspace} {path : String} :
    w.isDirectory path = true ↔ ∃ entries, w.find path = .ok (.directory entries) := by
  unfold isDirectory
  split
  · next entries h => simp [h]
  · next h => simpa using h

theorem isFile_iff {w : Workspace} {path : String} :
    w.isFile path = true ↔ ∃ content, w.find path = .ok (.file content) := by
  unfold isFile
  split
  · next content h => simp [h]
  · next h => simpa using h

theorem mem_filesBelow {w : Workspace} {base : String} {place : List String} :
    place ∈ w.filesBelow base ↔
      ∃ entries, w.find base = .ok (.directory entries) ∧ place ∈ FileTree.entryPaths entries := by
  unfold filesBelow
  split
  · next entries h => simp [h]
  · next h =>
    constructor
    · exact nofun
    · rintro ⟨entries, hfind, -⟩
      exact absurd hfind (h entries)

namespace WellFormed

variable {w : Workspace} {base : String} {place : List String}

theorem find (hw : w.WellFormed) {here : FileTree} (h : w.find base = .ok here) :
    here.WellFormed := by
  rw [find_eq_follow (ne_empty_of_find h)] at h
  exact FileTree.WellFormed.follow (List.forall_mem_singleton.2 hw.root) h

theorem isName_of_mem_filesBelow (hw : w.WellFormed) (h : place ∈ w.filesBelow base) :
    place ≠ [] ∧ ∀ s ∈ place, Path.IsName s := by
  obtain ⟨entries, hbase, hplace⟩ := mem_filesBelow.1 h
  constructor
  · obtain ⟨s, t, -, rest, -, rfl⟩ := FileTree.mem_entryPaths.1 hplace
    exact List.cons_ne_nil s rest
  · exact (hw.find hbase).isName_of_mem hplace

/-- The files below a directory are those at the paths that are joined to its own. -/
theorem mem_filesBelow_iff (hw : w.WellFormed) (hbase : w.isDirectory base = true)
    (hne : place ≠ []) (hplace : ∀ s ∈ place, Path.IsName s) :
    place ∈ w.filesBelow base ↔ w.isFile (Path.join base ("/".intercalate place)) = true := by
  obtain ⟨entries, hentries⟩ := isDirectory_iff.1 hbase
  have hsegments : Path.segments ("/".intercalate place) = place :=
    Path.segments_intercalate hne fun s hs => (hplace s hs).no_slash
  have hrelative : Path.isAbsolute ("/".intercalate place) = false := by
    obtain ⟨first, rest, rfl⟩ := List.exists_cons_of_ne_nil hne
    exact Path.not_isAbsolute hsegments (hplace first List.mem_cons_self).ne_empty
  obtain ⟨trail, hjoin⟩ := exists_find_join hentries
  rw [isFile_iff, hjoin _ hrelative, hsegments, mem_filesBelow]
  constructor
  · rintro ⟨entries', hentries', hmem⟩
    obtain rfl : entries = entries' := by
      simpa [hentries] using hentries'
    exact (hw.find hentries).follow_of_mem hmem trail
  · rintro ⟨content, hcontent⟩
    exact ⟨entries, hentries, FileTree.mem_filePaths_of_follow hplace hcontent⟩

end WellFormed

end Workspace
end Mustache
