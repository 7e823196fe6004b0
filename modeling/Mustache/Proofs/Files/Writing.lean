import Mustache.Proofs.Files.Trees

/-!
# Reading what has been written

A file is written at the place that its path leads to, but read by following the path segment
by segment, with steps back and into directories that have nothing to do with the place.  The
two agree because writing a file takes away no directory: whatever directory could be followed
to is still there, at the same place.

A path can be written to if its last segment is a name and the segments in front of it lead to
a directory, in which the name may stand for a file but not for a directory.
-/

namespace Mustache

namespace FileTree

/-! ## What is at a place -/

variable {root root' here : FileTree} {place : List String} {content : FileContent}
  {entries : List (String × FileTree)}

/-- `here` is at a place of the tree, and `trail` holds the directories above it, innermost
first. -/
inductive Stands (root : FileTree) : List String → List FileTree → FileTree → Prop
  | root : Stands root [] [] root
  | enter {place : List String} {trail : List FileTree} {entries : List (String × FileTree)}
      {s : String} {inner : FileTree} :
      Stands root place trail (.directory entries) → entries.lookup s = some inner →
        Stands root (place ++ [s]) (.directory entries :: trail) inner

namespace Stands

variable {trail trail' : List FileTree} {s : String}

theorem back (h : Stands root place trail (.directory entries)) :
    ∃ outer, trail.head?.getD (.directory entries) = .directory outer ∧
      Stands root place.dropLast trail.tail (.directory outer) := by
  generalize hhere : FileTree.directory entries = here at h
  cases h with
  | root =>
      subst hhere
      exact ⟨entries, rfl, .root⟩
  | @enter place trail outer s _ houter _ =>
      rw [List.dropLast_concat]
      exact ⟨outer, rfl, houter⟩

theorem step {inner : FileTree} (h : Stands root place trail here)
    (henter : FileTree.enter trail here s = .ok (trail', inner)) :
    Stands root (Path.reach place [s]) trail' inner := by
  cases here with
  | file content => cases henter
  | directory entries =>
      rw [FileTree.enter] at henter
      split at henter
      · next hblank =>
        obtain ⟨rfl, rfl⟩ := Prod.mk.inj (Except.ok.inj henter)
        rw [Path.reach_blank hblank]
        exact h
      · next hblank =>
        split at henter
        · next hdots =>
          obtain ⟨outer, houter, hback⟩ := h.back
          obtain ⟨rfl, rfl⟩ := Prod.mk.inj (Except.ok.inj henter)
          rw [hdots, Path.reach_dots, houter]
          exact hback
        · next hdots =>
          cases hlookup : entries.lookup s with
          | none =>
              rw [hlookup] at henter
              cases henter
          | some found =>
              rw [hlookup] at henter
              obtain ⟨rfl, rfl⟩ := Prod.mk.inj (Except.ok.inj henter)
              rw [Path.reach_name hblank hdots]
              exact .enter h hlookup

end Stands

namespace Stands

variable {trail trail' : List FileTree} {segments : List String}

theorem follow {there : FileTree} (h : Stands root place trail here)
    (hfollow : FileTree.follow trail here segments = .ok there) :
    ∃ trail', Stands root (Path.reach place segments) trail' there ∧
      ∀ rest, FileTree.follow trail here (segments ++ rest) =
        FileTree.follow trail' there rest := by
  induction segments generalizing place trail here with
  | nil =>
      obtain rfl := Except.ok.inj hfollow
      exact ⟨trail, h, fun _ => rfl⟩
  | cons s segments ih =>
      obtain ⟨trail₁, inner, henter, hrest⟩ := exists_enter_of_follow hfollow
      obtain ⟨trail', hthere, happend⟩ := ih (h.step henter) hrest
      refine ⟨trail', ?_, fun rest => ?_⟩
      · rw [← List.singleton_append, Path.reach_append]
        exact hthere
      · rw [List.cons_append, follow_of_enter henter, happend]

end Stands

end FileTree

namespace Workspace

variable {w : Workspace} {path : String}

def start (w : Workspace) (path : String) : List String :=
  if Path.isAbsolute path then [] else w.current

end Workspace
end Mustache
