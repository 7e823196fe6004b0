import Mustache.Proofs.Template.Discovery

/-!
# Templates stay below the root

The name of a template is judged by its components, but the file is read at the raw name with
the extension behind it.  The extension goes to the last segment, which may become a dot, two
dots or a name only then.  So what is judged and what is followed differ in their last segment.

A path stays below a directory if no part of it, read from the left, leads to a place outside.
Two dots at the end do no harm, because an accepted name starts with a name of a file or a
directory: the path can step back to the root, but not further.
-/

namespace Mustache

namespace Path

/-! ## Paths that stay below a directory -/

/-- Followed from the place `below` some directory, the segments never leave it, wherever the
directory is. -/
def StaysBelow (below segments : List String) : Prop :=
  ∀ front, front <+: segments → ∀ start, start <+: reach (start ++ below) front

variable {s : String} {below segments : List String}

theorem StaysBelow.tail {below' : List String}
    (hreach : ∀ start, reach (start ++ below) [s] = start ++ below')
    (h : StaysBelow below (s :: segments)) : StaysBelow below' segments := by
  intro front hfront start
  have hlong : s :: front <+: s :: segments := (List.prefix_cons_inj s).2 hfront
  have hstart := h (s :: front) hlong start
  rwa [← List.singleton_append, reach_append, hreach] at hstart

theorem StaysBelow.ne_nil_of_dots (h : StaysBelow below (".." :: segments)) : below ≠ [] := by
  rintro rfl
  have hback := h [".."] ⟨segments, rfl⟩ ["root"]
  simp [reach_dots] at hback

/-- Without a step back a path only gets longer. -/
theorem exists_reach_of_no_dots (h : ".." ∉ segments) :
    ∃ names, (∀ start, reach start segments = start ++ names) ∧
      ((∃ s ∈ segments, s ≠ "" ∧ s ≠ ".") → names ≠ []) := by
  induction segments with
  | nil => exact ⟨[], fun start => (List.append_nil start).symm, by simp⟩
  | cons s rest ih =>
      rw [List.mem_cons, not_or] at h
      obtain ⟨names, hnames, hne⟩ := ih h.2
      by_cases hblank : s = "" ∨ s = "."
      · refine ⟨names, fun start => ?_, fun hname => hne ?_⟩
        · rw [← List.singleton_append, reach_append, reach_blank hblank, hnames]
        · obtain ⟨t, ht, hempty, hdot⟩ := hname
          rcases List.mem_cons.1 ht with rfl | ht
          · exact absurd hblank (not_or.2 ⟨hempty, hdot⟩)
          · exact ⟨t, ht, hempty, hdot⟩
      · refine ⟨s :: names, fun start => ?_, fun _ => List.cons_ne_nil s names⟩
        rw [← List.singleton_append, reach_append, reach_name hblank (Ne.symm h.1), hnames,
          List.append_assoc, List.singleton_append]

/-- Whatever the last segment is, it leads back no further than to the directory. -/
theorem staysBelow_concat {front : List String} (hdots : ".." ∉ front) {last : String}
    (hlast : last = ".." → ∃ s ∈ front, s ≠ "" ∧ s ≠ ".") :
    StaysBelow [] (front ++ [last]) := by
  intro part hpart start
  rw [List.append_nil]
  rcases List.prefix_concat_iff.1 hpart with rfl | hpart
  · obtain ⟨names, hnames, hne⟩ := exists_reach_of_no_dots hdots
    rw [reach_append, hnames]
    by_cases hback : last = ".."
    · rw [hback, reach_dots, List.dropLast_append_of_ne_nil (hne (hlast hback))]
      exact List.prefix_append start _
    · by_cases hblank : last = "" ∨ last = "."
      · rw [reach_blank hblank]
        exact List.prefix_append start names
      · rw [reach_name hblank hback, List.append_assoc]
        exact List.prefix_append start _
  · obtain ⟨names, hnames, -⟩ := exists_reach_of_no_dots fun h => hdots (hpart.subset h)
    rw [hnames]
    exact List.prefix_append start names

end Path

/-! ## Following a path that stays below -/

/-- What is above the directory makes no difference.  The induction goes by the segments; the
directories entered on the way, `inner`, are as many as the components of the place `below`. -/
theorem FileTree.follow_of_staysBelow {below segments : List String}
    (h : Path.StaysBelow below segments) {inner : List FileTree}
    (hinner : inner.length = below.length) (here : FileTree) (trail trail' : List FileTree) :
    follow (inner ++ trail) here segments = follow (inner ++ trail') here segments := by
  induction segments generalizing below inner here with
  | nil => rfl
  | cons s rest ih =>
      rw [follow_cons, follow_cons]
      cases here with
      | file content => rfl
      | directory entries =>
          by_cases hblank : s = "" ∨ s = "."
          · have hrest := h.tail fun start => Path.reach_blank hblank _
            simpa [enter, hblank, Except.bind] using ih hrest hinner (.directory entries)
          · by_cases hdots : s = ".."
            · subst hdots
              have hne := h.ne_nil_of_dots
              have hrest := h.tail fun start => by
                rw [Path.reach_dots, List.dropLast_append_of_ne_nil hne]
              cases inner with
              | nil => exact absurd (List.length_eq_zero_iff.1 hinner.symm) hne
              | cons outer inner =>
                  have hlength : inner.length = below.dropLast.length := by
                    rw [List.length_dropLast, ← hinner, List.length_cons, Nat.add_sub_cancel]
                  simpa [enter, Except.bind] using ih hrest hlength outer
            · have hrest := h.tail fun start => by
                rw [Path.reach_name hblank hdots, List.append_assoc]
              cases hlookup : entries.lookup s with
              | none => simp [enter, hblank, hdots, hlookup, Except.bind]
              | some found =>
                  have hlength : (FileTree.directory entries :: inner).length =
                      (below ++ [s]).length := by
                    simp [hinner]
                  simpa [enter, hblank, hdots, hlookup, Except.bind] using
                    ih hrest hlength found

/-- What is found at a path that stays below a directory is found from there, with nothing
around it. -/
theorem Workspace.find_join_of_staysBelow {w : Workspace} {root file : String} {here : FileTree}
    (hroot : w.walk (Path.isAbsolute root) (Path.segments root) = .ok here) (hfile : file ≠ "")
    (hrelative : Path.isAbsolute file = false)
    (hbelow : Path.StaysBelow [] (Path.segments file)) (trail : List FileTree) :
    w.find (Path.join root file) = FileTree.follow trail here (Path.segments file) := by
  have hfollow : ∃ trail', w.find (Path.join root file) =
      FileTree.follow trail' here (Path.segments file) := by
    by_cases hempty : root = ""
    · subst hempty
      have hjoin : Path.join "" file = file := by simp [Path.join]
      have hcurrent : FileTree.follow [] w.root (w.current ++ [""]) = .ok here := hroot
      obtain ⟨trail', htrail⟩ := FileTree.exists_follow_append hcurrent
      refine ⟨trail', ?_⟩
      rw [hjoin, find_eq_follow hfile, hrelative, ← htrail, List.append_assoc]
      exact (FileTree.follow_empty_segment _ _ _ (Path.segments_ne_nil file)).symm
    · have hfind : w.find root = .ok here := by
        rw [find, if_neg hempty, hroot]
      obtain ⟨trail', htrail⟩ := exists_find_join hfind
      exact ⟨trail', htrail file hrelative⟩
  obtain ⟨trail', htrail⟩ := hfollow
  rw [htrail]
  have hinner : ([] : List FileTree).length = ([] : List String).length := rfl
  exact FileTree.follow_of_staysBelow hbelow hinner here trail' trail

namespace Loader

/-! ## Names that are refused -/

/-- The name does not go down from the root, or goes somewhere else on the way. -/
def Refused (name : String) : Prop :=
  name = "" ∨ Path.isAbsolute name = true ∨ (Path.segments name).head? = some "." ∨
    ".." ∈ Path.segments name ∨ '\\' ∈ name.toList

variable {name : String}

theorem isValidName_of_refused (h : Refused name) : isValidName name = false := by
  rcases h with rfl | habsolute | hdot | hdots | hbackslash
  · decide
  · have hroot : .root ∈ Path.components name := by
      unfold Path.components
      split
      · next rest hdot =>
        rw [Path.not_isAbsolute hdot (by decide)] at habsolute
        cases habsolute
      · simp [habsolute]
    have hall : (Path.components name).all (·.name?.isSome) = false :=
      List.all_eq_false.2 ⟨.root, hroot, by simp [Path.Component.name?]⟩
    simp [isValidName, hall]
  · obtain ⟨rest, hrest⟩ := List.head?_eq_some_iff.1 hdot
    simp [isValidName, Path.components, hrest, Path.Component.name?]
  · exact isValidName_eq_false (.inr hdots)
  · exact isValidName_eq_false (.inl hbackslash)

/-- An accepted name starts with a name of a file or a directory. -/
theorem exists_first_of_not_refused (h : ¬ Refused name) :
    ∃ first rest, Path.segments name = first :: rest ∧ first ≠ "" ∧ first ≠ "." := by
  simp only [Refused, not_or] at h
  obtain ⟨hempty, hrelative, hdot, -, -⟩ := h
  obtain ⟨first, rest, hname⟩ := List.exists_cons_of_ne_nil (Path.segments_ne_nil name)
  refine ⟨first, rest, hname, ?_, ?_⟩
  · rintro rfl
    cases rest with
    | nil =>
        have hjoined := Path.intercalate_segments name
        rw [hname, String.intercalate_singleton] at hjoined
        exact hempty hjoined.symm
    | cons second rest =>
        have hslash : name = "" ++ "/" ++ "/".intercalate (second :: rest) := by
          rw [← Path.intercalate_segments name, hname, String.intercalate_cons_cons]
        apply hrelative
        simp [hslash, Path.isAbsolute]
  · rintro rfl
    exact hdot (by rw [hname]; rfl)

theorem isValidName_of_not_refused (h : ¬ Refused name) : isValidName name = true := by
  obtain ⟨first, rest, hname, hempty, hdot⟩ := exists_first_of_not_refused h
  simp only [Refused, not_or] at h
  obtain ⟨-, -, -, hdots, hbackslash⟩ := h
  have hcomponents : Path.components name =
      (Path.segments name).filterMap Path.Component.ofSegment? := by
    unfold Path.components
    split
    · next rest' hdot' =>
      rw [hname] at hdot'
      exact absurd (List.cons.inj hdot').1 hdot
    · rw [Path.not_isAbsolute hname hempty]
      rfl
  have hfirst : Path.Component.ofSegment? first = some (.name first) := by
    rw [hname, List.mem_cons, not_or] at hdots
    simp [Path.Component.ofSegment?, hempty, hdot, Ne.symm hdots.1]
  have hall : ∀ c ∈ Path.components name, c.name?.isSome = true := by
    rw [hcomponents]
    intro c hc
    obtain ⟨s, hs, hsegment⟩ := List.mem_filterMap.1 hc
    have hs : s ≠ ".." := ne_of_mem_of_not_mem hs hdots
    rw [Path.Component.ofSegment?, if_neg hs] at hsegment
    split at hsegment
    · cases hsegment
    · obtain rfl := Option.some.inj hsegment
      rfl
  have hne : Path.components name ≠ [] := by
    rw [hcomponents, hname, List.filterMap_cons_some hfirst]
    exact List.cons_ne_nil _ _
  have hall' := List.all_eq_true.2 hall
  simp [isValidName, hne, hbackslash, hall']

theorem pathOf_eq_error_iff {l : Loader} :
    l.pathOf name = .error (.invalidName name) ↔ Refused name := by
  constructor
  · intro herror
    by_contra hname
    rw [pathOf, if_pos (isValidName_of_not_refused hname)] at herror
    cases herror
  · intro hname
    rw [pathOf, isValidName_of_refused hname]
    rfl

/-- An extension makes two dots only out of a segment that is none itself. -/
theorem eq_empty_or_dot_of_append_eq {last extension : String}
    (h : last ++ ("." ++ extension) = "..") : last = "" ∨ last = "." := by
  have hchars : last.toList ++ '.' :: extension.toList = ['.', '.'] := by
    simpa using congrArg String.toList h
  rcases List.append_eq_cons_iff.1 hchars with ⟨hlast, -⟩ | ⟨tail, hlast, htail⟩
  · exact .inl (String.toList_eq_nil_iff.1 hlast)
  · have htail : tail = [] := by
      have hlength := congrArg List.length htail
      simp only [List.length_append, List.length_cons, List.length_nil] at hlength
      exact List.length_eq_zero_iff.1 (by omega)
    exact .inr (String.ext (by rw [hlast, htail]; rfl))

/-- The extension goes to the last segment, which is no step back from the root: then the name
would have had nothing else in it. -/
theorem staysBelow_fileOf (h : ¬ Refused name) {l : Loader} (hslash : '/' ∉ l.extension.toList) :
    Path.StaysBelow [] (Path.segments (l.fileOf name)) := by
  obtain ⟨first, rest, hfirst, hempty, hdot⟩ := exists_first_of_not_refused h
  obtain ⟨front, last, hname⟩ :=
    (List.eq_nil_or_concat' (Path.segments name)).resolve_left (Path.segments_ne_nil name)
  have hfile : Path.segments (l.fileOf name) = front ++ [last ++ ("." ++ l.extension)] := by
    rw [fileOf, String.append_assoc]
    exact Path.segments_append hname (by simp [hslash])
  have hdots : ".." ∉ Path.segments name := fun hmem => h (.inr (.inr (.inr (.inl hmem))))
  rw [hfile]
  apply Path.staysBelow_concat
  · intro hmem
    exact hdots (by simp [hname, hmem])
  · intro hback
    have hshort : last = "" ∨ last = "." := eq_empty_or_dot_of_append_eq hback
    refine ⟨first, ?_, hempty, hdot⟩
    cases front with
    | nil =>
        rw [hfirst, List.nil_append] at hname
        obtain ⟨rfl, -⟩ := List.cons.inj hname
        exact absurd hshort (not_or.2 ⟨hempty, hdot⟩)
    | cons head front =>
        rw [hfirst, List.cons_append] at hname
        obtain ⟨rfl, -⟩ := List.cons.inj hname
        exact List.mem_cons_self

end Loader

/-! ## Containment -/

/-- A name is refused exactly if it is empty, absolute or starts with a dot, or if it has a step
back or a backslash.  The file of any other name stays below the root, so what is found there
does not depend on what is around the root. -/
theorem Loader.pathOf_stays_below (root extension : String) (hslash : '/' ∉ extension.toList)
    (name : String) :
    let l := Loader.ofExtension root extension
    let file := name ++ "." ++ l.extension
    (l.pathOf name = .error (.invalidName name) ↔ Refused name) ∧
    (¬ Refused name →
      l.pathOf name = .ok (Path.join root file) ∧ Path.isAbsolute file = false ∧
      Path.StaysBelow [] (Path.segments file) ∧
      ∀ (w : Workspace) (here : FileTree),
        w.walk (Path.isAbsolute root) (Path.segments root) = .ok here →
          ∀ trail, w.find (Path.join root file) =
            FileTree.follow trail here (Path.segments file)) := by
  intro l file
  refine ⟨pathOf_eq_error_iff, fun hname => ?_⟩
  have hpath : l.pathOf name = .ok (Path.join root file) := by
    rw [pathOf, if_pos (isValidName_of_not_refused hname)]
    rfl
  have hne : name ≠ "" := fun hempty => hname (.inl hempty)
  have hrelative : Path.isAbsolute file = false := by
    have hstart : Path.isAbsolute name = false := by
      simpa using fun habsolute => hname (.inr (.inl habsolute))
    rw [← hstart]
    exact (congrArg _ (String.append_assoc ..)).trans (Path.isAbsolute_append hne _)
  have hbelow : Path.StaysBelow [] (Path.segments file) :=
    staysBelow_fileOf hname (no_slash_ofExtension root hslash)
  have hfile : file ≠ "" := by
    simp [file]
  refine ⟨hpath, hrelative, hbelow, ?_⟩
  intro w here hroot trail
  exact Workspace.find_join_of_staysBelow hroot hfile hrelative hbelow trail

/-- With the empty extension a dot at the end of a name becomes a step back, to the root. -/
theorem Loader.pathOf_stays_below_step_back :
    let l := Loader.ofExtension "t" "."
    '/' ∉ ".".toList ∧ ¬ Refused "a/." ∧ l.pathOf "a/." = .ok "t/a/.." ∧
      Path.StaysBelow [] (Path.segments "a/..") := by
  intro l
  have hslash : '/' ∉ ".".toList := by decide
  have hname : ¬ Refused "a/." := by
    unfold Refused
    decide
  obtain ⟨hpath, -, hbelow, -⟩ := (pathOf_stays_below "t" "." hslash "a/.").2 hname
  exact ⟨hslash, hname, hpath, hbelow⟩

end Mustache
