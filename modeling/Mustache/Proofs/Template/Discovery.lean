import Mustache.Proofs.Files.Trees
import Mustache.Proofs.Template.Cache

/-!
# Discovering and loading templates

Discovery cuts a file name at its last dot and compares what follows with the extension;
loading puts a dot and the extension behind the name of a template.  The two undo each other
as long as the extension has no dot itself: then a name whose segments are names of files and
directories is discovered just when its file is there.  With a dot in the extension nothing is
discovered, though everything can be loaded.  Two kinds of files are discovered under names that
no template can be asked for: those with a backslash in their path, and those whose own name is
cut to two dots.
-/

namespace Mustache

namespace Loader

variable {l : Loader} {w : Workspace}

/-! ## Names that are accepted -/

theorem isValidName_eq_false {name : String}
    (h : '\\' ∈ name.toList ∨ ".." ∈ Path.segments name) : isValidName name = false := by
  rcases h with hbackslash | hdots
  · simp [isValidName, hbackslash]
  · have hparent : (Path.components name).all (·.name?.isSome) = false := by
      rw [List.all_eq_false]
      exact ⟨.parent, Path.parent_mem_components hdots, by simp [Path.Component.name?]⟩
    simp [isValidName, hparent]

theorem isValidName_of_names {name : String} (h : ∀ s ∈ Path.segments name, Path.IsName s)
    (hbackslash : '\\' ∉ name.toList) : isValidName name = true := by
  simp [isValidName, Path.components_of_names h, Path.segments_ne_nil, Path.Component.name?,
    hbackslash]

theorem pathOf_of_refused {name : String}
    (h : '\\' ∈ name.toList ∨ ".." ∈ Path.segments name) :
    l.pathOf name = .error (.invalidName name) := by
  rw [pathOf, isValidName_eq_false h]
  rfl

theorem pathOf_of_names {name : String} (h : ∀ s ∈ Path.segments name, Path.IsName s)
    (hbackslash : '\\' ∉ name.toList) :
    l.pathOf name = .ok (Path.join l.root (l.fileOf name)) := by
  rw [pathOf, isValidName_of_names h hbackslash]
  rfl

/-! ## Files and names -/

theorem nameOf?_eq_some_iff {directories : List String} {file name : String} :
    l.nameOf? (directories ++ [file]) = some name ↔
      ∃ stem, file = stem ++ "." ++ l.extension ∧ stem ≠ "" ∧ '.' ∉ l.extension.toList ∧
        name = "/".intercalate (directories ++ [if stem = "." then ".." else stem]) := by
  have hname : l.nameOf? (directories ++ [file]) =
      (Path.splitName file).bind fun (stem, extension) =>
        if extension = l.extension then
          some ("/".intercalate (directories ++ [if stem = "." then ".." else stem]))
        else none := by
    rw [nameOf?, List.reverse_concat]
    dsimp only
    cases Path.splitName file with
    | none => rfl
    | some split => simp
  rw [hname, Option.bind_eq_some_iff]
  constructor
  · rintro ⟨⟨stem, extension⟩, hsplit, hsome⟩
    obtain ⟨hfile, hstem, hdot⟩ := Path.splitName_eq_some_iff.1 hsplit
    dsimp only at hsome
    split at hsome
    · next hextension =>
      subst hextension
      exact ⟨stem, hfile, hstem, hdot, (Option.some.inj hsome).symm⟩
    · exact nomatch hsome
  · rintro ⟨stem, hfile, hstem, hdot, rfl⟩
    exact ⟨(stem, l.extension), Path.splitName_eq_some_iff.2 ⟨hfile, hstem, hdot⟩, if_pos rfl⟩

/-- The file of a name is in the directory of the name. -/
theorem fileOf_eq {directories : List String} {stem name : String}
    (hname : Path.segments name = directories ++ [stem]) (hextension : '/' ∉ l.extension.toList) :
    l.fileOf name = "/".intercalate (directories ++ [stem ++ "." ++ l.extension]) := by
  have hdot : '/' ∉ ("." ++ l.extension).toList := by simp [hextension]
  rw [String.append_assoc, ← Path.segments_append hname hdot, Path.intercalate_segments, fileOf,
    String.append_assoc]

theorem mem_discover_iff {name : String} :
    name ∈ l.discover w ↔ ∃ place ∈ w.filesBelow l.root, l.nameOf? place = some name := by
  rw [discover, List.mem_mergeSort, List.mem_filterMap]

theorem exists_stem_of_nameOf? {place : List String} {name : String}
    (h : l.nameOf? place = some name) :
    ∃ directories stem, place = directories ++ [stem ++ "." ++ l.extension] ∧ stem ≠ "" ∧
      '.' ∉ l.extension.toList ∧
      name = "/".intercalate (directories ++ [if stem = "." then ".." else stem]) := by
  have hne : place ≠ [] := by
    rintro rfl
    exact nomatch h
  obtain ⟨directories, file, rfl⟩ := (List.eq_nil_or_concat' place).resolve_left hne
  obtain ⟨stem, rfl, hstem, hdot, hname⟩ := nameOf?_eq_some_iff.1 h
  exact ⟨directories, stem, rfl, hstem, hdot, hname⟩

/-- A discovered name leads back to the file that it was made from, unless it is refused. -/
theorem pathOf_of_nameOf? {place : List String} {name : String}
    (hplace : ∀ s ∈ place, Path.IsName s) (hname : l.nameOf? place = some name) :
    l.pathOf name =
      if '\\' ∈ name.toList ∨ ".." ∈ Path.segments name then .error (.invalidName name)
      else .ok (Path.join l.root ("/".intercalate place)) := by
  obtain ⟨directories, stem, rfl, hstem, -, rfl⟩ := exists_stem_of_nameOf? hname
  rw [List.forall_mem_append, List.forall_mem_singleton] at hplace
  obtain ⟨hdirectories, hfile⟩ := hplace
  have hslash : '/' ∉ stem.toList ∧ '/' ∉ l.extension.toList := by
    simpa using hfile.no_slash
  set own := if stem = "." then ".." else stem with hown
  set name := "/".intercalate (directories ++ [own])
  have hsegments : Path.segments name = directories ++ [own] := by
    apply Path.segments_intercalate (by simp)
    rw [List.forall_mem_append, List.forall_mem_singleton]
    refine ⟨fun s hs => (hdirectories s hs).no_slash, ?_⟩
    rw [hown]
    split
    · decide
    · exact hslash.1
  split
  · next hrefused => exact pathOf_of_refused hrefused
  · next haccepted =>
    obtain ⟨hbackslash, hdots⟩ := not_or.1 haccepted
    have hdots : own ≠ ".." := by
      rintro heq
      exact hdots (by simp [hsegments, heq])
    have hdot : stem ≠ "." := by
      intro heq
      exact hdots (if_pos heq)
    have hown : own = stem := if_neg hdot
    rw [hown] at hsegments hdots
    have hnames : ∀ s ∈ Path.segments name, Path.IsName s := by
      rw [hsegments, List.forall_mem_append, List.forall_mem_singleton]
      exact ⟨hdirectories, hstem, hdot, hdots, hslash.1⟩
    rw [pathOf_of_names hnames hbackslash, fileOf_eq hsegments hslash.2]

theorem no_dot_of_nameOf? {place : List String} {name : String} (h : l.nameOf? place = some name) :
    '.' ∉ l.extension.toList := by
  obtain ⟨-, -, -, -, hdot, -⟩ := exists_stem_of_nameOf? h
  exact hdot

theorem discover_eq_nil (h : '.' ∈ l.extension.toList) (w : Workspace) : l.discover w = [] := by
  rw [List.eq_nil_iff_forall_not_mem]
  intro name hname
  obtain ⟨place, -, hplace⟩ := mem_discover_iff.1 hname
  exact no_dot_of_nameOf? hplace h

/-- The file of a name that discovery could write has that name. -/
theorem nameOf?_segments_fileOf {directories : List String} {stem name : String}
    (hname : Path.segments name = directories ++ [stem]) (hstem : Path.IsName stem)
    (hdot : '.' ∉ l.extension.toList) :
    l.nameOf? (directories ++ [stem ++ "." ++ l.extension]) = some name := by
  rw [nameOf?_eq_some_iff]
  refine ⟨stem, rfl, hstem.ne_empty, hdot, ?_⟩
  rw [if_neg hstem.ne_dot, ← hname, Path.intercalate_segments]

/-- A file is discovered under the name that it is loaded by, unless the extension has a
dot. -/
theorem mem_discover_iff_of_isFile (hw : w.WellFormed) (hroot : w.isDirectory l.root = true)
    (hslash : '/' ∉ l.extension.toList) {name : String}
    (hname : ∀ s ∈ Path.segments name, Path.IsName s)
    (hfile : w.isFile (Path.join l.root (l.fileOf name)) = true) :
    name ∈ l.discover w ↔ '.' ∉ l.extension.toList := by
  rw [mem_discover_iff]
  constructor
  · rintro ⟨place, -, hplace⟩
    exact no_dot_of_nameOf? hplace
  · intro hdot
    obtain ⟨directories, stem, hsegments⟩ :=
      (List.eq_nil_or_concat' (Path.segments name)).resolve_left (Path.segments_ne_nil name)
    rw [hsegments, List.forall_mem_append, List.forall_mem_singleton] at hname
    obtain ⟨hdirectories, hstem⟩ := hname
    refine ⟨directories ++ [stem ++ "." ++ l.extension], ?_,
      nameOf?_segments_fileOf hsegments hstem hdot⟩
    rw [hw.mem_filesBelow_iff hroot (by simp), ← fileOf_eq hsegments hslash]
    · exact hfile
    · rw [List.forall_mem_append, List.forall_mem_singleton]
      exact ⟨hdirectories, hstem.append_dot hslash⟩

theorem load_of_isFile {name path : String} (hpath : l.pathOf name = .ok path)
    (hfile : w.isFile path = true) : l.load w name = (w.read path).mapError .io := by
  rw [load, hpath]
  exact if_pos hfile

theorem no_slash_ofExtension (root : String) {extension : String} (h : '/' ∉ extension.toList) :
    '/' ∉ (ofExtension root extension).extension.toList := by
  intro hmem
  rw [ofExtension, String.toList_ofList] at hmem
  exact h ((List.dropWhile_sublist _).subset hmem)

end Loader

/-! ## Discovery and loading -/

/-- A discovered name leads back to its file, unless it has a backslash or a step back; a name
that leads to a file is discovered, unless the extension has a dot.  The names of a repository
are the discovered ones, and each of them is checked. -/
theorem Loader.discover_agrees (root extension : String) (w : Workspace)
    (hslash : '/' ∉ extension.toList) (hw : w.WellFormed) (hroot : w.isDirectory root = true) :
    let l := Loader.ofExtension root extension
    let r := Repository.ofDirectory root extension
    (∀ name ∈ l.discover w, ∃ place ∈ w.filesBelow root, l.nameOf? place = some name ∧
      let path := Path.join root ("/".intercalate place)
      if '\\' ∈ name.toList ∨ ".." ∈ Path.segments name then
        l.pathOf name = .error (.invalidName name)
      else
        l.pathOf name = .ok path ∧ w.isFile path = true ∧
          l.load w name = (w.read path).mapError .io) ∧
    (∀ name, (∀ s ∈ Path.segments name, Path.IsName s) →
      w.isFile (Path.join root (l.fileOf name)) = true →
      (name ∈ l.discover w ↔ '.' ∉ l.extension.toList)) ∧
    (∀ name, name ∈ r.names w ↔ name ∈ l.discover w) ∧
    (r.check w).1.map (·.1) = r.names w := by
  intro l r
  refine ⟨?_, ?_, fun name => Repository.mem_names_ofDirectory, ?_⟩
  · intro name hname
    obtain ⟨place, hplace, hsome⟩ := mem_discover_iff.1 hname
    obtain ⟨hne, hnames⟩ := hw.isName_of_mem_filesBelow hplace
    have hpath := pathOf_of_nameOf? hnames hsome
    refine ⟨place, hplace, hsome, ?_⟩
    dsimp only
    split
    · next hrefused => rw [hpath, if_pos hrefused]
    · next haccepted =>
      rw [if_neg haccepted] at hpath
      have hfile := (hw.mem_filesBelow_iff hroot hne hnames).1 hplace
      exact ⟨hpath, hfile, load_of_isFile hpath hfile⟩
  · intro name hname hfile
    exact mem_discover_iff_of_isFile hw hroot (no_slash_ofExtension root hslash) hname hfile
  · rw [(Repository.consistent_ofDirectory root extension w).check_eq, List.map_map]
    exact List.map_id' _

/-- The dot in a stem is no obstacle. -/
theorem Loader.discover_agrees_dotted_stem :
    let w := (Workspace.mk .emptyDirectory []).write "t/mail/a.b.mustache" (.text "Hi")
    '/' ∉ ".mustache".toList ∧ w.WellFormed ∧ w.isDirectory "t" = true ∧
      "mail/a.b" ∈ (Repository.ofDirectory "t" ".mustache").names w := by
  intro w
  have hslash : '/' ∉ ".mustache".toList := by decide
  have hw : w.WellFormed := Workspace.WellFormed.write ⟨.emptyDirectory, by simp⟩ _ _
  have hroot : w.isDirectory "t" = true := by decide
  have hagrees := discover_agrees "t" ".mustache" w hslash hw hroot
  refine ⟨hslash, hw, hroot, (hagrees.2.2.1 _).2 ((hagrees.2.1 "mail/a.b" ?_ ?_).2 ?_)⟩
  · decide
  · decide
  · decide

/-- A dot in the extension hides every file, and `..mustache` has a name that is refused. -/
theorem Loader.discover_disagrees :
    let w := (Workspace.mk .emptyDirectory []).write "root/a.b.c" (.text "x")
    let l := Loader.ofExtension "root" "b.c"
    let w' := (Workspace.mk .emptyDirectory []).write "root/..mustache" (.text "x")
    let l' := Loader.ofExtension "root" "mustache"
    l.load w "a" = .ok "x" ∧ l.discover w = [] ∧
      ".." ∈ l'.discover w' ∧ l'.pathOf ".." = .error (.invalidName "..") := by
  intro w l w' l'
  have hw : w'.WellFormed := Workspace.WellFormed.write ⟨.emptyDirectory, by simp⟩ _ _
  have hplace : ["..mustache"] ∈ w'.filesBelow "root" :=
    (hw.mem_filesBelow_iff (by decide) (by simp) (by decide)).2 (by decide)
  have hname : l'.nameOf? ([] ++ ["..mustache"]) = some ".." :=
    nameOf?_eq_some_iff.2 ⟨".", by decide, by decide, by decide, by decide⟩
  refine ⟨?_, ?_, ?_, ?_⟩
  · decide
  · exact discover_eq_nil (by decide) w
  · exact mem_discover_iff.2 ⟨_, hplace, hname⟩
  · decide

end Mustache
