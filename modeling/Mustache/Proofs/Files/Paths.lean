import Mustache.Files.Path
import Mathlib.Data.List.Basic

/-!
# Segments of a path

Cutting a path at its slashes and joining texts with slashes undo each other.  What is
appended to a path without a slash goes to its last segment, and where all segments are
names they are also the components.  Where a path leads to is told by its segments, one
step for each.  A file name splits into a stem and an extension in one way: the extension
is what follows the last dot.
-/

namespace Mustache.Path

/-! ## Cutting and joining -/

/-- What is between the slashes. -/
def parts (cs : List Char) : List (List Char) :=
  (cut cs).1 :: (cut cs).2

theorem segments_eq (path : String) :
    segments path = (parts path.toList).map String.ofList := rfl

theorem segments_ne_nil (path : String) : segments path ≠ [] :=
  List.cons_ne_nil _ _

theorem parts_ne_nil (cs : List Char) : parts cs ≠ [] :=
  List.cons_ne_nil _ _

theorem parts_cons_slash (cs : List Char) : parts ('/' :: cs) = [] :: parts cs := by
  simp [parts, cut]

theorem parts_cons {c : Char} {cs first : List Char} {others : List (List Char)} (hc : c ≠ '/')
    (hcs : parts cs = first :: others) : parts (c :: cs) = (c :: first) :: others := by
  obtain ⟨rfl, rfl⟩ := List.cons.inj hcs
  simp [parts, cut, hc]

theorem parts_append_slash (front back : List Char) :
    parts (front ++ '/' :: back) = parts front ++ parts back := by
  induction front with
  | nil => exact parts_cons_slash back
  | cons c front ih =>
      by_cases hc : c = '/'
      · subst hc
        rw [List.cons_append, parts_cons_slash, parts_cons_slash, ih, List.cons_append]
      · obtain ⟨first, others, hfront⟩ := List.exists_cons_of_ne_nil (parts_ne_nil front)
        rw [hfront, List.cons_append] at ih
        rw [List.cons_append, parts_cons hc ih, parts_cons hc hfront, List.cons_append]

theorem parts_of_not_mem {cs : List Char} (h : '/' ∉ cs) : parts cs = [cs] := by
  induction cs with
  | nil => rfl
  | cons c cs ih =>
      rw [List.mem_cons, not_or] at h
      exact parts_cons (Ne.symm h.1) (ih h.2)

theorem intercalate_parts (cs : List Char) : ['/'].intercalate (parts cs) = cs := by
  induction cs with
  | nil => rfl
  | cons c cs ih =>
      by_cases hc : c = '/'
      · subst hc
        rw [parts_cons_slash, List.intercalate_cons_of_ne_nil (parts_ne_nil cs), ih]
        rfl
      · obtain ⟨first, others, hcs⟩ := List.exists_cons_of_ne_nil (parts_ne_nil cs)
        rw [parts_cons hc hcs]
        rw [hcs] at ih
        cases others with
        | nil => rw [List.intercalate_singleton] at ih ⊢; rw [ih]
        | cons other others =>
            rw [List.intercalate_cons_cons] at ih ⊢
            rw [List.cons_append, List.cons_append, ih]

theorem not_mem_of_mem_parts {cs part : List Char} (h : part ∈ parts cs) : '/' ∉ part := by
  induction cs generalizing part with
  | nil =>
      obtain rfl : part = [] := List.mem_singleton.1 h
      exact List.not_mem_nil
  | cons c cs ih =>
      by_cases hc : c = '/'
      · subst hc
        rw [parts_cons_slash, List.mem_cons] at h
        rcases h with rfl | h
        · exact List.not_mem_nil
        · exact ih h
      · obtain ⟨first, others, hcs⟩ := List.exists_cons_of_ne_nil (parts_ne_nil cs)
        rw [parts_cons hc hcs, List.mem_cons] at h
        rcases h with rfl | h
        · rw [List.mem_cons, not_or]
          exact ⟨Ne.symm hc, ih (hcs ▸ List.mem_cons_self)⟩
        · exact ih (hcs ▸ List.mem_cons_of_mem first h)

theorem segments_append_slash (front back : String) :
    segments (front ++ "/" ++ back) = segments front ++ segments back := by
  have hslash : (front ++ "/" ++ back).toList = front.toList ++ '/' :: back.toList := by simp
  rw [segments_eq, hslash, parts_append_slash, List.map_append]
  rfl

theorem segments_of_no_slash {s : String} (h : '/' ∉ s.toList) : segments s = [s] := by
  rw [segments_eq, parts_of_not_mem h]
  simp

theorem segments_intercalate {names : List String} (hne : names ≠ [])
    (h : ∀ s ∈ names, '/' ∉ s.toList) : segments ("/".intercalate names) = names := by
  induction names with
  | nil => exact absurd rfl hne
  | cons s rest ih =>
      rw [List.forall_mem_cons] at h
      have hfirst := segments_of_no_slash h.1
      cases rest with
      | nil => rw [String.intercalate_singleton, hfirst]
      | cons t rest =>
          rw [String.intercalate_cons_cons, segments_append_slash, hfirst,
            ih (List.cons_ne_nil t rest) h.2]
          rfl

theorem intercalate_segments (path : String) : "/".intercalate (segments path) = path := by
  apply String.ext
  rw [String.toList_intercalate, segments_eq, List.map_map]
  have hid : String.toList ∘ String.ofList = id := by
    funext cs
    exact String.toList_ofList
  rw [hid, List.map_id]
  exact intercalate_parts path.toList

theorem no_slash_of_mem_segments {path s : String} (h : s ∈ segments path) : '/' ∉ s.toList := by
  obtain ⟨part, hpart, rfl⟩ := List.mem_map.1 (segments_eq path ▸ h)
  rw [String.toList_ofList]
  exact not_mem_of_mem_parts hpart

/-- What has no slash can only extend the last segment. -/
theorem segments_append {path s last : String} {front : List String}
    (hpath : segments path = front ++ [last]) (hs : '/' ∉ s.toList) :
    segments (path ++ s) = front ++ [last ++ s] := by
  have hbefore : ∀ t ∈ front ++ [last], '/' ∉ t.toList := fun _ ht =>
    no_slash_of_mem_segments (hpath ▸ ht)
  rw [List.forall_mem_append, List.forall_mem_singleton] at hbefore
  have hslash : ∀ t ∈ front ++ [last ++ s], '/' ∉ t.toList := by
    rw [List.forall_mem_append, List.forall_mem_singleton]
    exact ⟨hbefore.1, by simp [hbefore.2, hs]⟩
  have happend : path ++ s = "/".intercalate (front ++ [last ++ s]) := by
    rw [← intercalate_segments path, hpath]
    cases front with
    | nil => simp
    | cons first front =>
        rw [String.intercalate_append_of_ne_nil (List.cons_ne_nil _ _) (List.cons_ne_nil _ _),
          String.intercalate_append_of_ne_nil (List.cons_ne_nil _ _) (List.cons_ne_nil _ _),
          String.intercalate_singleton, String.intercalate_singleton, String.append_assoc]
  rw [happend, segments_intercalate (by simp) hslash]

/-- What a directory can have an entry for. -/
structure IsName (s : String) : Prop where
  ne_empty : s ≠ ""
  ne_dot : s ≠ "."
  ne_dots : s ≠ ".."
  no_slash : '/' ∉ s.toList

theorem isName_iff {s : String} :
    IsName s ↔ s ≠ "" ∧ s ≠ "." ∧ s ≠ ".." ∧ '/' ∉ s.toList :=
  ⟨fun h => ⟨h.ne_empty, h.ne_dot, h.ne_dots, h.no_slash⟩, fun h => ⟨h.1, h.2.1, h.2.2.1, h.2.2.2⟩⟩

instance : DecidablePred IsName := fun _ => decidable_of_iff _ isName_iff.symm

theorem IsName.ofSegment? {s : String} (h : IsName s) :
    Component.ofSegment? s = some (.name s) := by
  simp [Component.ofSegment?, h.ne_empty, h.ne_dot, h.ne_dots]

theorem filterMap_ofSegment? {names : List String} (h : ∀ s ∈ names, IsName s) :
    names.filterMap Component.ofSegment? = names.map .name := by
  rw [← List.filterMap_eq_map']
  exact List.filterMap_congr fun s hs => (h s hs).ofSegment?

theorem IsName.append_dot {stem extension : String} (h : IsName stem)
    (hextension : '/' ∉ extension.toList) : IsName (stem ++ "." ++ extension) where
  ne_empty := by simp
  ne_dot := by
    intro heq
    obtain ⟨c, cs, hcs⟩ := List.exists_cons_of_ne_nil (mt String.toList_eq_nil_iff.1 h.ne_empty)
    have hlist := congrArg String.toList heq
    simp [hcs] at hlist
  ne_dots := by
    intro heq
    obtain ⟨c, cs, hcs⟩ := List.exists_cons_of_ne_nil (mt String.toList_eq_nil_iff.1 h.ne_empty)
    have hlist : c :: (cs ++ '.' :: extension.toList) = ['.', '.'] := by
      simpa [hcs] using congrArg String.toList heq
    obtain ⟨rfl, hrest⟩ := List.cons.inj hlist
    cases cs with
    | nil => exact h.ne_dot (String.ext hcs)
    | cons d cs => simp at hrest
  no_slash := by simp [h.no_slash, hextension]

/-- A path starts with a slash if its first segment is empty and not the only one. -/
theorem not_isAbsolute {path first : String} {rest : List String}
    (hpath : segments path = first :: rest) (hfirst : first ≠ "") : isAbsolute path = false := by
  rw [segments_eq] at hpath
  unfold isAbsolute
  cases hcs : path.toList with
  | nil => rfl
  | cons c cs =>
      have hc : c ≠ '/' := by
        rintro rfl
        rw [hcs, parts_cons_slash] at hpath
        exact hfirst (List.cons.inj hpath).1.symm
      simp [hc]

/-- Two dots are a step back wherever they stand. -/
theorem parent_mem_components {path : String} (h : ".." ∈ segments path) :
    .parent ∈ components path := by
  have hfilter : ∀ rest : List String, ".." ∈ rest →
      Component.parent ∈ rest.filterMap Component.ofSegment? :=
    fun rest hrest => List.mem_filterMap.2 ⟨"..", hrest, rfl⟩
  unfold components
  split
  · next rest hdot =>
    rw [hdot, List.mem_cons] at h
    exact List.mem_cons_of_mem _ (hfilter rest (h.resolve_left (by simp)))
  · exact List.mem_append_right _ (hfilter _ h)

theorem components_of_names {path : String} (h : ∀ s ∈ segments path, IsName s) :
    components path = (segments path).map .name := by
  obtain ⟨first, rest, hpath⟩ := List.exists_cons_of_ne_nil (segments_ne_nil path)
  have hfirst : IsName first := h first (by simp [hpath])
  have hrelative := not_isAbsolute hpath hfirst.ne_empty
  unfold components
  split
  · next rest' hdot => exact absurd rfl (h "." (by simp [hdot])).ne_dot
  · rw [hrelative, filterMap_ofSegment? h]
    rfl

theorem eq_of_ofSegment? {t s : String} (h : Component.ofSegment? t = some (.name s)) :
    t = s ∧ s ≠ "" ∧ s ≠ "." ∧ s ≠ ".." := by
  unfold Component.ofSegment? at h
  split at h
  · exact nomatch h
  · next hne =>
    split at h
    · exact nomatch h
    · next hdots =>
      obtain rfl := Component.name.inj (Option.some.inj h)
      rw [not_or] at hne
      exact ⟨rfl, hne.1, hne.2, hdots⟩

theorem isName_of_mem_components {path s : String} (h : .name s ∈ components path) : IsName s := by
  have hsegment : ∃ t ∈ segments path, Component.ofSegment? t = some (.name s) := by
    unfold components at h
    split at h
    · next rest hdot =>
      rw [List.mem_cons, List.mem_filterMap] at h
      obtain ⟨t, ht, hname⟩ := h.resolve_left nofun
      exact ⟨t, by simp [hdot, ht], hname⟩
    · rw [List.mem_append, List.mem_filterMap] at h
      apply h.resolve_left
      split <;> simp
  obtain ⟨t, ht, hname⟩ := hsegment
  obtain ⟨rfl, hempty, hdot, hdots⟩ := eq_of_ofSegment? hname
  exact ⟨hempty, hdot, hdots, no_slash_of_mem_segments ht⟩

/-- Wherever a path leads to, the way there consists of names. -/
theorem isName_of_mem_resolve {start : List String} (hstart : ∀ s ∈ start, IsName s)
    (path : String) : ∀ s ∈ resolve start path, IsName s := by
  have hcomponents : ∀ s, .name s ∈ components path → IsName s := fun _ =>
    isName_of_mem_components
  unfold resolve
  generalize components path = cs at hcomponents
  induction cs generalizing start with
  | nil => exact hstart
  | cons c cs ih =>
      have hrest : ∀ s, .name s ∈ cs → IsName s := fun s hs =>
        hcomponents s (List.mem_cons_of_mem c hs)
      rw [List.foldl_cons]
      refine ih ?_ hrest
      cases c with
      | root => simp [step]
      | current => exact hstart
      | parent => exact fun s hs => hstart s (List.dropLast_subset _ hs)
      | name t =>
          have ht : IsName t := hcomponents t List.mem_cons_self
          intro s hs
          rw [step, List.mem_append, List.mem_singleton] at hs
          rcases hs with hs | rfl
          · exact hstart s hs
          · exact ht

/-! ## Where segments lead to -/

/-- Where the segments lead to from the directory with the components `start`. -/
def reach (start segments : List String) : List String :=
  (segments.filterMap Component.ofSegment?).foldl step start

section Reach

variable {s : String}

theorem reach_append (start front back : List String) :
    reach start (front ++ back) = reach (reach start front) back := by
  simp [reach]

theorem reach_blank (h : s = "" ∨ s = ".") (start : List String) : reach start [s] = start := by
  simp [reach, Component.ofSegment?, h]

theorem reach_dots (start : List String) : reach start [".."] = start.dropLast := by
  simp [reach, Component.ofSegment?, step]

theorem reach_name (hblank : ¬ (s = "" ∨ s = ".")) (hdots : s ≠ "..") (start : List String) :
    reach start [s] = start ++ [s] := by
  simp [reach, Component.ofSegment?, step, hblank, hdots]

end Reach

/-! ## Joining paths -/

theorem isAbsolute_append {base : String} (hbase : base ≠ "") (rest : String) :
    isAbsolute (base ++ rest) = isAbsolute base := by
  have hne : base.toList ≠ [] := by simpa using hbase
  obtain ⟨c, cs, hcs⟩ := List.exists_cons_of_ne_nil hne
  simp [isAbsolute, hcs]

theorem join_of_relative {base rest : String} (hbase : base ≠ "")
    (hrest : isAbsolute rest = false) :
    join base rest =
      if base.toList.getLast? = some '/' then base ++ rest else base ++ "/" ++ rest := by
  simp [join, hbase, hrest]

theorem isAbsolute_join {base rest : String} (hbase : base ≠ "")
    (hrest : isAbsolute rest = false) : isAbsolute (join base rest) = isAbsolute base := by
  rw [join_of_relative hbase hrest]
  split
  · exact isAbsolute_append hbase rest
  · rw [String.append_assoc]
    exact isAbsolute_append hbase _

theorem join_ne_empty {base rest : String} (hbase : base ≠ "") (hrest : isAbsolute rest = false) :
    join base rest ≠ "" := by
  rw [join_of_relative hbase hrest]
  split <;> simp [hbase]

/-- A slash at the end of the base is not doubled, so the empty segment behind it goes. -/
theorem segments_join {base rest : String} (hbase : base ≠ "") (hrest : isAbsolute rest = false) :
    ∃ front, segments (join base rest) = front ++ segments rest ∧
      (segments base = front ∨ segments base = front ++ [""]) := by
  rw [join_of_relative hbase hrest]
  split
  · next hslash =>
    obtain ⟨front, hfront⟩ := List.getLast?_eq_some_iff.1 hslash
    have hbase : base = String.ofList front ++ "/" := by
      apply String.ext
      simp [hfront]
    refine ⟨segments (String.ofList front), ?_, .inr ?_⟩
    · rw [hbase, segments_append_slash]
    · have hends := segments_append_slash (String.ofList front) ""
      rw [String.append_empty] at hends
      rw [hbase, hends]
      rfl
  · exact ⟨segments base, segments_append_slash base rest, .inl rfl⟩

/-! ## Stems and extensions -/

theorem takeWhile_reverse_append {cs : List Char} (h : '.' ∉ cs) (rest : List Char) :
    (cs.reverse ++ rest).takeWhile (· ≠ '.') = cs.reverse ++ rest.takeWhile (· ≠ '.') := by
  apply List.takeWhile_append_of_pos
  intro c hc
  rw [List.mem_reverse] at hc
  simpa using ne_of_mem_of_not_mem hc h

theorem splitName_of_no_dot {name : String} (h : '.' ∉ name.toList) : splitName name = none := by
  have hall : name.toList.reverse.takeWhile (· ≠ '.') = name.toList.reverse := by
    simpa using takeWhile_reverse_append h []
  simp only [splitName, hall, List.drop_length]

theorem splitName_append {stem extension : String} (h : '.' ∉ extension.toList) :
    splitName (stem ++ "." ++ extension) = if stem = "" then none else some (stem, extension) := by
  have hreverse : (stem ++ "." ++ extension).toList.reverse =
      extension.toList.reverse ++ '.' :: stem.toList.reverse := by simp
  have htake : (extension.toList.reverse ++ '.' :: stem.toList.reverse).takeWhile (· ≠ '.') =
      extension.toList.reverse := by
    rw [takeWhile_reverse_append h]
    simp
  simp only [splitName, hreverse, htake, List.drop_left]
  cases hstem : stem.toList.reverse with
  | nil =>
      have hempty : stem = "" := by simpa using hstem
      rw [if_pos hempty]
  | cons c rest =>
      have hne : stem ≠ "" := by
        rintro rfl
        exact nomatch hstem
      rw [if_neg hne]
      simp [← hstem]

theorem splitName_eq_some_iff {name stem extension : String} :
    splitName name = some (stem, extension) ↔
      name = stem ++ "." ++ extension ∧ stem ≠ "" ∧ '.' ∉ extension.toList := by
  constructor
  · intro hsplit
    by_cases hdot : '.' ∈ name.toList.reverse
    · obtain ⟨back, front, hname, hback⟩ := List.eq_append_cons_of_mem hdot
      obtain ⟨hback, rfl⟩ : '.' ∉ (String.ofList back.reverse).toList ∧
          name = String.ofList front.reverse ++ "." ++ String.ofList back.reverse := by
        constructor
        · simpa using hback
        · apply String.ext
          rw [← List.reverse_inj, hname]
          simp
      rw [splitName_append hback] at hsplit
      split at hsplit
      · exact nomatch hsplit
      · next hne =>
        obtain ⟨rfl, rfl⟩ := Prod.mk.inj (Option.some.inj hsplit)
        exact ⟨rfl, hne, hback⟩
    · rw [splitName_of_no_dot (by simpa using hdot)] at hsplit
      exact nomatch hsplit
  · rintro ⟨rfl, hstem, hextension⟩
    rw [splitName_append hextension, if_neg hstem]

end Mustache.Path
