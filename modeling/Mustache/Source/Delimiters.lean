import Mustache.Text.Blank

/-!
# Delimiters

A tag stands between an opening and a closing mark.  Both are non-empty, so
reading a tag always uses up some of the source.  `breakAt` cuts a text at the
first occurrence of a mark.
-/

namespace Mustache

open Mustache.Text

/-- Cuts `s` at the first occurrence of `mark` into what precedes it and what
follows it. -/
def breakAt (mark s : List Char) : Option (List Char × List Char) :=
  if mark.isPrefixOf s then some ([], s.drop mark.length)
  else
    match s with
    | [] => none
    | c :: t => (breakAt mark t).map fun (before, after) => (c :: before, after)

theorem eq_append_of_breakAt {mark s before after : List Char}
    (h : breakAt mark s = some (before, after)) : s = before ++ mark ++ after := by
  induction s generalizing before with
  | nil =>
      unfold breakAt at h
      split at h
      · next hmark =>
        obtain ⟨rfl, rfl⟩ := Prod.mk.inj (Option.some.inj h)
        exact (List.prefix_iff_eq_append.1 (List.isPrefixOf_iff_prefix.1 hmark)).symm
      · simp at h
  | cons c t ih =>
      unfold breakAt at h
      split at h
      · next hmark =>
        obtain ⟨rfl, rfl⟩ := Prod.mk.inj (Option.some.inj h)
        exact (List.prefix_iff_eq_append.1 (List.isPrefixOf_iff_prefix.1 hmark)).symm
      · obtain ⟨⟨b, a⟩, hbreak, hpair⟩ := Option.map_eq_some_iff.1 h
        obtain ⟨rfl, rfl⟩ := Prod.mk.inj hpair
        simp [ih hbreak]

theorem length_of_breakAt {mark s before after : List Char}
    (h : breakAt mark s = some (before, after)) :
    s.length = before.length + mark.length + after.length := by
  rw [eq_append_of_breakAt h, List.length_append, List.length_append]

structure Delimiters where
  opener : List Char
  closer : List Char
  opener_ne_nil : opener ≠ []
  closer_ne_nil : closer ≠ []
deriving DecidableEq, Repr

namespace Delimiters

/-- Double braces, in force at the start of every source. -/
def standard : Delimiters where
  opener := ['{', '{']
  closer := ['}', '}']
  opener_ne_nil := by decide
  closer_ne_nil := by decide

instance : Inhabited Delimiters :=
  ⟨standard⟩

theorem closer_length_pos (d : Delimiters) : 0 < d.closer.length :=
  List.length_pos_iff.2 d.closer_ne_nil

/-- The marks between the two equals signs of a delimiter change: two words,
neither with an equals sign in it. -/
def ofMarks? (s : List Char) : Option Delimiters :=
  match _h : words s with
  | [o, c] =>
      if '=' ∈ o ∨ '=' ∈ c then none
      else some {
        opener := o
        closer := c
        opener_ne_nil := ne_nil_of_mem_words (s := s) (by simp [_h])
        closer_ne_nil := ne_nil_of_mem_words (s := s) (by simp [_h]) }
  | _ => none

/-- Reads the trimmed content of a delimiter change, equals signs included. -/
def read? : List Char → Option Delimiters
  | '=' :: s => if s.getLast? = some '=' then ofMarks? s.dropLast else none
  | _ => none

end Delimiters
end Mustache
