import Mustache.Expr.Basic
import Mustache.Source.Error
import Mustache.Text.Blank

/-!
# Reading expressions

An expression starts with a name or a dot and goes on with member accesses
`.key` and calls `(argument)`.  Names and keys are maximal runs of letters,
digits, `_`, `$`, `@` and `-`.  Blanks may follow an opening parenthesis and
precede a closing one, and nowhere else.

The reader keeps the functions whose argument is still being read on a stack,
so one recursion over the remaining characters reads nested calls as well.
-/

namespace Mustache.Expr

open Mustache.Text

def isNameChar (c : Char) : Bool :=
  c.isAlphanum || c == '_' || c == '$' || c == '@' || c == '-'

/-- The longest name that `s` starts with, and what follows it. -/
def readName? (s : List Char) : Option (String × List Char) :=
  match s.takeWhile isNameChar with
  | [] => none
  | c :: t => some (String.ofList (c :: t), s.dropWhile isNameChar)

theorem length_of_readName? {s rest : List Char} {id : String}
    (h : readName? s = some (id, rest)) : rest.length < s.length := by
  unfold readName? at h
  split at h
  · simp at h
  · next c t htake =>
    obtain ⟨-, rfl⟩ := Prod.mk.inj (Option.some.inj h)
    have hsplit := congrArg List.length (List.takeWhile_append_dropWhile (p := isNameChar) (l := s))
    rw [htake] at hsplit
    simp only [List.length_append, List.length_cons] at hsplit
    omega

/-- The start of an expression: a dot, a dot with a key, or a name. -/
def readHead? : List Char → Option (Expr × List Char)
  | '.' :: s =>
      match readName? s with
      | some (key, rest) => some (.member .implicit key, rest)
      | none => some (.implicit, s)
  | s => (readName? s).map fun (id, rest) => (.name id, rest)

theorem length_of_readHead? {s rest : List Char} {e : Expr}
    (h : readHead? s = some (e, rest)) : rest.length < s.length := by
  unfold readHead? at h
  split at h
  · next t =>
    split at h
    · next key r hname =>
      obtain ⟨-, rfl⟩ := Prod.mk.inj (Option.some.inj h)
      have := length_of_readName? hname
      simp only [List.length_cons]
      omega
    · obtain ⟨-, rfl⟩ := Prod.mk.inj (Option.some.inj h)
      simp
  · obtain ⟨⟨id, r⟩, hname, hpair⟩ := Option.map_eq_some_iff.1 h
    obtain ⟨-, rfl⟩ := Prod.mk.inj hpair
    exact length_of_readName? hname

/-- Reads on after `e`.  `pending` holds the functions of the calls whose
argument `e` is part of, innermost first; the whole text has to be used up when
none is left. -/
def readTail? (pending : List Expr) (e : Expr) (s : List Char) : Option Expr :=
  match s with
  | '.' :: t =>
      match _h : readName? t with
      | some (key, rest) => readTail? pending (.member e key) rest
      | none => none
  | '(' :: t =>
      match _h : readHead? (trimStart t) with
      | some (argument, rest) => readTail? (e :: pending) argument rest
      | none => none
  | s =>
      match pending with
      | [] => if s = [] then some e else none
      | filter :: outer =>
          match _h : trimStart s with
          | ')' :: rest => readTail? outer (.call filter e) rest
          | _ => none
termination_by s.length
decreasing_by
  · have := length_of_readName? _h
    simp only [List.length_cons]
    omega
  · have := length_of_readHead? _h
    have := length_trimStart_le t
    simp only [List.length_cons]
    omega
  · have := length_trimStart_le s
    rw [_h] at this
    simp only [List.length_cons] at this
    omega

/-- The expression that `s` as a whole is the written form of. -/
def read? (s : List Char) : Option Expr :=
  match readHead? s with
  | some (e, rest) => readTail? [] e rest
  | none => none

/-- Reads the expression of a tag on the given line; blanks around it are
ignored. -/
def parse (line : Nat) (s : List Char) : Except CompileError Expr :=
  match trim s with
  | [] => .error (.emptyTag line)
  | c :: t =>
      match read? (c :: t) with
      | some e => .ok e
      | none => .error (.invalidExpression (String.ofList (c :: t)) line)

end Mustache.Expr
