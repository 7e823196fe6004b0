import Mathlib.Data.String.Basic
import Mustache.Source.Compile

/-!
# The scanning loop over byte offsets

A source is read here by a loop that keeps offsets into its UTF-8 form: where the next turn
begins, up to where lines were counted, and where the body of each open section begins.  Each
turn searches for the opening mark, then for the closing one, and cuts the text, the content of
the tag and the source of a section out of the whole source.  A slice may be out of range, and
marks are just texts, as a tag sets them.
-/

namespace Mustache

open Mustache.Text
open String (utf8Len)

/-- Why the loop does not come to a compiled template. -/
inductive Stop where
  /-- The bounds of a slice are out of order or cut a character in two. -/
  | outOfRange
  | rejected (error : CompileError)

def rejecting {α : Type} (r : Except CompileError α) : Except Stop α :=
  r.mapError .rejected

/-! ## Slices and searches -/

/-- The text between two offsets. -/
def slice (source : String) (first last : Nat) : Except Stop (List Char) :=
  if first ≤ last ∧ String.Pos.Raw.IsValid source ⟨first⟩ ∧ String.Pos.Raw.IsValid source ⟨last⟩
  then .ok (String.Pos.Raw.extract source ⟨first⟩ ⟨last⟩).toList
  else .error .outOfRange

def find? (mark s : List Char) : Option Nat :=
  (breakAt mark s).map fun (before, _) => utf8Len before

theorem isValid_of_toList {source : String} {s t : List Char} (h : source.toList = s ++ t) :
    String.Pos.Raw.IsValid source ⟨utf8Len s⟩ := by
  rw [String.Pos.Raw.isValid_iff_exists_append]
  refine ⟨String.ofList s, String.ofList t, ?_, ?_⟩
  · rw [← String.ofList_append, ← h, String.ofList_toList]
  · rw [String.rawEndPos, String.utf8ByteSize_ofList]

theorem slice_eq_ok {source : String} {s t u : List Char}
    (h : source.toList = s ++ t ++ u) :
    slice source (utf8Len s) (utf8Len s + utf8Len t) = .ok t := by
  have hfirst : String.Pos.Raw.IsValid source ⟨utf8Len s⟩ :=
    isValid_of_toList (h.trans (List.append_assoc s t u))
  have hlast : String.Pos.Raw.IsValid source ⟨utf8Len s + utf8Len t⟩ := by
    rw [← String.utf8Len_append]
    exact isValid_of_toList h
  have hextract := String.extract_of_valid s t u
  rw [← h, String.ofList_toList] at hextract
  rw [slice, if_pos ⟨Nat.le_add_right _ _, hfirst, hlast⟩, hextract, String.toList_ofList]

theorem utf8ByteSize_eq {source : String} {s t : List Char} (h : source.toList = s ++ t) :
    source.utf8ByteSize = utf8Len s + utf8Len t := by
  rw [← String.utf8Len_append, ← h, ← String.utf8ByteSize_ofList, String.ofList_toList]

theorem slice_to_end {source : String} {s t : List Char} (h : source.toList = s ++ t) :
    slice source (utf8Len s) source.utf8ByteSize = .ok t := by
  rw [utf8ByteSize_eq h]
  exact slice_eq_ok (u := []) (by rw [h, List.append_nil])

/-! ## The content of a tag -/

section Content

variable {source : String} {s lead content closing after rest : List Char}

theorem utf8Len_concat_brace (s : List Char) : utf8Len (s ++ ['{']) = utf8Len s + 1 := by
  rw [String.utf8Len_append]
  rfl

theorem utf8Len_content (s lead content closing : List Char) :
    utf8Len (s ++ lead) + utf8Len content + utf8Len closing =
      utf8Len (s ++ (lead ++ content ++ closing)) := by
  simp only [String.utf8Len_append]
  omega

variable (hsource : source.toList = s ++ lead ++ after)
  (hclose : breakAt closing after = some (content, rest))
include hsource hclose

theorem toList_of_content : source.toList = s ++ (lead ++ content ++ closing) ++ rest := by
  rw [hsource, eq_append_of_breakAt hclose]
  simp

theorem slice_content :
    slice source (utf8Len (s ++ lead)) (utf8Len (s ++ lead) + utf8Len content) = .ok content := by
  refine slice_eq_ok (u := closing ++ rest) ?_
  rw [hsource, eq_append_of_breakAt hclose]
  simp

end Content

/-! ## The loop -/

/-- A section that is open, with the nodes in front of it and the offset of its body. -/
structure Unclosed where
  inverted : Bool
  expr : Expr
  line : Nat
  bodyStart : Nat
  parent : List Node

def Unclosed.accepts (o : Unclosed) (line : Nat) (name : List Char) : Except Stop Unit :=
  if name = [] then .ok ()
  else do
    let e ← rejecting (Expr.parse line name)
    if e.text = o.expr.text then .ok ()
    else .error (.rejected (.mismatchedClose o.expr.text (String.ofList name) line))

structure Cursor where
  opener : List Char := Delimiters.standard.opener
  closer : List Char := Delimiters.standard.closer
  /-- The line of the offset `counted`. -/
  line : Nat := 1
  counted : Nat := 0
  contentType : Option ContentType := none
  nodes : List Node := []
  /-- The open sections, innermost first. -/
  opened : List Unclosed := []
  pos : Nat := 0

inductive Turn where
  | next (c : Cursor)
  | finished (compiled : Compiled)

def marks? (s : List Char) : Option (List Char × List Char) :=
  match words s with
  | [o, c] => if '=' ∈ o ∨ '=' ∈ c then none else some (o, c)
  | _ => none

/-- The marks that the trimmed content of a delimiter change sets. -/
def readMarks? : List Char → Option (List Char × List Char)
  | '=' :: s => if s.getLast? = some '=' then marks? s.dropLast else none
  | _ => none

namespace Cursor

def push (c : Cursor) (node : Node) : Cursor :=
  { c with nodes := c.nodes ++ [node] }

def pushText (c : Cursor) : List Char → Cursor
  | [] => c
  | x :: t => c.push (.text (String.ofList (x :: t)))

def pushVariable (c : Cursor) (s : List Char) (escapes : Bool) : Except Stop Cursor := do
  let e ← rejecting (Expr.parse c.line s)
  return c.push (.variableTag e escapes)

def openSection (c : Cursor) (inverted : Bool) (s : List Char) : Except Stop Cursor := do
  let e ← rejecting (Expr.parse c.line s)
  let o : Unclosed := { inverted, expr := e, line := c.line, bodyStart := c.pos, parent := c.nodes }
  return { c with nodes := [], opened := o :: c.opened }

def setMarks (c : Cursor) (content : List Char) : Except Stop Cursor :=
  match readMarks? content with
  | some (opener, closer) => .ok { c with opener, closer }
  | none => .error (.rejected (.invalidDelimiters c.line))

def pushPartial (c : Cursor) (name : List Char) : Except Stop Cursor :=
  if name = [] then .error (.rejected (.emptyTag c.line))
  else .ok (c.push (.partialTag (String.ofList name)))

/-- Closes the innermost section.  The tag begins at the offset `tagStart`. -/
def closeSection (c : Cursor) (source : String) (tagStart : Nat) (name : List Char) :
    Except Stop Cursor :=
  match c.opened with
  | [] => .error (.rejected (.unexpectedClose (String.ofList name) c.line))
  | o :: opened => do
      o.accepts c.line name
      let body ← slice source o.bodyStart tagStart
      let node := Node.sectionTag o.inverted o.expr c.nodes (String.ofList body)
      return { c with nodes := o.parent ++ [node], opened }

/-- Acts on the trimmed content of a tag that ends where the next turn begins. -/
def act (c : Cursor) (source : String) (tagStart : Nat) :
    List Char → Except Stop Cursor
  | [] => .error (.rejected (.emptyTag c.line))
  | sigil :: t =>
      let rest := trim t
      match sigil with
      | '!' => .ok c
      | '=' => c.setMarks (sigil :: t)
      | '%' => .ok { c with contentType := Directive.contentTypePragma? rest <|> c.contentType }
      | '&' => c.pushVariable rest false
      | '>' => c.pushPartial rest
      | '#' => c.openSection false rest
      | '^' => c.openSection true rest
      | '/' => c.closeSection source tagStart rest
      | _ => c.pushVariable (sigil :: t) true

/-- A tag with one more pair of braces, whose content begins at `start`. -/
def braced (c : Cursor) (source : String) (start : Nat) : Except Stop Cursor := do
  let inside ← slice source start source.utf8ByteSize
  match find? ('}' :: c.closer) inside with
  | none => .error (.rejected (.unclosedTag c.line))
  | some length =>
      let content ← slice source start (start + length)
      pushVariable { c with pos := start + length + utf8Len ('}' :: c.closer) } content false

/-- Any other tag: it begins at `tagStart` and its content at `start`. -/
def plain (c : Cursor) (source : String) (tagStart start : Nat) : Except Stop Cursor := do
  let inside ← slice source start source.utf8ByteSize
  match find? c.closer inside with
  | none => .error (.rejected (.unclosedTag c.line))
  | some length =>
      let content ← slice source start (start + length)
      act { c with pos := start + length + utf8Len c.closer } source tagStart (trim content)

def tag (c : Cursor) (source : String) (tagStart : Nat) : Except Stop Cursor := do
  let start := tagStart + utf8Len c.opener
  let inside ← slice source start source.utf8ByteSize
  if inside.head? = some '{' then c.braced source (start + 1)
  else c.plain source tagStart start

/-- The text in front of a tag, which moves the line counter, and the tag. -/
def textAndTag (c : Cursor) (source : String) (tagStart : Nat) : Except Stop Cursor := do
  let text ← slice source c.pos tagStart
  let passed ← slice source c.counted tagStart
  let c := { c.pushText text with line := c.line + passed.count '\n', counted := tagStart }
  c.tag source tagStart

def finish (c : Cursor) (source : String) : Except Stop Compiled := do
  let text ← slice source c.pos source.utf8ByteSize
  let c := c.pushText text
  match c.opened with
  | [] => return { nodes := c.nodes, contentType := c.contentType }
  | o :: _ => .error (.rejected (.unclosedSection o.expr.text o.line))

def tagStart? (c : Cursor) (source : String) : Except Stop (Option Nat) := do
  let rest ← slice source c.pos source.utf8ByteSize
  return (find? c.opener rest).map (c.pos + ·)

def turn (c : Cursor) (source : String) : Except Stop Turn := do
  match ← c.tagStart? source with
  | none => .finished <$> c.finish source
  | some tagStart => .next <$> c.textAndTag source tagStart

/-- The cursors at which a turn begins. -/
inductive Reached (source : String) : Cursor → Prop where
  | start : Reached source {}
  | next {c c' : Cursor} : Reached source c → c.turn source = .ok (.next c') → Reached source c'

/-- One turn; `again` does the turns after it. -/
def loop (source : String) (again : Cursor → Except Stop Compiled) (c : Cursor) :
    Except Stop Compiled := do
  match ← c.turn source with
  | .next c' => again c'
  | .finished compiled => return compiled

end Cursor
end Mustache
