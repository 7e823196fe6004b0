import Mustache.Document
import Mustache.Entries
import Mustache.Json.Token

/-!
# Reading JSON

The reader keeps the arrays and objects that are still open on a stack and takes
the tokens one by one; what it expects next depends on the last token.  A key may
be repeated in an object: its first place and its last value count.  Collections
may be nested 127 deep.
-/

namespace Mustache.Json

/-- A collection that is still open, its last item first. -/
inductive Opened where
  | array (items : List Document)
  | object (entries : List (String × Document)) (key : String)

inductive Expected where
  | value
  | itemOrEnd
  | keyOrEnd
  | key
  | colon
  | commaOrEnd
  | nothing (document : Document)

def maxDepth : Nat := 127

def object (entries : List (String × Document)) : Document :=
  .object (Entries.ofList entries.reverse)

def place (d : Document) : List Opened → List Opened × Expected
  | [] => ([], .nothing d)
  | .array items :: outer => (.array (d :: items) :: outer, .commaOrEnd)
  | .object entries key :: outer => (.object ((key, d) :: entries) key :: outer, .commaOrEnd)

/-- Takes the first token of a document. -/
def begin (opened : List Opened) : Token → Option (List Opened × Expected)
  | .null => some (place .null opened)
  | .bool b => some (place (.bool b) opened)
  | .integer n => some (place (.integer n) opened)
  | .float x => some (place (.float x) opened)
  | .string s => some (place (.string s) opened)
  | .openArray =>
      if opened.length < maxDepth then some (.array [] :: opened, .itemOrEnd) else none
  | .openObject =>
      if opened.length < maxDepth then some (.object [] "" :: opened, .keyOrEnd) else none
  | .closeArray | .closeObject | .comma | .colon => none

def step : List Opened → Expected → Token → Option (List Opened × Expected)
  | opened, .value, t => begin opened t
  | .array items :: outer, .itemOrEnd, .closeArray => some (place (.array items.reverse) outer)
  | opened, .itemOrEnd, t => begin opened t
  | .object entries _ :: outer, .keyOrEnd, .closeObject => some (place (object entries) outer)
  | .object entries _ :: outer, .keyOrEnd, .string key
  | .object entries _ :: outer, .key, .string key =>
      some (.object entries key :: outer, .colon)
  | opened, .colon, .colon => some (opened, .value)
  | .array items :: outer, .commaOrEnd, .comma => some (.array items :: outer, .value)
  | .array items :: outer, .commaOrEnd, .closeArray => some (place (.array items.reverse) outer)
  | .object entries key :: outer, .commaOrEnd, .comma => some (.object entries key :: outer, .key)
  | .object entries _ :: outer, .commaOrEnd, .closeObject => some (place (object entries) outer)
  | _, _, _ => none

def parse? (text : String) : Option Document := do
  let tokens ← tokens? text.toList
  let (_, expected) ← tokens.foldlM (fun (opened, e) t => step opened e t) ([], .value)
  match expected with
  | .nothing d => some d
  | _ => none

end Mustache.Json
