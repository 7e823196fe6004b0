import Mustache.Decimal.Text
import Mustache.Document

/-!
# Writing JSON

The layout of a document over several lines, with two spaces for each level.
Empty collections stay on one line.  Strings have escapes for quotes, backslashes
and control characters only.
-/

namespace Mustache.Json

def escapeChar (c : Char) : List Char :=
  match c with
  | '"' => ['\\', '"']
  | '\\' => ['\\', '\\']
  | '\x08' => ['\\', 'b']
  | '\x0c' => ['\\', 'f']
  | '\n' => ['\\', 'n']
  | '\r' => ['\\', 'r']
  | '\t' => ['\\', 't']
  | c =>
      if c.toNat < 0x20 then
        let digits := Nat.toDigits 16 c.toNat
        ['\\', 'u'] ++ List.replicate (4 - digits.length) '0' ++ digits
      else [c]

def quote (s : String) : String :=
  String.ofList ('"' :: s.toList.flatMap escapeChar ++ ['"'])

def indentation (level : Nat) : String :=
  "\n" ++ String.ofList (List.replicate (2 * level) ' ')

mutual

def pretty (level : Nat) : Document → String
  | .null => "null"
  | .bool b => if b then "true" else "false"
  | .integer n => toString n
  | .float x => Decimal.literalText x
  | .string s => quote s
  | .array [] => "[]"
  | .array items =>
      "[" ++ ",".intercalate (prettyItems (level + 1) items) ++ indentation level ++ "]"
  | .object [] => "\x7b\x7d"
  | .object entries =>
      "\x7b" ++ ",".intercalate (prettyEntries (level + 1) entries) ++ indentation level ++
        "\x7d"

def prettyItems (level : Nat) : List Document → List String
  | [] => []
  | d :: rest => (indentation level ++ pretty level d) :: prettyItems level rest

def prettyEntries (level : Nat) : List (String × Document) → List String
  | [] => []
  | (key, d) :: rest =>
      (indentation level ++ quote key ++ ": " ++ pretty level d) :: prettyEntries level rest

end

end Mustache.Json
