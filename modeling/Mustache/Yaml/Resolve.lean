import Mustache.Decimal.Read
import Mustache.Document
import Mustache.Yaml.Tree

/-!
# Meaning of YAML trees

A quoted scalar is a string.  A plain one is whatever it looks like: nothing, a
boolean, an integer in one of four bases, a float, and otherwise a string.  Digits
behind a zero are not a number.  A document has strings for keys, and the text of
any scalar serves as one.  Its collections may be nested 128 deep.
-/

namespace Mustache.Yaml

/-- Whether the text is several digits of which the first is a zero. -/
def hasIdleZero (s : List Char) : Bool :=
  let digits :=
    match s with
    | '-' :: t | '+' :: t => t
    | t => t
  1 < digits.length && digits.head? = some '0' && digits.all Char.isDigit

def basedNat? (s : List Char) : Option Nat :=
  match s with
  | '0' :: 'x' :: digits => natOf? 16 digits
  | '0' :: 'o' :: digits => natOf? 8 digits
  | '0' :: 'b' :: digits => natOf? 2 digits
  | _ => none

/-- A number without a sign, or with a plus. -/
def readUnsigned? (s : List Char) : Option Nat :=
  let digits :=
    match s with
    | '+' :: t => t
    | t => t
  basedNat? digits <|> if hasIdleZero s then none else natOf? 10 digits

def readNegative? (s : List Char) : Option Nat :=
  match s with
  | '-' :: digits => basedNat? digits <|> if hasIdleZero s then none else natOf? 10 digits
  | _ => none

/-- An integer, unless it takes more than 128 bits; one that takes more than 64 is
an error. -/
def integer? (s : List Char) : Option (Option Document) :=
  match readUnsigned? s, readNegative? s with
  | some n, _ =>
      if n < UInt64.size then some (some (.integer n))
      else if n < 1 <<< 128 then some none
      else none
  | none, some n =>
      if n ≤ 1 <<< 63 then some (some (.integer (-n)))
      else if n ≤ 1 <<< 127 then some none
      else none
  | none, none => none

/-- A float; those that are not finite have no meaning in a document. -/
def float? (s : List Char) : Option Document :=
  let unsigned :=
    match s with
    | '+' :: t => t
    | t => t
  if [".inf", ".Inf", ".INF"].contains (String.ofList unsigned) ||
      ["-.inf", "-.Inf", "-.INF", ".nan", ".NaN", ".NAN"].contains (String.ofList s) then
    some .null
  else
    match s with
    | '+' :: '+' :: _ | '+' :: '-' :: _ => none
    | _ =>
        match Decimal.read? unsigned with
        | some x => if x.isFinite then some (.float x) else none
        | none => none

def plainDocument? (text : String) : Option Document :=
  if ["", "null", "Null", "NULL", "~"].contains text then some .null
  else if ["true", "True", "TRUE"].contains text then some (.bool true)
  else if ["false", "False", "FALSE"].contains text then some (.bool false)
  else
    match integer? text.toList with
    | some result => result
    | none =>
        if hasIdleZero text.toList then some (.string text)
        else some ((float? text.toList).getD (.string text))

namespace Tree

mutual

/-- What a tree denotes, unless a key is not a scalar or a number is out of range. -/
def meaning? : Tree → Option Document
  | .scalar text true => plainDocument? text
  | .scalar text false => some (.string text)
  | .sequence items => (itemMeanings? items).map .array
  | .mapping entries => (entryMeanings? entries).map fun es => .object (Entries.ofList es)

def itemMeanings? : List Tree → Option (List Document)
  | [] => some []
  | t :: rest => do
      let first ← meaning? t
      let others ← itemMeanings? rest
      return first :: others

def entryMeanings? : List (Tree × Tree) → Option (List (String × Document))
  | [] => some []
  | (.scalar key _, t) :: rest => do
      let first ← meaning? t
      let others ← entryMeanings? rest
      return (key, first) :: others
  | _ :: _ => none

end

def maxDepth : Nat := 128

/-- The document of a tree that is not nested too deep. -/
def document? (t : Tree) : Option Document :=
  if t.depth ≤ maxDepth then t.meaning? else none

end Tree
end Mustache.Yaml
