import Mustache.Value.Basic

/-!
# Documents

What a text of data, in JSON or in YAML, denotes.  A document becomes a value
without capabilities; integers that do not fit into 64 bits with a sign become
floats.
-/

namespace Mustache

inductive Document where
  | null
  | bool (b : Bool)
  | integer (n : Int)
  | float (x : Float)
  | string (s : String)
  | array (items : List Document)
  | object (entries : List (String × Document))
deriving Inhabited

namespace Document

variable {κ : Type}

def integerValue (n : Int) : Value κ :=
  if Int64.minValue.toInt ≤ n ∧ n ≤ Int64.maxValue.toInt then .ofInt (.ofInt n)
  else .ofFloat (.ofInt n)

mutual

def toValue : Document → Value κ
  | .null => .empty
  | .bool b => .ofBool b
  | .integer n => integerValue n
  | .float x => .ofFloat x
  | .string s => .ofString s
  | .array items => .ofList (itemValues items)
  | .object entries => .ofEntries (entryValues entries)

def itemValues : List Document → List (Value κ)
  | [] => []
  | d :: rest => toValue d :: itemValues rest

def entryValues : List (String × Document) → List (String × Value κ)
  | [] => []
  | (key, d) :: rest => (key, toValue d) :: entryValues rest

end

end Document
end Mustache
