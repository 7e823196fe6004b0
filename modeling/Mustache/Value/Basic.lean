import Mustache.Content
import Mustache.Decimal.Text
import Mustache.Entries

/-!
# Values

A value carries data of one shape and, besides, any of three capabilities: an
override that renders it in place of the engine, a filter that makes it
callable, and an observer whose hooks see the tags rendered while it is in
scope.  What host code does is not part of a value: a capability of the host is
a handle of some type `κ`, which the host interprets when the engine calls it.
-/

namespace Mustache

inductive Kind where
  | empty
  | bool
  | integer
  | float
  | string
  | sequence
  | map
  | custom
deriving DecidableEq, Repr, Inhabited

def Kind.name : Kind → String
  | .empty => "Empty"
  | .bool => "Bool"
  | .integer => "Integer"
  | .float => "Float"
  | .string => "String"
  | .sequence => "Sequence"
  | .map => "Map"
  | .custom => "Custom"

/-- Data whose elements are of type `α`. -/
inductive Datum (α : Type) where
  | empty
  | bool (b : Bool)
  | integer (n : Int64)
  | float (x : Float)
  | string (s : String)
  | sequence (items : List α)
  /-- A keyed collection in the order of insertion. -/
  | map (entries : List (String × α))
  /-- An object of the host, which may answer for keys. -/
  | custom (label : String) (answer : Option (String → Option α))

structure Position where
  key : Option String
  index : Nat
  first : Bool
  last : Bool
deriving DecidableEq, Repr, Inhabited

namespace Position

def ofIndex (index length : Nat) (key : Option String) : Position where
  key := key
  index := index
  first := index = 0
  last := index + 1 = length

end Position

/-- The filters that every template can call. -/
inductive StandardFilter where
  | each
  | uppercase
  | lowercase
  | capitalized
  | isEmpty
  | isBlank
  | htmlEscape
deriving DecidableEq, Repr

inductive Override (κ : Type) where
  /-- Always the same fragment. -/
  | fixed (rendering : Rendering)
  | host (handle : κ)
deriving Repr

inductive Filter (κ : Type) where
  | standard (filter : StandardFilter)
  | host (handle : κ)
deriving Repr

/-- A pair of hooks, each of which may be absent: one may replace the value of
a tag before it is rendered, the other sees the result. -/
structure Observer (κ : Type) where
  will : Option κ
  did : Option κ
deriving Repr

structure Value (κ : Type) where
  data : Datum (Value κ) := .empty
  override : Option (Override κ) := none
  filter : Option (Filter κ) := none
  observer : Option (Observer κ) := none
  position : Option Position := none

namespace Value

variable {κ : Type}

/-- The value without data or capabilities; it stands for whatever is missing. -/
def empty : Value κ := {}

instance : Inhabited (Value κ) := ⟨empty⟩

def ofBool (b : Bool) : Value κ := { data := .bool b }

def ofInt (n : Int64) : Value κ := { data := .integer n }

def ofFloat (x : Float) : Value κ := { data := .float x }

def ofString (s : String) : Value κ := { data := .string s }

def ofList (items : List (Value κ)) : Value κ := { data := .sequence items }

/-- A count, as an integer if it fits and as a float otherwise. -/
def ofNat (n : Nat) : Value κ :=
  if n ≤ Int64.maxValue.toInt then ofInt (.ofNat n) else ofFloat (.ofNat n)

/-- A keyed collection; a repeated key keeps its first place and its last
value. -/
def ofEntries (entries : List (String × Value κ)) : Value κ :=
  { data := .map (Entries.ofList entries) }

def kind (v : Value κ) : Kind :=
  match v.data with
  | .empty => .empty
  | .bool _ => .bool
  | .integer _ => .integer
  | .float _ => .float
  | .string _ => .string
  | .sequence _ => .sequence
  | .map _ => .map
  | .custom _ _ => .custom

/-- Missing data, `false` and empty collections are falsy, all else is truthy. -/
def isTruthy (v : Value κ) : Bool :=
  match v.data with
  | .empty => false
  | .bool b => b
  | .sequence items => !items.isEmpty
  | .map entries => !entries.isEmpty
  | .integer _ | .float _ | .string _ | .custom _ _ => true

def bool? (v : Value κ) : Option Bool :=
  match v.data with
  | .bool b => some b
  | _ => none

def int? (v : Value κ) : Option Int64 :=
  match v.data with
  | .integer n => some n
  | _ => none

/-- The number as a float; integers are converted. -/
def float? (v : Value κ) : Option Float :=
  match v.data with
  | .integer n => some n.toFloat
  | .float x => some x
  | _ => none

def string? (v : Value κ) : Option String :=
  match v.data with
  | .string s => some s
  | _ => none

def items? (v : Value κ) : Option (List (Value κ)) :=
  match v.data with
  | .sequence items => some items
  | _ => none

def entries? (v : Value κ) : Option (Entries (Value κ)) :=
  match v.data with
  | .map entries => some entries
  | _ => none

/-- What the value has under a key.  Besides the entries of maps and custom
objects, a string has its length, in code points, and a sequence its count and
its first and last elements. -/
def lookup (v : Value κ) (key : String) : Option (Value κ) :=
  match v.data with
  | .map entries => entries.lookup key
  | .string s => if key = "length" then some (ofNat s.length) else none
  | .sequence items =>
      if key = "count" then some (ofNat items.length)
      else if key = "first" then some (items.head?.getD empty)
      else if key = "last" then some (items.getLast?.getD empty)
      else none
  | .custom _ (some answer) => answer key
  | .custom _ none | .empty | .bool _ | .integer _ | .float _ => none

/-- The text of a scalar; collections and custom objects have none. -/
def text? (v : Value κ) : Option String :=
  match v.data with
  | .empty => some ""
  | .bool b => some (if b then "true" else "false")
  | .integer n => some (toString n.toInt)
  | .float x => some (Decimal.plainText x)
  | .string s => some s
  | .sequence _ | .map _ | .custom _ _ => none

/-- The text of a scalar, and nothing for any other value. -/
def text (v : Value κ) : String :=
  v.text?.getD ""

end Value
end Mustache
