import Mustache.Text.Quoted
import Mustache.Value.Basic

/-!
# Descriptions of values

A description shows the whole data of a value, the capabilities it has and its
position.  It is meant for people who look for a mistake, not for templates.
-/

namespace Mustache

def describeBool (b : Bool) : String :=
  if b then "true" else "false"

def Position.describe (p : Position) : String :=
  let key :=
    match p.key with
    | none => "None"
    | some k => "Some(" ++ Text.quote k ++ ")"
  "Position \x7b key: " ++ key ++ ", index: " ++ toString p.index ++ ", first: " ++
    describeBool p.first ++ ", last: " ++ describeBool p.last ++ " \x7d"

namespace Value

variable {κ : Type}

mutual

def describe : Value κ → String
  | { data, override, filter, observer, position } =>
      let fields :=
        ["data: " ++ describeData data] ++
        (if override.isSome then ["render: true"] else []) ++
        (if filter.isSome then ["filter: true"] else []) ++
        (if observer.isSome then ["observer: true"] else []) ++
        (match position with
          | none => []
          | some p => ["position: " ++ p.describe])
      "Value \x7b " ++ ", ".intercalate fields ++ " \x7d"

def describeData : Datum (Value κ) → String
  | .empty => Text.quote "empty"
  | .bool b => describeBool b
  | .integer n => toString n.toInt
  | .float x => Decimal.literalText x
  | .string s => Text.quote s
  | .sequence items => "[" ++ ", ".intercalate (describeItems items) ++ "]"
  | .map entries => "\x7b" ++ ", ".intercalate (describeEntries entries) ++ "\x7d"
  | .custom _ _ => Text.quote "custom"

def describeItems : List (Value κ) → List String
  | [] => []
  | v :: rest => describe v :: describeItems rest

def describeEntries : List (String × Value κ) → List String
  | [] => []
  | (key, v) :: rest => (Text.quote key ++ ": " ++ describe v) :: describeEntries rest

end

end Value
end Mustache
