import Mustache.Expr.Basic

/-!
# Template trees

A compiled template is a list of nodes.  A section keeps the source text of its
body beside the compiled body, because host code may ask for either.
-/

namespace Mustache

inductive Node where
  | text (content : String)
  | variableTag (expr : Expr) (escapes : Bool)
  | sectionTag (inverted : Bool) (expr : Expr) (body : List Node) (source : String)
  /-- A template included by name. -/
  | partialTag (name : String)
deriving Repr, Inhabited

inductive TagKind where
  | variableTag
  | sectionTag
  | invertedTag
deriving DecidableEq, Repr, Inhabited

namespace TagKind

def ofInverted : Bool → TagKind
  | false => .sectionTag
  | true => .invertedTag

end TagKind

/-- The view of a tag that hooks and render overrides get. -/
structure TagInfo where
  kind : TagKind
  expression : String
  /-- The source of the body, for sections of either kind. -/
  source : Option String
deriving DecidableEq, Repr, Inhabited

namespace TagInfo

def ofVariable (e : Expr) : TagInfo :=
  { kind := .variableTag, expression := e.text, source := none }

def ofSection (inverted : Bool) (e : Expr) (source : String) : TagInfo :=
  { kind := .ofInverted inverted, expression := e.text, source := some source }

end TagInfo
end Mustache
