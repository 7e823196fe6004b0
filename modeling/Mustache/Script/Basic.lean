import Mustache.Render.Host

/-!
# Scripted capabilities

A script describes a host capability as data: what a filter computes, how a hook
replaces the value of a tag, what a render override is made of.  Scripts are
handles, so a value whose capabilities are scripts can be written down, compared
with another and rendered again.  A script may hold values, and those may have
scripts of their own.

A script has a name under which its calls are reported, except for the
overrides that a hook wraps around another value.
-/

namespace Mustache

inductive FilterScript (κ : Type) where
  | identity
  | const (v : Value κ)
  | fail (message : String)
  | mismatch (message : String)
  | kind
  | text
  | truthy
  /-- A filter that joins the text so far, a separator and the text of its own
  argument. -/
  | concat (separator : String)
  | prepend (s : String)
  | get (key : String)
  | add (n : Int64)
  | toFloat
  | html
  | repeated (count : Nat)
  | observe (observer : Observer κ)
  | renderWith (override : κ)
  | label

/-- Which tags a scripted hook acts on; an absent part admits every tag. -/
structure TagFilter where
  kind : Option TagKind := none
  expression : Option String := none

namespace TagFilter

def admits (f : TagFilter) (tag : TagInfo) : Bool :=
  f.kind.all (· == tag.kind) && f.expression.all (· == tag.expression)

end TagFilter

inductive Wrapping where
  | upper
  | mark (s : String)

/-- What a scripted hook puts in place of the value of a tag. -/
inductive WillScript (κ : Type) where
  | same
  | replace (v : Value κ)
  | prepend (s : String)
  /-- A value without data that renders like the old one, in upper case. -/
  | upper
  /-- The old value, rendered with a mark before and after its text. -/
  | mark (s : String)
  | double
  | get (key : String)
  | observe (observer : Observer κ)

/-- A step from one scope chain to the next. -/
inductive Push (κ : Type) where
  | extended (v : Value κ)
  | scope (v : Value κ)
  | hook (v : Value κ)
  | reset (standard : Bool)

inductive RequestField where
  | source
  | expression
  | kind
  | contentType
  | scopeLength

/-- One part of the text of a scripted override. -/
inductive TextPart (κ : Type) where
  | literal (s : String)
  | field (f : RequestField)
  | eval (expression : String)
  | inner (pushes : List (Push κ))
  | template (source : String) (pushes : List (Push κ))
  | default (v : Value κ)
  /-- Counts a number in the scope down to zero, once for each expansion of the
  source in it. -/
  | countdown (name source : String)

inductive OverrideScript (κ : Type) where
  | fixed (rendering : Rendering)
  | fail (message : String)
  /-- The joined texts of the parts; the type is that of the document if absent. -/
  | program (parts : List (TextPart κ)) (contentType : Option ContentType)

inductive Script where
  | filter (id : String) (act : FilterScript Script)
  | will (id : String) (tags : TagFilter) (act : WillScript Script)
  | did (id : String)
  | override (id : String) (act : OverrideScript Script)
  /-- Renders a value as it would render itself and changes the text. -/
  | wrapped (v : Value Script) (wrapping : Wrapping)

namespace Script

def id? : Script → Option String
  | .filter id _ | .will id _ _ | .did id | .override id _ => some id
  | .wrapped _ _ => none

end Script
end Mustache
