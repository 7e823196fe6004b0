import Mustache.Render.Error
import Mustache.Scope
import Mustache.Text.Blank
import Mustache.Text.Casing

/-!
# The standard library

The filters at the bottom of every template's scope chain.  Any scope above may
shadow them.  `each` gives the elements of a collection their positions; the
case filters work on the text of a scalar; `isEmpty` and `isBlank` answer with a
boolean; `HTMLEscape` escapes the text of a scalar once and for all, so that no
tag escapes it again.
-/

namespace Mustache

namespace StandardFilter

def all : List StandardFilter :=
  [.each, .uppercase, .lowercase, .capitalized, .isEmpty, .isBlank, .htmlEscape]

def key : StandardFilter → String
  | .each => "each"
  | .uppercase => "uppercase"
  | .lowercase => "lowercase"
  | .capitalized => "capitalized"
  | .isEmpty => "isEmpty"
  | .isBlank => "isBlank"
  | .htmlEscape => "HTMLEscape"

variable {κ : Type}

/-- Gives each entry of a map its position and its key. -/
def positionEntries (entries : List (String × Value κ)) : List (Value κ) :=
  entries.mapIdx fun i (k, v) =>
    { v with position := some (.ofIndex i entries.length (some k)) }

/-- Gives each item of a sequence its position. -/
def positionItems (items : List (Value κ)) : List (Value κ) :=
  items.mapIdx fun i v => { v with position := some (.ofIndex i items.length none) }

def mismatch (f : StandardFilter) (expected : String) (v : Value κ) : RenderError :=
  .argumentMismatch f.key s!"expected a {expected}, got {v.kind.name}"

/-- Converts the text of a scalar, which stays empty if it has no data. -/
def convertText (f : StandardFilter) (convert : List Char → List Char) (v : Value κ) :
    Except RenderError (Value κ) :=
  match v.kind, v.text? with
  | .empty, _ => .ok .empty
  | _, some s => .ok (.ofString (String.ofList (convert s.toList)))
  | _, none => .error (f.mismatch "scalar" v)

def isBlankValue (v : Value κ) : Bool :=
  !v.isTruthy || (v.string?.map fun s => s.toList.all Text.isBlank).getD false

def apply (f : StandardFilter) (v : Value κ) : Except RenderError (Value κ) :=
  match f with
  | .each =>
      match v.data with
      | .map entries => .ok (.ofList (positionEntries entries))
      | .sequence items => .ok (.ofList (positionItems items))
      | .empty => .ok .empty
      | _ => .error (f.mismatch "collection" v)
  | .uppercase => f.convertText Text.upper v
  | .lowercase => f.convertText Text.lower v
  | .capitalized => f.convertText Text.capitalize v
  | .isEmpty => .ok (.ofBool (!v.isTruthy))
  | .isBlank => .ok (.ofBool (isBlankValue v))
  | .htmlEscape =>
      match v.text? with
      | some s => .ok { override := some (.fixed ⟨escapeHtml s, .html⟩) }
      | none => .error (f.mismatch "scalar" v)

end StandardFilter

def standardLibrary {κ : Type} : Value κ :=
  .ofEntries (StandardFilter.all.map fun f => (f.key, { filter := some (.standard f) }))

def ScopeChain.standard {κ : Type} : ScopeChain κ :=
  ScopeChain.empty.withScope standardLibrary

end Mustache
