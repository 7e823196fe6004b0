import Mustache.Render.Evaluate
import Mustache.Script.Basic
import Mustache.Source.Compile

/-!
# The host of scripts

How scripts are carried out.  Filters and hooks are plain functions of what they
are given.  An override becomes an action whose parts run one after another; the
first part that fails decides.  Wrapping a value asks for the rendering the value
would have had, its own override included, which is why an override is carried
out by recursion on scripts.
-/

namespace Mustache

namespace TagKind

def words : TagKind → String
  | .variableTag => "variable"
  | .sectionTag => "section"
  | .invertedTag => "inverted section"

end TagKind

namespace FilterScript

def act (id : String) (f : FilterScript Script) (x : Value Script) :
    Except RenderError (Value Script) :=
  match f with
  | .identity => .ok x
  | .const v => .ok v
  | .fail message => .error (.customFailure message)
  | .mismatch message => .error (.argumentMismatch id message)
  | .kind => .ok (.ofString x.kind.name)
  | .text => .ok ((x.text?.map .ofString).getD .empty)
  | .truthy => .ok (.ofBool x.isTruthy)
  | .concat separator =>
      .ok { filter := some (.host (.filter (id ++ "+") (.prepend (x.text ++ separator)))) }
  | .prepend s => .ok (.ofString (s ++ x.text))
  | .get key => .ok ((x.lookup key).getD .empty)
  | .add n => .ok ((x.int?.map fun m => .ofInt (m + n)).getD .empty)
  | .toFloat => .ok ((x.float?.map .ofFloat).getD .empty)
  | .html => .ok { override := some (.fixed ⟨x.text, .html⟩) }
  | .repeated count => .ok (.ofList (List.replicate count x))
  | .observe observer => .ok { x with observer := some observer }
  | .renderWith override => .ok { x with override := some (.host override) }
  | .label =>
      match x.data with
      | .custom name _ => .ok (.ofString name)
      | _ => .ok .empty

end FilterScript

namespace WillScript

def act (w : WillScript Script) (v : Value Script) : Value Script :=
  match w with
  | .same => v
  | .replace new => new
  | .prepend s => .ofString (s ++ v.text)
  | .upper => { override := some (.host (.wrapped v .upper)) }
  | .mark s => { v with override := some (.host (.wrapped v (.mark s))) }
  | .double => .ofList [v, v]
  | .get key => (v.lookup key).getD .empty
  | .observe observer => { v with observer := some observer }

end WillScript

namespace Push

variable {κ : Type}

def apply (c : ScopeChain κ) : Push κ → ScopeChain κ
  | .extended v => c.extended v
  | .scope v => c.withScope v
  | .hook v => c.withHook v
  | .reset true => .standard
  | .reset false => .empty

def applyAll (c : ScopeChain κ) (pushes : List (Push κ)) : ScopeChain κ :=
  pushes.foldl apply c

end Push

namespace RequestField

def read {κ : Type} (request : Request κ) : RequestField → String
  | .source => request.tag.source.getD "(none)"
  | .expression => request.tag.expression
  | .kind => request.tag.kind.words
  | .contentType => request.contentType.name
  | .scopeLength => toString request.scope.links.length

end RequestField

/-- A value as the host of scripts calls filters on it, which is all that
evaluating an expression asks of a host. -/
def scriptFilter : Script → Value Script → Except RenderError (Value Script)
  | .filter id f, x => f.act id x
  | _, x => .ok x

def scriptWill : Script → TagInfo → Value Script → Value Script
  | .will _ tags w, tag, v => if tags.admits tag then w.act v else v
  | _, _, v => v

def filterHost : Host Script where
  filter := scriptFilter
  will := scriptWill
  override := fun _ _ => .done (.ok ⟨"", .text⟩)

namespace TextPart

def takeText (next : Except RenderError String → Action Script)
    (r : Except RenderError Rendering) : Action Script :=
  next (r.map (·.text))

/-- Expands the template with the given source; one that does not compile is a
failure of the override. -/
def expandSource (source : String) (scope : ScopeChain Script)
    (next : Except RenderError String → Action Script) : Action Script :=
  match compile source with
  | .ok compiled => .expand compiled.nodes scope (takeText next)
  | .error e => next (.error (.customFailure e.message))

def act (request : Request Script) (part : TextPart Script)
    (next : Except RenderError String → Action Script) : Action Script :=
  match part with
  | .literal s => next (.ok s)
  | .field f => next (.ok (f.read request))
  | .eval expression =>
      match Expr.parse 1 expression.toList with
      | .ok e =>
          .ofRun (e.evaluate filterHost request.scope) fun r => next (r.map (·.text))
      | .error e => next (.error (.customFailure e.message))
  | .inner pushes => .inner (Push.applyAll request.scope pushes) (takeText next)
  | .template source pushes =>
      expandSource source (Push.applyAll request.scope pushes) next
  | .default v => .fallback v (takeText next)
  | .countdown name source =>
      let n := ((request.scope.resolve name).int?).getD 0
      if n ≤ 0 then next (.ok "0")
      else
        let smaller := Value.ofEntries [(name, .ofInt (n - 1))]
        expandSource source (request.scope.withScope smaller) fun r =>
          next (r.map fun text => toString n.toInt ++ " " ++ text)

/-- Carries out the parts in order and joins their texts. -/
def actAll (request : Request Script) :
    List (TextPart Script) → (Except RenderError String → Action Script) → Action Script
  | [], next => next (.ok "")
  | part :: rest, next =>
      part.act request fun
        | .error e => next (.error e)
        | .ok first => actAll request rest fun r => next (r.map (first ++ ·))

end TextPart

namespace OverrideScript

def act (request : Request Script) (o : OverrideScript Script) : Action Script :=
  match o with
  | .fixed rendering => .done (.ok rendering)
  | .fail message => .done (.error (.customFailure message))
  | .program parts contentType =>
      TextPart.actAll request parts fun r =>
        .done (r.map fun text => ⟨text, contentType.getD request.contentType⟩)

end OverrideScript

namespace Wrapping

def apply (w : Wrapping) (r : Rendering) : Rendering :=
  match w with
  | .upper => { r with text := String.ofList (r.text.toList.map Char.toUpper) }
  | .mark s => { r with text := s ++ r.text ++ s }

end Wrapping

namespace Action

variable {κ : Type}

def mapDone (f : Rendering → Rendering) : Action κ → Action κ
  | .done result => .done (result.map f)
  | .log event next => .log event (mapDone f next)
  | .inner scope next => .inner scope fun r => mapDone f (next r)
  | .expand nodes scope next => .expand nodes scope fun r => mapDone f (next r)
  | .fallback v next => .fallback v fun r => mapDone f (next r)

end Action

namespace Script

def act (request : Request Script) : Script → Action Script
  | .override _ o => o.act request
  | .wrapped ⟨_, some (.host s), _, _, _⟩ w =>
      .log (.override (.host s) request.tag request.contentType)
        ((act request s).mapDone w.apply)
  | .wrapped v w => (v.render filterHost request).mapDone w.apply
  | .filter _ _ | .will _ _ _ | .did _ => .done (.ok ⟨"", .text⟩)

def host : Host Script where
  filter := scriptFilter
  will := scriptWill
  override := fun s request => act request s

end Script
end Mustache
