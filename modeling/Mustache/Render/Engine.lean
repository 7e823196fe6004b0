import Mustache.Render.Evaluate

/-!
# Rendering

A template is rendered node by node in a scope chain.  Each tag is bracketed by
the hooks of its chain: on the way in, from the innermost hook to the outermost,
each may replace the value; on the way out, in the reverse order, each sees the
text of the tag or that there is none.

The depth of a render is bounded by levels: a partial, and whatever a render
override expands, is rendered one level further down, while the body of a section
stays on the level of the section.  On one level the recursion is on the tree.
-/

namespace Mustache

/-- What stays the same during a render. -/
structure Setting (κ : Type) where
  host : Host κ
  /-- The type of the document. -/
  contentType : ContentType
  maxDepth : Nat
  /-- Finds the tree of a partial by its name; absent if there are no partials. -/
  partials : Option (String → Except RenderError (List Node))

/-! ## Hooks -/

/-- The value after all will hooks, each given what the one before it returned,
and the events of calling them. -/
def willPhase {κ : Type} (host : Host κ) (tag : TagInfo) :
    List (Observer κ) → Value κ → List (Event κ) × Value κ
  | [], v => ([], v)
  | o :: rest, v =>
      match o.will with
      | none => willPhase host tag rest v
      | some h =>
          let (events, last) := willPhase host tag rest (host.will h tag v)
          (.will h tag v :: events, last)

/-- The did hooks, outermost first, that see the value and the text of a tag. -/
def didPhase {κ : Type} (tag : TagInfo) (hooks : List (Observer κ)) (v : Value κ)
    (text : Option String) : List (Event κ) :=
  hooks.reverse.filterMap fun o => o.did.map fun h => .did h tag v text

def observe {κ : Type} (host : Host κ) (tag : TagInfo) (hooks : List (Observer κ))
    (candidate : Value κ) (render : Value κ → Run κ String) : Run κ String :=
  let (wills, v) := willPhase host tag hooks candidate
  let rendered := render v
  let dids := didPhase tag hooks v rendered.result.toOption
  { trace := wills.map .event ++ rendered.trace ++ dids.map .event
    result := rendered.result }

/-! ## Tags -/

/-- A tag and the place it is rendered at. -/
structure Site (κ : Type) where
  tag : TagInfo
  scope : ScopeChain κ
  /-- Renders the body of the tag on the level of the tag. -/
  body : ScopeChain κ → Run κ String
  /-- Renders the body of the tag one level further down. -/
  inner : ScopeChain κ → Run κ String
  /-- Renders another tree one level further down. -/
  expand : List Node → ScopeChain κ → Run κ String

/-- Renders the body once for each item, with the item pushed. -/
def renderItems {κ : Type} (scope : ScopeChain κ) (body : ScopeChain κ → Run κ String) :
    List (Value κ) → Run κ String
  | [] => pure ""
  | item :: rest => do
      let first ← body (scope.extended item)
      let others ← renderItems scope body rest
      return first ++ others

namespace Site

variable {κ : Type}

/-- The site of a variable, which has an empty body. -/
def ofVariable (deeper : List Node → ScopeChain κ → Run κ String) (e : Expr)
    (scope : ScopeChain κ) : Site κ where
  tag := .ofVariable e
  scope := scope
  body := fun _ => pure ""
  inner := deeper []
  expand := deeper

/-- The site of a section; `here` renders the body on the level of the section. -/
def ofSection (here : ScopeChain κ → Run κ String)
    (deeper : List Node → ScopeChain κ → Run κ String) (inverted : Bool) (e : Expr)
    (body : List Node) (source : String) (scope : ScopeChain κ) : Site κ where
  tag := .ofSection inverted e source
  scope := scope
  body := here
  inner := deeper body
  expand := deeper

/-- The text of a section for a value.  A falsy value renders nothing, unless it
has an observer to push; a sequence renders the body for each item and any other
value renders it once. -/
def renderSection (site : Site κ) (v : Value κ) : Run κ String :=
  if v.isTruthy then
    match v.items? with
    | some items => renderItems site.scope site.body items
    | none => site.body (site.scope.extended v)
  else if v.observer.isSome then site.body (site.scope.extended v)
  else pure ""

/-- What a tag makes of a value that has no override. -/
def renderDefault (site : Site κ) (contentType : ContentType) (v : Value κ) :
    Run κ Rendering :=
  match site.tag.kind with
  | .variableTag => pure ⟨v.text, .text⟩
  | .sectionTag => do return ⟨← site.renderSection v, contentType⟩
  | .invertedTag =>
      if v.isTruthy then pure ⟨"", contentType⟩
      else do return ⟨← site.body site.scope, contentType⟩

def resume {α : Type} (x : Run κ String) (contentType : ContentType)
    (next : Except RenderError Rendering → Run κ α) : Run κ α :=
  let rest := next (x.result.map fun text => ⟨text, contentType⟩)
  { trace := x.trace ++ rest.trace, result := rest.result }

def perform (site : Site κ) (contentType : ContentType) : Action κ → Run κ Rendering
  | .done result => Run.ofExcept result
  | .log event next => do
      Run.emit event
      site.perform contentType next
  | .inner scope next =>
      resume (.framed .body (site.inner scope)) contentType fun r =>
        site.perform contentType (next r)
  | .expand nodes scope next =>
      resume (.framed .template (site.expand nodes scope)) contentType fun r =>
        site.perform contentType (next r)
  | .fallback v next =>
      let x := site.renderDefault contentType v
      let rest := site.perform contentType (next x.result)
      { trace := x.trace ++ rest.trace, result := rest.result }

/-- What the tag makes of its value.  An inverted section pays no regard to
overrides. -/
def fragment (site : Site κ) (setting : Setting κ) (v : Value κ) : Run κ Rendering :=
  match site.tag.kind with
  | .invertedTag => site.renderDefault setting.contentType v
  | .variableTag | .sectionTag =>
      site.perform setting.contentType
        (v.render setting.host
          { tag := site.tag, scope := site.scope, contentType := setting.contentType })

def renderValue (site : Site κ) (setting : Setting κ) (escapes : Bool) (v : Value κ) :
    Run κ String := do
  return (← site.fragment setting v).embed setting.contentType escapes

/-- Renders the tag: its expression is evaluated, and its value rendered between
the hooks of the chain. -/
def render (site : Site κ) (setting : Setting κ) (expr : Expr) (escapes : Bool) :
    Run κ String := do
  let candidate ← expr.evaluate setting.host site.scope
  observe setting.host site.tag site.scope.hooks candidate (site.renderValue setting escapes)

end Site

/-! ## Trees -/

variable {κ : Type}

mutual

/-- Renders a node; `deeper` renders a tree one level further down. -/
def Node.renderOn (setting : Setting κ) (deeper : List Node → ScopeChain κ → Run κ String) :
    Node → ScopeChain κ → Run κ String
  | .text content, _ => pure content
  | .partialTag name, scope =>
      match setting.partials with
      | none => Run.fail (.partialNotFound name)
      | some resolve =>
          match resolve name with
          | .error e => Run.fail e
          | .ok nodes => .framed (.inclusion name) (deeper nodes scope)
  | .variableTag e escapes, scope =>
      (Site.ofVariable deeper e scope).render setting e escapes
  | .sectionTag inverted e body source, scope =>
      (Site.ofSection (fun c => renderNodesOn setting deeper body c) deeper inverted e body
        source scope).render setting e true

/-- Renders nodes one after the other and joins their texts. -/
def renderNodesOn (setting : Setting κ) (deeper : List Node → ScopeChain κ → Run κ String) :
    List Node → ScopeChain κ → Run κ String
  | [], _ => pure ""
  | node :: rest, scope => do
      let first ← node.renderOn setting deeper scope
      let others ← renderNodesOn setting deeper rest scope
      return first ++ others

end

def renderLevels (setting : Setting κ) : Nat → List Node → ScopeChain κ → Run κ String
  | 0, _, _ => Run.fail (.recursionLimit setting.maxDepth)
  | levels + 1, nodes, scope => renderNodesOn setting (renderLevels setting levels) nodes scope

/-- Renders a tree.  At most `maxDepth` frames may be open at the same time. -/
def renderTree (setting : Setting κ) (nodes : List Node) (scope : ScopeChain κ) :
    Run κ String :=
  renderLevels setting (setting.maxDepth + 1) nodes scope

end Mustache
