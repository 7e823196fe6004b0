import Mustache.Render.Trace

/-!
# Hosts

A host says what the handles in its values mean.  Filters and will hooks are
functions.  A render override may use the engine while it runs, so it is an
action: a tree that ends in a fragment or an error and on the way asks the engine
to render something and goes on with what comes back.  Being a tree, it always
ends; that an override expands itself again and again shows in the depth of the
frames it opens, not in the tree.
-/

namespace Mustache

/-- What a render override gets to know of the tag it renders. -/
structure Request (κ : Type) where
  tag : TagInfo
  scope : ScopeChain κ
  /-- The type of the document. -/
  contentType : ContentType

inductive Action (κ : Type) where
  | done (result : Except RenderError Rendering)
  | log (event : Event κ) (next : Action κ)
  /-- Renders the body of the tag in the given scope; variables have an empty one. -/
  | inner (scope : ScopeChain κ) (next : Except RenderError Rendering → Action κ)
  | expand (nodes : List Node) (scope : ScopeChain κ)
      (next : Except RenderError Rendering → Action κ)
  /-- Renders a value as the tag does when there is no override. -/
  | fallback (value : Value κ) (next : Except RenderError Rendering → Action κ)

structure Host (κ : Type) where
  filter : κ → Value κ → Except RenderError (Value κ)
  /-- The value to go on with in place of the given one. -/
  will : κ → TagInfo → Value κ → Value κ
  override : κ → Request κ → Action κ

namespace Action

variable {κ : Type}

/-- Logs the steps that are events, then goes on. -/
def logAll (events : List (Event κ)) (next : Action κ) : Action κ :=
  events.foldr .log next

/-- Goes on with what a run comes to, after logging its events. -/
def ofRun {α : Type} (x : Run κ α) (next : Except RenderError α → Action κ) : Action κ :=
  logAll x.events (next x.result)

end Action

/-- The action that renders a value for a tag: the value's override if it has
one, and otherwise what the tag does by default. -/
def Value.render {κ : Type} (host : Host κ) (v : Value κ) (request : Request κ) : Action κ :=
  match v.override with
  | none => .fallback v .done
  | some o =>
      .log (.override o request.tag request.contentType)
        (match o with
          | .fixed rendering => .done (.ok rendering)
          | .host handle => host.override handle request)

end Mustache
