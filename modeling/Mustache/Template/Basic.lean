import Mustache.Config
import Mustache.Render.Engine
import Mustache.Source.Compile
import Mustache.Template.Error

/-!
# Templates

A template is a compiled tree, ready to be rendered any number of times.  Every
render starts from the base context of the template: the standard library, then
what has been added to it.
-/

namespace Mustache

structure Template (κ : Type) where
  nodes : List Node
  config : Config
  base : ScopeChain κ

namespace Template

variable {κ : Type}

/-- A content type pragma takes precedence over the configuration. -/
def ofCompiled (compiled : Compiled) (config : Config) : Template κ where
  nodes := compiled.nodes
  config := { config with contentType := compiled.contentType.getD config.contentType }
  base := .standard

def ofSource (source : String) (config : Config) : Except CompileError (Template κ) := do
  return ofCompiled (← compile source) config

/-- Pushes a value on the base context, as a hook too if it has an observer. -/
def extendBase (t : Template κ) (v : Value κ) : Template κ :=
  { t with base := t.base.extended v }

/-- Registers a hook that is no scope. -/
def registerHook (t : Template κ) (v : Value κ) : Template κ :=
  { t with base := t.base.withHook v }

def setting (t : Template κ) (host : Host κ)
    (partials : Option (String → Except RenderError (List Node))) : Setting κ where
  host := host
  contentType := t.config.contentType
  maxDepth := t.config.maxDepth
  partials := partials

def render (t : Template κ) (host : Host κ)
    (partials : Option (String → Except RenderError (List Node))) (data : Value κ) :
    Run κ String :=
  renderTree (t.setting host partials) t.nodes (t.base.extended data)

end Template
end Mustache
