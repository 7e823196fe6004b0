import Mustache.Files.Tree
import Mustache.Render.Error
import Mustache.Source.Error

/-!
# Template errors

Everything that can go wrong between the name of a template and its text.  The
errors of compilation, rendering and reading files are wrapped, so that the stage
of a failure stays visible.
-/

namespace Mustache

inductive TemplateError where
  | notFound (name : String)
  | invalidName (name : String)
  | compile (error : CompileError)
  | render (error : RenderError)
  | io (error : IoError)
  /-- A text that should be JSON is not, in the words of its reader. -/
  | json (refusal : String)
  /-- A text that should be YAML, or a YAML configuration, is not. -/
  | yaml (refusal : String)
deriving DecidableEq, Repr

namespace TemplateError

def message : TemplateError → String
  | .notFound name => s!"Template not found: {name}"
  | .invalidName name => s!"Invalid template name: {name}"
  | .compile e => "Compilation failed: " ++ e.message
  | .render e => "Rendering failed: " ++ e.message
  | .io e => "IO error: " ++ e.message
  | .json refusal => "JSON error: " ++ refusal
  | .yaml refusal => "YAML error: " ++ refusal

def sourceMessage? : TemplateError → Option String
  | .compile e => some e.message
  | .render e => some e.message
  | .io e => some e.message
  | .json refusal | .yaml refusal => some refusal
  | .notFound _ | .invalidName _ => none

end TemplateError
end Mustache
