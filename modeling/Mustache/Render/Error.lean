/-!
# Rendering errors

Why a render can fail.  A failed render has no output at all.
-/

namespace Mustache

inductive RenderError where
  | filterNotCallable (name : String)
  | customFailure (message : String)
  | recursionLimit (limit : Nat)
  | argumentMismatch (filter message : String)
  | partialNotFound (name : String)
  | invalidPartial (name message : String)
deriving DecidableEq, Repr

namespace RenderError

def message : RenderError → String
  | .filterNotCallable name => s!"Filter not callable: {name}"
  | .customFailure message => s!"Custom rendering failed: {message}"
  | .recursionLimit limit =>
      s!"Recursion limit exceeded: more than {limit} nested renderings"
  | .argumentMismatch filter message => s!"Argument mismatch in filter {filter}: {message}"
  | .partialNotFound name => s!"Partial not found: {name}"
  | .invalidPartial name message => s!"Invalid partial {name}: {message}"

end RenderError
end Mustache
