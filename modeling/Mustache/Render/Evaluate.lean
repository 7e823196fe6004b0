import Mustache.Expr.Basic
import Mustache.Library
import Mustache.Render.Host

/-!
# Evaluation of expressions

Only the first name of a path is looked up in the scope chain; every key after
it is looked up in the value found so far, and whatever is missing is empty.
In a call the function is evaluated first, then the argument, and only then is
the function called, so only calls can fail.
-/

namespace Mustache

variable {κ : Type}

/-- Calls a filter, which is an event whatever comes of it. -/
def Filter.call (host : Host κ) (f : Filter κ) (argument : Value κ) : Run κ (Value κ) := do
  Run.emit (.filter f argument)
  Run.ofExcept <|
    match f with
    | .standard filter => filter.apply argument
    | .host handle => host.filter handle argument

namespace Expr

def evaluate (host : Host κ) (scope : ScopeChain κ) : Expr → Run κ (Value κ)
  | .implicit => pure scope.top
  | .name id => pure (scope.resolve id)
  | .member base key => do
      let value ← evaluate host scope base
      return (value.lookup key).getD .empty
  | .call f a => do
      let function ← evaluate host scope f
      let argument ← evaluate host scope a
      match function.filter with
      | some filter => filter.call host argument
      | none => Run.fail (.filterNotCallable f.text)

end Expr
end Mustache
