/-!
# Expressions

An expression names a value: the innermost scope itself, a name looked up in
the scopes, a member of another value, or the result of calling one value as a
filter on another.  `Expr.text` is the written form of an expression; hooks see
it, error messages name values by it, and a closing tag has to repeat it.
-/

namespace Mustache

inductive Expr where
  /-- The innermost scope, written as a single dot. -/
  | implicit
  | name (id : String)
  | member (base : Expr) (key : String)
  | call (filter argument : Expr)
deriving DecidableEq, Repr, Inhabited

namespace Expr

/-- The path through the given names; the empty path is the innermost scope. -/
def path : List String → Expr
  | [] => .implicit
  | first :: keys => keys.foldl .member (.name first)

/-- The written form.  A member of the innermost scope has one dot, not two. -/
def text : Expr → String
  | .implicit => "."
  | .name id => id
  | .member .implicit key => "." ++ key
  | .member base key => base.text ++ "." ++ key
  | .call filter argument => filter.text ++ "(" ++ argument.text ++ ")"

end Expr
end Mustache
