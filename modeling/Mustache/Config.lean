import Mustache.Content

/-!
# Render configuration
-/

namespace Mustache

structure Config where
  contentType : ContentType := .html
  /-- How many partials and expansions of overrides may be open at once. -/
  maxDepth : Nat := 256
deriving DecidableEq, Repr, Inhabited

end Mustache
