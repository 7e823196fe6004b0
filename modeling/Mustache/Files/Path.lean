/-!
# Paths

A path is a text whose segments are separated by slashes.  Taken apart, it has
components: the root, the directory it starts from, steps back and names.  Empty
segments and dots other than a leading one are no components, so `a//./b/` has the
components `a` and `b`.
-/

namespace Mustache.Path

/-- Cuts a text at its slashes: what is before the first one, and the parts behind
it. -/
def cut : List Char → List Char × List (List Char)
  | [] => ([], [])
  | c :: rest =>
      let (first, others) := cut rest
      if c = '/' then ([], first :: others) else (c :: first, others)

/-- The texts between slashes, empty ones included. -/
def segments (path : String) : List String :=
  let (first, others) := cut path.toList
  String.ofList first :: others.map String.ofList

def isAbsolute (path : String) : Bool :=
  path.toList.head? = some '/'

inductive Component where
  | root
  | current
  | parent
  | name (s : String)
deriving DecidableEq, Repr

namespace Component

/-- The component of a segment that is not the first of a path. -/
def ofSegment? (s : String) : Option Component :=
  if s = "" ∨ s = "." then none else if s = ".." then some .parent else some (.name s)

/-- The root is what comes before the first slash. -/
def text : Component → String
  | .root => ""
  | .current => "."
  | .parent => ".."
  | .name s => s

def name? : Component → Option String
  | .name s => some s
  | .root | .current | .parent => none

end Component

def components (path : String) : List Component :=
  match segments path with
  | "." :: rest => .current :: rest.filterMap Component.ofSegment?
  | all =>
      (if isAbsolute path then [.root] else []) ++ all.filterMap Component.ofSegment?

def ofComponents : List Component → String
  | [.root] => "/"
  | cs => "/".intercalate (cs.map Component.text)

/-- The name at the end of a path, if it ends in one. -/
def fileName? (path : String) : Option String :=
  (components path).getLast?.bind Component.name?

/-- Splits a file name at its last dot; there is nothing to split if it has no
dot other than at its start. -/
def splitName (name : String) : Option (String × String) :=
  let reversed := name.toList.reverse
  let extension := reversed.takeWhile (· ≠ '.')
  match reversed.drop extension.length with
  | _dot :: c :: stem =>
      some (String.ofList (c :: stem).reverse, String.ofList extension.reverse)
  | _ => none

def extension? (path : String) : Option String :=
  (fileName? path).bind fun name => (splitName name).map (·.2)

def join (base rest : String) : String :=
  if isAbsolute rest || base = "" then rest
  else if base.toList.getLast? = some '/' then base ++ rest
  else base ++ "/" ++ rest

/-- The path without its last component; the root has no parent. -/
def parent? (path : String) : Option String :=
  match (components path).reverse with
  | [] | .root :: _ => none
  | _ :: front => some (ofComponents front.reverse)

/-- Follows a component from the place with the components `reached`. -/
def step (reached : List String) : Component → List String
  | .root => []
  | .current => reached
  | .parent => reached.dropLast
  | .name s => reached ++ [s]

/-- Where a path leads to from the directory with the components `start`. -/
def resolve (start : List String) (path : String) : List String :=
  (components path).foldl step start

end Mustache.Path
