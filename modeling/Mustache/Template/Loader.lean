import Mustache.Template.Error

/-!
# Loading templates from a directory

The name of a template is the path of its file below a root directory, without
the extension.  A name is a relative path that stays below the root, so it has no
component that goes back and no backslash, with which a path could hide one.
-/

namespace Mustache

structure Loader where
  root : String
  extension : String
deriving DecidableEq, Repr

namespace Loader

def defaultExtension : String := "mustache"

/-- An extension may be given with dots in front of it. -/
def ofExtension (root extension : String) : Loader where
  root := root
  extension := String.ofList (extension.toList.dropWhile (· == '.'))

/-- Whether a name leads from the root down and nowhere else, with at least one
step. -/
def isValidName (name : String) : Bool :=
  let components := Path.components name
  !components.isEmpty && components.all (·.name?.isSome) && !name.toList.contains '\\'

def fileOf (l : Loader) (name : String) : String :=
  name ++ "." ++ l.extension

def pathOf (l : Loader) (name : String) : Except TemplateError String :=
  if isValidName name then .ok (Path.join l.root (l.fileOf name))
  else .error (.invalidName name)

def load (l : Loader) (w : Workspace) (name : String) : Except TemplateError String := do
  let path ← l.pathOf name
  if w.isFile path then (w.read path).mapError .io
  else .error (.notFound name)

/-- The name of the template in a file, which is given by the names of the
directories from the root to it and its own.  A stem that is a single dot keeps the
dot of the extension, so `..mustache` has the name `..`. -/
def nameOf? (l : Loader) (names : List String) : Option String :=
  match names.reverse with
  | [] => none
  | last :: parents =>
      match Path.splitName last with
      | some (stem, extension) =>
          if extension = l.extension then
            let own := if stem = "." then ".." else stem
            some ("/".intercalate (own :: parents).reverse)
          else none
      | none => none

/-- The names of all templates below the root, sorted. -/
def discover (l : Loader) (w : Workspace) : List String :=
  ((w.filesBelow l.root).filterMap l.nameOf?).mergeSort

end Loader
end Mustache
