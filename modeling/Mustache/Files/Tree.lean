import Mustache.Entries
import Mustache.Files.Path

/-!
# File trees

A snapshot of a file system: files with their contents and directories with
their entries.  A path is followed segment by segment; a dot stays, two dots go
back to where the directory was entered from, and nothing can be entered but a
directory.
-/

namespace Mustache

inductive IoError where
  | notFound
  | notDirectory
  | isDirectory
  | invalidText
deriving DecidableEq, Repr

namespace IoError

def message : IoError → String
  | .notFound => "No such file or directory (os error 2)"
  | .notDirectory => "Not a directory (os error 20)"
  | .isDirectory => "Is a directory (os error 21)"
  | .invalidText => "stream did not contain valid UTF-8"

end IoError

/-- What a file holds: a text, or bytes that are not the encoding of one. -/
inductive FileContent where
  | text (s : String)
  | bytes (b : ByteArray)

namespace FileContent

def ofBytes (b : ByteArray) : FileContent :=
  match String.fromUTF8? b with
  | some s => .text s
  | none => .bytes b

def read : FileContent → Except IoError String
  | .text s => .ok s
  | .bytes _ => .error .invalidText

end FileContent

inductive FileTree where
  | file (content : FileContent)
  | directory (entries : List (String × FileTree))

namespace FileTree

def emptyDirectory : FileTree := .directory []

instance : Inhabited FileTree := ⟨emptyDirectory⟩

/-- Follows segments from `here`, which was reached through the directories of
`trail`, innermost first.  There is nothing above the outermost directory. -/
def follow (trail : List FileTree) (here : FileTree) : List String → Except IoError FileTree
  | [] => .ok here
  | s :: rest =>
      match here with
      | .file _ => .error .notDirectory
      | .directory entries =>
          if s = "" ∨ s = "." then follow trail here rest
          else if s = ".." then
            match trail with
            | [] => follow [] here rest
            | outer :: trail => follow trail outer rest
          else
            match entries.lookup s with
            | some inner => follow (here :: trail) inner rest
            | none => .error .notFound

/-- The tree with a file at the given place.  Missing directories are made; a
file on the way stays what it is. -/
def write (content : FileContent) : List String → FileTree → FileTree
  | [], _ => .file content
  | s :: rest, .directory entries =>
      let inner := (entries.lookup s).getD emptyDirectory
      .directory ((s, write content rest inner) :: Entries.erase entries s)
  | _ :: _, .file old => .file old

/-- The tree with a directory, if need be an empty one, at the given place. -/
def makeDirectory : List String → FileTree → FileTree
  | s :: rest, .directory entries =>
      let inner := (entries.lookup s).getD emptyDirectory
      .directory ((s, makeDirectory rest inner) :: Entries.erase entries s)
  | _, t => t

/-- The tree without what is at the given place. -/
def remove : List String → FileTree → FileTree
  | [s], .directory entries => .directory (Entries.erase entries s)
  | s :: rest, .directory entries =>
      .directory (entries.map fun (name, t) => (name, if name = s then remove rest t else t))
  | _, t => t

mutual

def filePaths : FileTree → List (List String)
  | .file _ => [[]]
  | .directory entries => entryPaths entries

def entryPaths : List (String × FileTree) → List (List String)
  | [] => []
  | (name, t) :: rest => (filePaths t).map (name :: ·) ++ entryPaths rest

end

end FileTree

/-- A file tree and the directory in it that relative paths start from. -/
structure Workspace where
  root : FileTree
  current : List String := []

namespace Workspace

def walk (w : Workspace) (absolute : Bool) (segments : List String) :
    Except IoError FileTree :=
  FileTree.follow [] w.root (if absolute then segments else w.current ++ segments)

def find (w : Workspace) (path : String) : Except IoError FileTree :=
  if path = "" then .error .notFound else w.walk (Path.isAbsolute path) (Path.segments path)

def isFile (w : Workspace) (path : String) : Bool :=
  match w.find path with
  | .ok (.file _) => true
  | _ => false

def isDirectory (w : Workspace) (path : String) : Bool :=
  match w.find path with
  | .ok (.directory _) => true
  | _ => false

def read (w : Workspace) (path : String) : Except IoError String := do
  match ← w.find path with
  | .file content => content.read
  | .directory _ => .error .isDirectory

/-- The files below the directory at a path, by their components from there. -/
def filesBelow (w : Workspace) (path : String) : List (List String) :=
  match w.find path with
  | .ok (.directory entries) => FileTree.entryPaths entries
  | _ => []

/-- Why no file can be written at a path: its directory has to exist and no
directory may be in its place. -/
def writeError? (w : Workspace) (path : String) : Option IoError :=
  match w.find path with
  | .ok (.file _) => none
  | .ok (.directory _) => some .isDirectory
  | .error .notFound =>
      match (Path.segments path).reverse.dropWhile (· = "") with
      | [] => some .notFound
      | _ :: front =>
          match w.walk (Path.isAbsolute path) front.reverse with
          | .error e => some e
          | .ok _ => if path.toList.getLast? = some '/' then some .isDirectory else none
  | .error e => some e

/-- The workspace after a file has been written, with all directories made that
lead to it. -/
def write (w : Workspace) (path : String) (content : FileContent) : Workspace :=
  { w with root := w.root.write content (Path.resolve w.current path) }

/-- The workspace after a directory has been made, with all directories that lead
to it. -/
def makeDirectory (w : Workspace) (path : String) : Workspace :=
  { w with root := w.root.makeDirectory (Path.resolve w.current path) }

def remove (w : Workspace) (path : String) : Workspace :=
  { w with root := w.root.remove (Path.resolve w.current path) }

end Workspace
end Mustache
