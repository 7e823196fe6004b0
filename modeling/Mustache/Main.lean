import Mustache.Command.Run
import Mustache.Data.Formats

/-!
# The program

Enters the files that a command asks for into a workspace, runs the command there,
writes the file and prints the texts that it comes to.  Partials are entered when a
render has looked for them in vain, so the rest of their directory stays unread.
-/

open Mustache

/-- Enters what is at a path: a directory without its entries, or a file. -/
def enterPlace (w : Workspace) (path : String) : IO Workspace := do
  let place := (← IO.currentDir) / path
  if ← place.isDir then return w.makeDirectory path
  else
    match ← (IO.FS.readBinFile place).toBaseIO with
    | .ok bytes => return w.write path (.ofBytes bytes)
    | .error _ => return w

def enter (w : Workspace) (path : String) : IO Workspace :=
  let components := Path.components path
  (List.range components.length).foldlM
    (fun w n => enterPlace w (Path.ofComponents (components.take (n + 1)))) w

/-- Enters all files below a directory that have the given extension.  Links are not
followed. -/
partial def enterBelow (w : Workspace) (extension path : String) : IO Workspace := do
  let entries ← ((← IO.currentDir) / path).readDir
  entries.foldlM
    (fun w entry => do
      let inner := Path.join path entry.fileName
      match (← entry.path.symlinkMetadata).type with
      | .dir => enterBelow w extension inner
      | .file => if Path.extension? inner = some extension then enterPlace w inner else return w
      | _ => return w)
    w

/-- Renders, and renders again whenever a partial was missing that does exist. -/
partial def renderEntering (w : Workspace) (a : Command.RenderArguments) :
    IO Command.Outcome := do
  let outcome := Command.runRender .standard w a
  match Command.missingFile? a outcome with
  | none => return outcome
  | some path =>
      let more ← enter w path
      if more.isFile path then renderEntering more a else return outcome

def runCommand (w : Workspace) : Command → IO Command.Outcome
  | .render a => do
      let given := [a.config, some a.template, a.data, a.output].filterMap id
      let parents := (a.output.bind Path.parent?).toList
      renderEntering (← (given ++ parents).foldlM enter w) a
  | .check a => do
      let w ← enter w a.directory
      let l := Loader.ofExtension a.directory a.extension
      let w ← if w.isDirectory a.directory then enterBelow w l.extension l.root else pure w
      return Command.runCheck w a

def main (args : List String) : IO UInt32 := do
  match Command.read (← IO.getEnv Command.configVariable) args with
  | .error .help =>
      IO.print Command.usage
      return 0
  | .error .usage =>
      IO.eprint Command.usage
      return 2
  | .ok command =>
      let here := Path.resolve [] (← IO.currentDir).toString
      let start : Workspace :=
        { root := FileTree.emptyDirectory.makeDirectory here, current := here }
      let outcome ← runCommand start command
      IO.print outcome.stdout
      if let some (path, text) := outcome.output then
        IO.FS.writeFile path text
      if let some failure := outcome.failure then
        IO.eprintln ("Error: " ++ failure.message)
      return outcome.exitCode.toUInt32
