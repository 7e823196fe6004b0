import Mustache.Command.Arguments
import Mustache.Data
import Mustache.Json.Print
import Mustache.Template.Repository
import Mustache.Text.Quoted

/-!
# Commands

A command runs on a snapshot of the files and comes to what it prints, the text of
an error, an exit code and, for a render, a file that is to be written.  The exit
code tells the stage of a failure apart: 3 for a template that does not compile,
4 for one that cannot be rendered, 2 for something that is not there and 1 for
everything else.  The readers of data and configurations are given.
-/

namespace Mustache.Command

/-- The error that a failure goes back to. -/
inductive Cause where
  | template (error : TemplateError)
  | io (error : IoError)

/-- Why a command failed, and while doing what. -/
structure Failure where
  context : String
  cause : Option Cause

namespace Failure

/-- The whole story in one line.  A template error is followed by the error that
it wraps. -/
def message (f : Failure) : String :=
  match f.cause with
  | none => f.context
  | some (.io e) => f.context ++ ": " ++ e.message
  | some (.template e) =>
      let source := (e.sourceMessage?.map (": " ++ ·)).getD ""
      f.context ++ ": " ++ e.message ++ source

def exitCode (f : Failure) : Nat :=
  match f.cause with
  | some (.template (.compile _)) => 3
  | some (.template (.render _)) => 4
  | some (.template (.notFound _)) | some (.template (.invalidName _)) => 2
  | some (.template (.io .notFound)) | some (.io .notFound) => 2
  | _ => 1

end Failure

structure Outcome where
  stdout : String := ""
  /-- A file to write, with its contents. -/
  output : Option (String × String) := none
  failure : Option Failure := none

namespace Outcome

def exitCode (o : Outcome) : Nat :=
  (o.failure.map (·.exitCode)).getD 0

def files (o : Outcome) (w : Workspace) : Workspace :=
  match o.output with
  | none => w
  | some (path, text) => w.write path (.text text)

end Outcome

def orFail {ε α : Type} (wrap : ε → Cause) (action path : String) (result : Except ε α) :
    Except Failure α :=
  result.mapError fun e => { context := action ++ " " ++ Text.quote path, cause := some (wrap e) }

/-- There are no capabilities of a host in data that comes from files. -/
def noHost : Host Empty where
  filter := nofun
  will := nofun
  override := nofun

/-! ## Rendering -/

/-- The partials of a template are in the given directory, or in that of the
template, and have the extension of the template. -/
def partialsRepository (a : RenderArguments) : Repository :=
  let extension := (Path.extension? a.template).getD Loader.defaultExtension
  let root := a.partials.getD ((Path.parent? a.template).getD "")
  .ofDirectory root extension

/-- The text of a template file.  The stages come in this order: configuration,
template, data, compilation, rendering. -/
def renderText (formats : Formats) (w : Workspace) (a : RenderArguments) :
    Except Failure String := do
  let config : Config ←
    match a.config with
    | some path => orFail .template "Failed to load config" path (formats.loadConfig w path)
    | none => pure {}
  let config := if a.asText then { config with contentType := .text } else config
  let source ← orFail .io "Failed to read template" a.template (w.read a.template)
  let data : Value Empty ←
    match a.data with
    | some path => orFail .template "Failed to load data" path (formats.loadData w path)
    | none => pure .empty
  let template ←
    orFail (.template ∘ .compile) "Failed to compile" a.template
      (Template.ofSource source config)
  let (outcome, _) := (partialsRepository a).render w noHost template data
  orFail (.template ∘ .render) "Failed to render" a.template outcome.result

def missingFile? (a : RenderArguments) (o : Outcome) : Option String :=
  match o.failure.bind (·.cause), (partialsRepository a).loader with
  | some (.template (.render (.partialNotFound name))), some l => (l.pathOf name).toOption
  | _, _ => none

def runRender (formats : Formats) (w : Workspace) (a : RenderArguments) : Outcome :=
  match renderText formats w a with
  | .error f => { failure := some f }
  | .ok text =>
      match a.output with
      | none => { stdout := text }
      | some path =>
          match w.writeError? path with
          | none => { output := some (path, text) }
          | some e =>
              { failure := some {
                  context := "Failed to write " ++ Text.quote path, cause := some (.io e) } }

/-! ## Checking -/

abbrev CheckResult := String × Option TemplateError

def failedCount (results : List CheckResult) : Nat :=
  results.countP (·.2.isSome)

/-- The report as text, a line or two for each template. -/
def textReport (results : List CheckResult) : String :=
  let entry : CheckResult → String
    | (name, none) => "  ok    " ++ name ++ "\n"
    | (name, some e) => "  FAIL  " ++ name ++ "\n        " ++ e.message ++ "\n"
  let failed := failedCount results
  if results.isEmpty then "No templates found\n"
  else
    s!"Checking {results.length} template(s)...\n\n" ++ "".intercalate (results.map entry) ++
      s!"\nResults: {results.length - failed} passed, {failed} failed\n"

/-- The report as a JSON array, with an error where there is one. -/
def jsonReport (results : List CheckResult) : String :=
  let entry : CheckResult → Document := fun (name, error) =>
    .object (
      [("name", .string name), ("ok", .bool error.isNone)] ++
      (error.map fun e => ("error", .string e.message)).toList)
  Json.pretty 0 (.array (results.map entry)) ++ "\n"

def runCheck (w : Workspace) (a : CheckArguments) : Outcome :=
  if w.isDirectory a.directory then
    let (results, _) := (Repository.ofDirectory a.directory a.extension).check w
    let context := s!"{failedCount results} of {results.length} templates failed to compile"
    { stdout := if a.json then jsonReport results else textReport results
      failure := (results.findSome? (·.2)).map fun e =>
        { context, cause := some (.template e) } }
  else
    { failure := some {
        context := "Templates directory not found: " ++ Text.quote a.directory
        cause := none } }

def run (formats : Formats) (w : Workspace) : Command → Outcome
  | .render a => runRender formats w a
  | .check a => runCheck w a

end Mustache.Command
