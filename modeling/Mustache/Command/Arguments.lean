import Mustache.Template.Loader

/-!
# Command line arguments

An argument that starts with two dashes is a long option, one that starts with
one dash is a group of short ones, and a lone dash is neither.  An option that
takes a value has it attached, with or without an equals sign, or gets the next
argument, which must not look like an option.  No option may be given twice, and a
path must not be empty.  Behind `--` there are only operands.  Arguments are taken
from left to right, and the first that is at fault or asks for information decides.
-/

namespace Mustache

namespace Command

inductive ValueKind where
  | text
  | path
deriving DecidableEq, Repr

def ValueKind.admits : ValueKind → String → Bool
  | .text, _ => true
  | .path, value => value ≠ ""

/-- An option of the command line, by its long and its short name, and the kind of
its value if it takes one. -/
structure OptionSpec where
  name : String
  short : Option Char := none
  value : Option ValueKind := none

structure Given where
  flags : List String := []
  values : List (String × String) := []
  operand : Option String := none

/-- How a command line fails to be one, or asks for information instead. -/
inductive Refusal where
  | usage
  | help
deriving DecidableEq, Repr

namespace Given

def addFlag (g : Given) (name : String) : Except Refusal Given :=
  if g.flags.contains name then .error .usage else .ok { g with flags := name :: g.flags }

def addValue (g : Given) (name : String) (kind : ValueKind) (value : String) :
    Except Refusal Given :=
  if (g.values.lookup name).isSome || !kind.admits value then .error .usage
  else .ok { g with values := (name, value) :: g.values }

/-- Every command has one operand, which is a path. -/
def addOperand (g : Given) (operand : String) : Except Refusal Given :=
  if g.operand.isSome || !ValueKind.path.admits operand then .error .usage
  else .ok { g with operand := some operand }

end Given

def looksLikeOption (arg : String) : Bool :=
  match arg.toList with
  | '-' :: _ :: _ => true
  | _ => false

/-- The name of an option that still wants its value, and the kind of the value. -/
abbrev Wanting := Option (String × ValueKind)

/-- Takes the short options of a group; the last may want the next argument. -/
def takeGroup (specs : List OptionSpec) (g : Given) :
    List Char → Except Refusal (Given × Wanting)
  | [] => .ok (g, none)
  | c :: rest =>
      if c = 'h' || c = 'V' then .error .help
      else
        match specs.find? fun spec => spec.short == some c with
        | none => .error .usage
        | some spec =>
            match spec.value, rest with
            | some kind, [] => .ok (g, some (spec.name, kind))
            | some kind, '=' :: value => do
                return (← g.addValue spec.name kind (String.ofList value), none)
            | some kind, value => do
                return (← g.addValue spec.name kind (String.ofList value), none)
            | none, rest => do takeGroup specs (← g.addFlag spec.name) rest

/-- Takes a long option; it may want the next argument. -/
def takeLong (specs : List OptionSpec) (g : Given) (arg : List Char) :
    Except Refusal (Given × Wanting) :=
  let name := String.ofList (arg.takeWhile (· ≠ '='))
  let attached :=
    match arg.dropWhile (· ≠ '=') with
    | [] => none
    | _ :: value => some (String.ofList value)
  if (name = "help" || name = "version") && attached.isNone then .error .help
  else
    match specs.find? fun spec => spec.name == name with
    | none => .error .usage
    | some spec =>
        match spec.value, attached with
        | some kind, some value => do return (← g.addValue name kind value, none)
        | some kind, none => .ok (g, some (name, kind))
        | none, none => do return (← g.addFlag name, none)
        | none, some _ => .error .usage

def takeAll (specs : List OptionSpec) (g : Given) (wanting : Wanting) :
    List String → Except Refusal Given
  | [] => if wanting.isSome then .error .usage else .ok g
  | arg :: rest =>
      match wanting with
      | some (name, kind) =>
          if looksLikeOption arg then .error .usage
          else do takeAll specs (← g.addValue name kind arg) none rest
      | none =>
          match arg.toList with
          | ['-', '-'] => rest.foldlM Given.addOperand g
          | '-' :: '-' :: long => do
              let (g, wanting) ← takeLong specs g long
              takeAll specs g wanting rest
          | '-' :: c :: group => do
              let (g, wanting) ← takeGroup specs g (c :: group)
              takeAll specs g wanting rest
          | _ => do takeAll specs (← g.addOperand arg) none rest

/-! ## Commands -/

structure RenderArguments where
  template : String
  data : Option String := none
  partials : Option String := none
  /-- Whether nothing is to be escaped. -/
  asText : Bool := false
  config : Option String := none
  output : Option String := none

structure CheckArguments where
  directory : String
  extension : String := Loader.defaultExtension
  json : Bool := false

end Command

inductive Command where
  | render (arguments : Command.RenderArguments)
  | check (arguments : Command.CheckArguments)

namespace Command

def configVariable : String := "STENCIL_CONFIG"

/-- The options of every command.  They set how much is logged, so they have no
influence on what a command does. -/
def globalOptions : List OptionSpec :=
  [{ name := "verbose", short := some 'v' }, { name := "quiet", short := some 'q' }]

def renderOptions : List OptionSpec :=
  [{ name := "data", short := some 'd', value := some .path },
    { name := "partials", short := some 'p', value := some .path },
    { name := "text" },
    { name := "config", short := some 'c', value := some .path },
    { name := "output", short := some 'o', value := some .path }]

def checkOptions : List OptionSpec :=
  [{ name := "extension", short := some 'e', value := some .text }, { name := "json" }]

/-- How the commands are called. -/
def usage : String :=
  "Usage: render [OPTIONS] TEMPLATE\n" ++
  "       check [OPTIONS] DIRECTORY\n\n" ++
  "Options of render:\n" ++
  "  -d, --data FILE       JSON or YAML data\n" ++
  "  -p, --partials DIR    where partials are, if not beside the template\n" ++
  "      --text            escape nothing\n" ++
  "  -c, --config FILE     YAML configuration\n" ++
  "  -o, --output FILE     where to write the text\n\n" ++
  "Options of check:\n" ++
  "  -e, --extension NAME  the extension of templates\n" ++
  "      --json            report as JSON\n\n" ++
  "Options of both:\n" ++
  "  -v, --verbose\n" ++
  "  -q, --quiet\n" ++
  "  -h, --help\n" ++
  "  -V, --version\n"

/-- The operand of a command, which must not be missing. -/
def requiredOperand (g : Given) : Except Refusal String :=
  match g.operand with
  | some operand => .ok operand
  | none => .error .usage

/-- The configuration may come from the environment if no option names it. -/
def readRender (environment : Option String) (args : List String) :
    Except Refusal RenderArguments := do
  let g ← takeAll (globalOptions ++ renderOptions) {} none args
  let g ←
    match g.values.lookup "config", environment with
    | none, some path => g.addValue "config" .path path
    | _, _ => pure g
  let template ← requiredOperand g
  return {
    template
    data := g.values.lookup "data"
    partials := g.values.lookup "partials"
    asText := g.flags.contains "text"
    config := g.values.lookup "config"
    output := g.values.lookup "output" }

def readCheck (args : List String) : Except Refusal CheckArguments := do
  let g ← takeAll (globalOptions ++ checkOptions) {} none args
  let directory ← requiredOperand g
  return {
    directory
    extension := (g.values.lookup "extension").getD Loader.defaultExtension
    json := g.flags.contains "json" }

/-- What `help` may be asked about; only one thing at a time. -/
def helpTopics : List String := ["render", "check", "help"]

/-- Reads a command line: global options, the name of the command, and the
arguments of the command. -/
def read (environment : Option String) (args : List String) :
    Except Refusal Command := do
  let front := args.takeWhile fun arg => looksLikeOption arg && arg ≠ "--"
  let _ ← takeAll globalOptions {} none front
  match args.drop front.length with
  | "render" :: rest => return .render (← readRender environment rest)
  | "check" :: rest => return .check (← readCheck rest)
  | ["help"] => throw .help
  | ["help", topic] => throw (if helpTopics.contains topic then .help else .usage)
  | _ => throw .usage

end Command

end Mustache
