import Mustache.Template.Basic
import Mustache.Template.Loader

/-!
# Repositories

A repository holds named templates that can include each other.  Sources are
registered in memory or, for names that are not registered, read from a directory.
What has been compiled is kept until the source of that name is registered anew.
It is kept only if no source has been registered since its own was looked up, for
then it may be outdated already.

Rendering asks for partials while the repository stays as it is; afterwards the
partials that were found are kept as well.
-/

namespace Mustache

structure Repository where
  loader : Option Loader := none
  sources : Entries String := []
  /-- The templates compiled so far. -/
  cache : Entries Compiled := []
  /-- How many sources have been registered. -/
  generation : Nat := 0

/-- What there is for a name before anything is compiled. -/
inductive Lookup where
  | cached (compiled : Compiled)
  /-- The source of the name in this generation of the repository. -/
  | source (text : String) (generation : Nat)

namespace Repository

def ofDirectory (root extension : String) : Repository :=
  { loader := some (.ofExtension root extension) }

/-- Registers a source, in place of any earlier one of that name. -/
def register (r : Repository) (name source : String) : Repository :=
  { r with
    sources := r.sources.insert name source
    cache := r.cache.erase name
    generation := r.generation + 1 }

def source (r : Repository) (w : Workspace) (name : String) : Except TemplateError String :=
  match r.sources.lookup name, r.loader with
  | some s, _ => .ok s
  | none, some l => l.load w name
  | none, none => .error (.notFound name)

def lookup (r : Repository) (w : Workspace) (name : String) : Except TemplateError Lookup :=
  match r.cache.lookup name with
  | some compiled => .ok (.cached compiled)
  | none => do return .source (← r.source w name) r.generation

/-- Keeps what a source of the given generation was compiled to. -/
def store (r : Repository) (name : String) (generation : Nat) (compiled : Compiled) :
    Repository :=
  if r.generation = generation then { r with cache := r.cache.insert name compiled } else r

/-- Asks for a compiled template, which the repository keeps. -/
def fetch (r : Repository) (w : Workspace) (name : String) :
    Except TemplateError Compiled × Repository :=
  match r.lookup w name with
  | .error e => (.error e, r)
  | .ok (.cached compiled) => (.ok compiled, r)
  | .ok (.source text generation) =>
      match compile text with
      | .error e => (.error (.compile e), r)
      | .ok compiled => (.ok compiled, r.store name generation compiled)

/-- The compiled template of a name. -/
def find (r : Repository) (w : Workspace) (name : String) : Except TemplateError Compiled :=
  (r.fetch w name).1

/-- The repository after each of the named templates has been asked for. -/
def fetchAll (r : Repository) (w : Workspace) (names : List String) : Repository :=
  names.foldl (fun r name => (r.fetch w name).2) r

/-- The names of all templates, sorted and each once. -/
def names (r : Repository) (w : Workspace) : List String :=
  let discovered := (r.loader.map (·.discover w)).getD []
  (r.sources.map (·.1) ++ discovered).eraseDups.mergeSort

/-- What there is to say against a template. -/
def faultOf : Except TemplateError Compiled → Option TemplateError
  | .ok _ => none
  | .error e => some e

def fault? (r : Repository) (w : Workspace) (name : String) : Option TemplateError :=
  faultOf (r.find w name)

/-- Asks for one template after the other and tells for each what there is to say
against it. -/
def checkEach (r : Repository) (w : Workspace) :
    List String → List (String × Option TemplateError) × Repository
  | [] => ([], r)
  | name :: rest =>
      let (found, r) := r.fetch w name
      let (report, r) := checkEach r w rest
      ((name, faultOf found) :: report, r)

def check (r : Repository) (w : Workspace) :
    List (String × Option TemplateError) × Repository :=
  r.checkEach w (r.names w)

/-! ## Partials -/

/-- The tree of a partial.  A name without a template is reported as such; any
other failure is one of the partial. -/
def asPartial (name : String) : Except TemplateError Compiled → Except RenderError (List Node)
  | .ok compiled => .ok compiled.nodes
  | .error (.notFound _) => .error (.partialNotFound name)
  | .error e => .error (.invalidPartial name e.message)

def resolve (r : Repository) (w : Workspace) (name : String) : Except RenderError (List Node) :=
  asPartial name (r.find w name)

/-- Asks for the tree of a partial, which the repository keeps. -/
def fetchPartial (r : Repository) (w : Workspace) (name : String) :
    Except RenderError (List Node) × Repository :=
  let (answer, r) := r.fetch w name
  (asPartial name answer, r)

/-! ## Templates -/

variable {κ : Type}

def template (r : Repository) (w : Workspace) (config : Config) (name : String) :
    Except TemplateError (Template κ) × Repository :=
  let (answer, r) := r.fetch w name
  (answer.map (.ofCompiled · config), r)

/-- A template without a name, which the repository does not keep. -/
def templateOfSource (config : Config) (source : String) :
    Except TemplateError (Template κ) :=
  (Template.ofSource source config).mapError .compile

/-- Renders a template with the partials of the repository; the outcome, and the
repository with the partials that were found. -/
def render (r : Repository) (w : Workspace) (host : Host κ) (t : Template κ)
    (data : Value κ) : Run κ String × Repository :=
  let outcome := t.render host (some (r.resolve w)) data
  (outcome, r.fetchAll w outcome.inclusions)

end Repository
end Mustache
