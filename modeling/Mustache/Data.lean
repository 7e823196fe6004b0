import Mustache.Config
import Mustache.Document
import Mustache.Template.Error

/-!
# Data and configuration files

Data is read as JSON from a file whose extension says so and as YAML from any other.  A
configuration is written in YAML; what it leaves out has its default value.  How the texts
of the two formats are read is up to readers that are given.
-/

namespace Mustache

/-- Whether a path has the extension of JSON files, in upper or lower case. -/
def isJsonPath (path : String) : Bool :=
  (Path.extension? path).any fun e => e.toList.map Char.toLower = "json".toList

namespace Config

/-- What a configuration sets. -/
structure Settings where
  contentType : Option ContentType := none
  maxDepth : Option Nat := none

def ofSettings (s : Settings) : Config :=
  let standard : Config := {}
  { contentType := s.contentType.getD standard.contentType
    maxDepth := s.maxDepth.getD standard.maxDepth }

end Config

/-- Readers of texts.  They say in words what is wrong with a text that they refuse. -/
structure Formats where
  json : String → Except String Document
  yaml : String → Except String Document
  /-- Reads a configuration in YAML. -/
  settings : String → Except String Config.Settings

namespace Formats

/-- The document in the text of a file of data. -/
def document (formats : Formats) (path text : String) : Except TemplateError Document :=
  if isJsonPath path then (formats.json text).mapError .json
  else (formats.yaml text).mapError .yaml

def loadData {κ : Type} (formats : Formats) (w : Workspace) (path : String) :
    Except TemplateError (Value κ) := do
  let text ← (w.read path).mapError TemplateError.io
  return (← formats.document path text).toValue

def loadConfig (formats : Formats) (w : Workspace) (path : String) :
    Except TemplateError Config := do
  let text ← (w.read path).mapError TemplateError.io
  return .ofSettings (← (formats.settings text).mapError TemplateError.yaml)

end Formats
end Mustache
