import Mustache.Data
import Mustache.Json.Parse
import Mustache.Yaml.Resolve

/-!
# Readers for the formats

A reader of all JSON, and one of YAML without anchors, tags, directives and block scalars.
What is proved about the commands holds for any readers.  Keys that a configuration should not
have are ignored.
-/

namespace Mustache

namespace Config

namespace Settings

/-- Makes the setting of one entry; none may be made twice. -/
def add (s : Settings) : Yaml.Tree × Yaml.Tree → Option Settings
  | (.scalar key _, value) =>
      if key = "content_type" then
        match s.contentType, value with
        | none, .scalar text _ =>
            (ContentType.ofName? text).map fun t => { s with contentType := some t }
        | _, _ => none
      else if key = "max_depth" then
        match s.maxDepth, value with
        | none, .scalar text true =>
            match Yaml.readUnsigned? text.toList with
            | some n => if n < UInt64.size then some { s with maxDepth := some n } else none
            | none => none
        | _, _ => none
      else some s
  | _ => none

def ofTree? : Yaml.Tree → Option Settings
  | .mapping entries => entries.foldlM add {}
  | .scalar "" true => some {}
  | _ => none

end Settings

end Config

namespace Formats

/-- The answer of a reader that does not say what is wrong with a text. -/
def orRefuse {α : Type} (format : String) (read? : String → Option α) (text : String) :
    Except String α :=
  match read? text with
  | some found => .ok found
  | none => .error ("invalid " ++ format)

def standard : Formats where
  json := orRefuse "JSON" Json.parse?
  yaml := orRefuse "YAML" fun text => (Yaml.parse? text).bind (·.document?)
  settings := orRefuse "configuration" fun text => (Yaml.parse? text).bind Config.Settings.ofTree?

end Formats
end Mustache
