import RouteDoc.Config
import RouteDoc.Yaml.Value

/-!
# Configuration files

* `Config.ofFile`: the configuration that a YAML file holds.  A file without content is an empty
  configuration.
-/

namespace RouteDoc.Config

def fileFault (path : String) : Yaml.Fault → ConfigFault
  | .malformed => .invalidYaml path
  | fault => .invalidScalar fault

def ofFile (path text : String) : Except ConfigFault Config := do
  let data ← (Datum.ofYaml (Chars.unifyBreaks text.toList)).mapError (fileFault path)
  let data := if data.isEmpty then .map [] else data
  match data with
  | .map _ =>
    match ofDatum? data with
    | some config => return config
    | none => throw (.invalidConfiguration path)
  | _ => throw (.notMapping path)

end RouteDoc.Config
