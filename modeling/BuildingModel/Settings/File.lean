import BuildingModel.Files
import BuildingModel.Json.Reader
import BuildingModel.Settings.Yaml

/-!
# Settings in files

A file holds settings in JSON or YAML, as its extension tells.
-/
namespace BuildingModel

inductive SettingsError
  | missingFile (path : String)
  | unreadableFile (path : String)
  | unreadableYaml (path : String)
  | unreadableJson (path : String)
  | unknownExtension (extension : String)
  | refused (fault : SettingsFault)
  deriving DecidableEq, Repr

def SettingsError.message : SettingsError → String
  | .missingFile path => "config file " ++ Text.quoted path ++ " does not exist"
  | .unreadableFile path => "failed to read config file " ++ Text.quoted path
  | .unreadableYaml path => "failed to parse YAML config " ++ Text.quoted path
  | .unreadableJson path => "failed to parse JSON config " ++ Text.quoted path
  | .unknownExtension extension => "unsupported config extension: " ++ extension
  | .refused fault => fault.message

namespace Settings

def ofText (path text : String) : Except SettingsError Settings :=
  let extension := ((fileExtension? path).map lowered).getD ""
  if extension = "yaml" || extension = "yml" then
    (ofYaml? text).elim (.error (.unreadableYaml path)) .ok
  else if extension = "json" then
    ((Json.parse? text).bind ofJson?).elim (.error (.unreadableJson path)) .ok
  else .error (.unknownExtension extension)

/-- The settings of a file, whatever faults they have. -/
def load (files : Files) (path : String) : Except SettingsError Settings :=
  match files path with
  | .missing => .error (.missingFile path)
  | .unreadable => .error (.unreadableFile path)
  | .text text => ofText path text

/-- The settings, unless they have a fault. -/
def checked (s : Settings) : Except SettingsError Settings :=
  s.validated.mapError SettingsError.refused

def ofFile (files : Files) (path : String) : Except SettingsError Settings :=
  load files path >>= checked

end Settings

end BuildingModel
