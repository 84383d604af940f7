import Nostream.Utils.Event
import Nostream.Utils.RuneRecords

set_option autoImplicit false

namespace Nostream

open Utf16

inductive SettingsFileTypes where
  | yaml
  | json
  -- A name that the enumeration has from Object.prototype.
  | inherited
  deriving DecidableEq

structure SettingsLibraries (Value : Type) where
  yamlLoad : JsString → Except Thrown Value
  jsonParse : JsString → Except Thrown Value
  mergeDeepRight : Value → Value → Except Thrown Value

structure SettingsFiles where
  defaults : Except Thrown JsString
  directory : Except Thrown (List JsString)
  yaml : Except Thrown JsString
  json : Except Thrown JsString

namespace SettingsStatic

variable {Value : Type} (libraries : SettingsLibraries Value)

def extension (name : JsString) : JsString :=
  if name.contains (46 : UInt16) then (name.reverse.takeWhile (· != 46)).reverse else []

def settingsFileType (files : List JsString) : SettingsFileTypes :=
  match files.find? (startsWith · (js "settings")) with
  | none => .yaml
  | some filteredFile =>
    if extension filteredFile = js "yaml" then .yaml
    else if extension filteredFile = js "json" then .json
    else if (Runes.objectPrototype.lookup (extension filteredFile)).isSome then .inherited
    else .yaml

def loadSettings (content : Except Thrown JsString) : SettingsFileTypes → Except Thrown Value
  | .json => content.bind libraries.jsonParse
  | .yaml => content.bind libraries.yamlLoad
  | .inherited => .error (.error "settings file was missing or did not contain .yaml or .json extensions.")

def settingsFile (files : SettingsFiles) : SettingsFileTypes → Except Thrown JsString
  | .json => files.json
  | _ => files.yaml

-- The settings, or what is thrown, and the new value of _settings.
def createSettings (files : SettingsFiles) (settings : Option Value) : Except Thrown Value × Option Value :=
  match settings with
  | some settings => (.ok settings, some settings)
  | none =>
    match files.directory with
    | .error reason => (.error reason, none)
    | .ok names =>
      let fileType := settingsFileType names
      match loadSettings libraries files.defaults .yaml with
      | .error reason => (.error reason, none)
      | .ok defaults =>
        match (loadSettings libraries (settingsFile files fileType) fileType).bind (libraries.mergeDeepRight defaults) with
        | .error _ => (.ok defaults, none)
        | .ok merged => (.ok merged, some merged)

-- The listener of both watchers.
def reload (files : SettingsFiles) : Option Value := (createSettings libraries files none).2

end SettingsStatic

end Nostream
