import CqlTable.Config.Basic
import CqlTable.Json.Parser
import CqlTable.Text.Blank

/-!
# Loading settings: files, overrides and unknown keys

The first path that exists is read, and no other. Overrides are merged into it
member by member. Keys that are no settings are warned about and have no
effect.
-/

namespace CqlTable

mutual

/-- Members merged into those of a base: objects on both sides member by
    member, everything else in the place of the base value. -/
def mergeMembers (base : List (String × Json)) : List (String × Json) → List (String × Json)
  | [] => base
  | (name, value) :: rest =>
    mergeMembers (Named.put name (mergeValue (Named.get? name base) value) base) rest

/-- A value merged into one that may be there. -/
def mergeValue (existing : Option Json) : Json → Json
  | .object members =>
    match existing with
    | some (.object base) => .object (mergeMembers base members)
    | _ => .object members
  | value => value

end

/-- Files by their names; a directory has no text. -/
abbrev Files := List (String × Option String)

/-- Settings with the records written while they were loaded. -/
structure Loading where
  result : Except ConfigurationError Config
  logs : List LogRecord

/-- Who writes the records of loading. -/
def loadingWriter : List (String × String) := [("module", "config")]

/-- A warning for each key that is no setting, in order. -/
def unknownKeyWarnings (source : String) (members : List (String × Json)) : List LogRecord :=
  (members.filter fun entry => !Config.names.contains entry.1).map fun entry =>
    ⟨.warn, loadingWriter, some [("key", .string entry.1), ("source", .string source)],
      "Ignoring unknown config key \"" ++ entry.1 ++ "\""⟩

/-- The members of the object in a file. -/
def readObject (path : String) (text : Option String) : Except ConfigurationError (List (String × Json)) :=
  match text with
  | none => .error (.unreadableFile path)
  | some text =>
    match Json.parse? text with
    | none => .error (.unparsableFile path)
    | some (.object members) => .ok members
    | some _ => .error (.fileWithoutObject path)

/-- The settings of a file's text with overrides. -/
def loadFile (path : String) (text : Option String) (overrides : List (String × Json)) : Loading :=
  match readObject path text with
  | .error e => ⟨.error e, []⟩
  | .ok members =>
    let merged := mergeMembers members overrides
    let warnings := unknownKeyWarnings path merged
    match Config.ofJson ("config file " ++ path) (.object merged) with
    | .error e => ⟨.error e, warnings⟩
    | .ok config =>
      ⟨.ok config, warnings ++ [⟨.debug, loadingWriter, some [("path", .string path)], "Loaded configuration"⟩]⟩

/-- The settings of the first path that exists, with overrides. -/
def loadConfig (files : Files) (paths : List String) (overrides : List (String × Json)) : Loading :=
  if paths.isEmpty then ⟨.error .noPaths, []⟩
  else
    match paths.findSome? fun path => (Named.get? path files).map fun text => (path, text) with
    | none => ⟨.error (.noFile paths), []⟩
    | some (path, text) => loadFile path text overrides

/-- The paths that the environment lists, between commas. -/
def pathsFromEnvironment (environment : List (String × String)) : List String :=
  ((Text.split ',' ((Named.get? pathsVariable environment).getD "")).map Text.trim).filter fun path =>
    !path.isEmpty

end CqlTable
