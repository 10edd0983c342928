import DeclGraph.Config.Source
import DeclGraph.Fault
import DeclGraph.Yaml.Document

/-!
Loading a configuration: direct settings override the environment, which overrides the file, which
overrides the defaults.
-/

namespace DeclGraph.Config

/-- What stands at the path of a settings file. -/
inductive SettingsFile where
  /-- No file was asked for. -/
  | unasked
  /-- Nothing: of the names that lead there `missing` is the first that is not found. -/
  | absent (path missing : String)
  | directory
  | text (path content : String)
deriving Repr

/-- Why no configuration could be loaded. -/
inductive LoadError where
  | fault (cause : FaultCause)
  | isDirectory
  /-- The path, or a name on it, is longer than the system looks for. -/
  | nameTooLong
  /-- The file has a value that its form promises and its text does not give. -/
  | badValue (problem : Yaml.Problem)
  | fileNotMapping
  /-- The file is a sequence, which has no entries that others could override. -/
  | fileNotOverridable
  | keyNotText
  /-- A direct setting has a name that stands for something else. -/
  | reservedName
  /-- A rejected value holds a number that is too long to be written. -/
  | unwritable
  | undecodable (text : Undecodable)
  | unknownHome
  /-- A configuration that was read is rejected as it would be written. -/
  | unsettled (invalid : Invalid)
deriving DecidableEq, Repr

def LoadError.ofInvalid (e : Invalid) : LoadError :=
  if e.value.isWritable then .fault (.invalidSetting e.location.text e.value e.reason.message)
  else .unwritable

def LoadError.ofRejection : Rejection → LoadError
  | .invalid e => ofInvalid e
  | .unknownHome => .unknownHome

def LoadError.ofSecond : Rejection → LoadError
  | .invalid e => .unsettled e
  | .unknownHome => .unknownHome

/-- What a settings file says. A file that says nothing has no settings. -/
def readSettings (path content : String) : Except LoadError Datum :=
  match Yaml.read content with
  | .ok value => .ok (if value.isBlank then .map [] else value)
  | .error problem =>
    .error (if problem.isSyntactic then .fault (.unreadableConfig path problem.message)
      else .badValue problem)

/-- Looking for a file goes wrong where one that is not there is looked for under too long a name. A
path that the system cannot even be asked for counts as absent. -/
def isLookupRefused (path missing : String) : Bool :=
  (Text.systemProblem? path.toList).isNone &&
    (Path.isTextTooLong path.toList || Path.isNameTooLong missing.toList)

def fileDatum : SettingsFile → Except LoadError Datum
  | .unasked => .ok (.map [])
  | .absent path missing =>
    .error (if isLookupRefused path missing then .nameTooLong else .fault (.missingConfig path))
  | .directory => .error .isDirectory
  | .text path content => readSettings path content

/-- The entries of a file, overridden by others. -/
def overrideEntries (file : Datum) (higher : Entries) : Except LoadError Entries :=
  match file.entries?, file.items? with
  | some low, _ => .ok (Datum.mergeEntries low higher)
  | none, some _ => .error (if higher.isEmpty then .fileNotMapping else .fileNotOverridable)
  | none, none => .error .fileNotMapping

def isText : Scalar → Bool
  | .str _ => true
  | _ => false

/-- Direct settings cannot name the path of the file. -/
def reservedName : String := "config_path"

/-- The merged entries of all sources. The file's own come first. -/
def mergedEntries (file : Datum) (vars : List (String × String)) (settings : Entries) :
    Except LoadError Entries := do
  let form := VariableForm.ofSettings settings
  let env ← (environmentEntries form ((Environment.ofList vars).fold form)).mapError .undecodable
  let merged ← overrideEntries file (Datum.mergeEntries env (directEntries settings))
  if List.all merged fun entry => isText entry.1 then .ok merged else .error .keyNotText

/-- The configuration that settings describe. It is checked once more as it would be written. -/
def settle (homes : Homes) (settings : Entries) : Except LoadError Config := do
  let config ← (check homes settings).mapError .ofRejection
  (check homes config.toEntries).mapError .ofSecond

def load (accounts : List (String × String)) (file : SettingsFile)
    (vars : List (String × String)) (settings : Entries) : Except LoadError Config := do
  if (settings.get? (.str reservedName)).isSome then throw .reservedName
  let low ← fileDatum file
  let merged ← mergedEntries low vars settings
  settle ⟨vars.reverse.lookup "HOME", accounts⟩ merged

/-- The value of a key in settings read from a file, and whether there is one. -/
def fieldValue (settings : Entries) (key : String) : Datum × Bool :=
  let value := (settings.get? (.str key)).getD .null
  (value, value != .null)

/-- The settings file at a path of a directory that holds at most one file. Paths are compared after
they are normalised; those made of steps upwards are directories. -/
def locate (stored : Option (String × String)) (path : Option String) : SettingsFile :=
  match path with
  | none =>
    match stored with
    | some (name, content) => .text name content
    | none => .unasked
  | some given =>
    let path := Path.ofString given
    match path.parts.dropWhile (· == "..".toList) with
    | [] => .directory
    | missing :: _ =>
      match stored with
      | some (name, content) =>
        if Path.ofString name = path then .text name content
        else .absent path.text (String.ofList missing)
      | none => .absent path.text (String.ofList missing)

end DeclGraph.Config
