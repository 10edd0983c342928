import DeclGraph.Config.Check
import DeclGraph.Json.Reader
import DeclGraph.Text.LetterCase

/-!
Sources of settings: the entries that each supplies, and how a higher source overrides a lower one.
-/

namespace DeclGraph

namespace Datum

mutual

/-- Mappings are merged key by key; anything else is replaced by the higher value. -/
def merge (low : Datum) : (high : Datum) → Datum
  | .map entries =>
    match low.entries? with
    | some lower => .map (mergeEntries lower entries)
    | none => .map entries
  | high => high

def mergeEntries (low : List (Scalar × Datum)) : (high : List (Scalar × Datum)) →
    List (Scalar × Datum)
  | [] => low
  | (key, value) :: entries =>
    let merged := match Entries.get? low key with
      | some old => merge old value
      | none => value
    mergeEntries (Entries.insert low key merged) entries

end

end Datum

namespace Config

/-- The fields of a section. -/
def fieldNames (sectionName : String) : List String :=
  match sectionName with
  | "logging" => ["level", "outputs"]
  | "parse" => ["strict"]
  | "debug" => ["dump_parsed"]
  | _ => []

/-- Text of the environment that should have been JSON. -/
structure Undecodable where
  sectionName : String
deriving DecidableEq, Repr

def Undecodable.message (u : Undecodable) : String :=
  "error parsing value for field \"" ++ u.sectionName ++ "\" from source \"EnvSettingsSource\""

/-- How variables of the environment are read. -/
structure VariableForm where
  /-- Every variable for settings starts with this. -/
  stem : String
  caseSensitive : Bool
  /-- What separates the keys on the way to a nested value. -/
  delimiter : String
  /-- How often a name is split into keys at most, if there is a limit. -/
  splits : Option Nat
  skipsEmpty : Bool
  /-- A text that stands for null. -/
  nullText : Option String
deriving DecidableEq, Repr

namespace VariableForm

def default : VariableForm := ⟨"HIEGRAPH__", false, "__", none, false, none⟩

/-- Names are compared in lower case, unless case matters. -/
def fold (form : VariableForm) (name : String) : String :=
  if form.caseSensitive then name else Text.lower name

def isNull (form : VariableForm) (text : String) : Bool := form.nullText == some text

/-- The name of the variable for a whole section. -/
def sectionVariable (form : VariableForm) (sectionName : String) : String :=
  form.fold (form.stem ++ sectionName)

/-- The direct settings that say how variables are read, and others that are accepted beside them. -/
def optionNames : List String :=
  ["_case_sensitive", "_nested_model_default_partial_update", "_env_prefix", "_env_file",
    "_env_file_encoding", "_env_ignore_empty", "_env_nested_delimiter", "_env_nested_max_split",
    "_env_parse_none_str", "_env_parse_enums", "_cli_prog_name", "_cli_parse_args",
    "_cli_settings_source", "_cli_parse_none_str", "_cli_hide_none_type", "_cli_avoid_json",
    "_cli_enforce_required", "_cli_use_class_docs_for_groups", "_cli_exit_on_error", "_cli_prefix",
    "_cli_flag_prefix_char", "_cli_implicit_flags", "_cli_ignore_unknown_args", "_cli_kebab_case",
    "_cli_shortcuts", "_secrets_dir"]

def isOption : Scalar → Bool
  | .str name => optionNames.contains name
  | _ => false

def textOption (settings : Entries) (name : String) : Option String :=
  match settings.get? (.str name) with
  | some (.str text) => some text
  | _ => none

/-- An option that is null is as good as absent. -/
def flagOption (settings : Entries) (name : String) : Bool :=
  ((settings.get? (.str name)).map (!·.isBlank)).getD false

/-- A limit of one means that names are not split; none or less is no limit. -/
def splitsOption (settings : Entries) : Option Nat :=
  match settings.get? (.str "_env_nested_max_split") with
  | some (.int n) => if 0 < n then some (n - 1).toNat else none
  | some (.bool true) => some 0
  | _ => none

/-- The form that direct settings ask for. -/
def ofSettings (settings : Entries) : VariableForm where
  stem := (textOption settings "_env_prefix").getD default.stem
  caseSensitive := flagOption settings "_case_sensitive"
  delimiter := (textOption settings "_env_nested_delimiter").getD default.delimiter
  splits := splitsOption settings
  skipsEmpty := flagOption settings "_env_ignore_empty"
  nullText := textOption settings "_env_parse_none_str"

end VariableForm

/-- Environment variables. Of equal names only the last counts, at the place of the first. -/
abbrev Environment := List (String × String)

namespace Environment

def insert (name text : String) : Environment → Environment
  | [] => [(name, text)]
  | (n, t) :: env => if n = name then (n, text) :: env else (n, t) :: insert name text env

def ofList (vars : List (String × String)) : Environment :=
  vars.foldl (fun env (name, text) => insert name text env) []

/-- The variables by the names that they are compared by. -/
def fold (form : VariableForm) (env : Environment) : Environment :=
  let kept := env.filter fun (_, text) => !(form.skipsEmpty && text.isEmpty)
  ofList (kept.map fun (name, text) => (form.fold name, text))

end Environment

/-- Sets a value inside nested mappings, which are made where they are missing. Below anything but a
mapping it is dropped. -/
def setNested (entries : Entries) : (path : List String) → Datum → Entries
  | [], _ => entries
  | [key], value => entries.insert (.str key) value
  | key :: path, value =>
    match entries.get? (.str key) with
    | none => entries.insert (.str key) (.map (setNested [] path value))
    | some (.map inner) => entries.insert (.str key) (.map (setNested inner path value))
    | some _ => entries

/-- A path of keys leads to the outputs of the log. -/
def isOutputsPath (form : VariableForm) (sectionName : String) (path : List String) : Bool :=
  sectionName == "logging" && path.map form.fold == ["outputs"]

/-- The value of a nested variable is its text, but the outputs of the log are JSON. -/
def nestedValue (form : VariableForm) (sectionName : String) (path : List String) (text : String) :
    Except Undecodable Datum :=
  if isOutputsPath form sectionName path ∧ text ≠ "" then
    match Json.read? text with
    | some value => .ok value
    | none => .error ⟨sectionName⟩
  else .ok (if form.isNull text then .null else .str text)

/-- The path of keys that a variable's name spells after the name of a section. -/
def nestedPath? (form : VariableForm) (sectionName name : String) : Option (List String) :=
  let delimiter := form.delimiter.toList
  let stem := (form.sectionVariable sectionName).toList ++ delimiter
  if !delimiter.isEmpty && stem.isPrefixOf name.toList then
    let rest := name.toList.drop stem.length
    some ((Text.splitAtWord delimiter (form.splits.getD rest.length) 0 rest).map String.ofList)
  else none

/-- The entries that nested variables supply for a section. -/
def nestedEntries (form : VariableForm) (sectionName : String) (env : Environment) :
    Except Undecodable Entries :=
  env.foldlM (fun entries (name, text) =>
    match nestedPath? form sectionName name with
    | none => pure entries
    | some path => do
      let value ← nestedValue form sectionName path text
      pure (setNested entries path value)) []

/-- Keys of a section that are fields but for their case become those fields, unless case matters. -/
def foldKeys (form : VariableForm) (sectionName : String) (entries : Entries) : Entries :=
  entries.foldl (fun acc (key, value) =>
    let key := match key with
      | .str name => .str (((fieldNames sectionName).find? (· == form.fold name)).getD name)
      | key => key
    acc.insert key value) []

/-- What the environment supplies for a section. Its own variable is JSON for the whole section;
nested variables override that key by key, if it is a mapping at all. -/
def sectionValue (form : VariableForm) (env : Environment) (sectionName : String) :
    Except Undecodable (Option Datum) :=
  match env.lookup (form.sectionVariable sectionName) with
  | none => do
    let nested ← nestedEntries form sectionName env
    pure (if nested.isEmpty then none else some (.map (foldKeys form sectionName nested)))
  | some text =>
    if form.isNull text then .ok (some .null)
    else
      match Json.read? text with
      | none => .error ⟨sectionName⟩
      | some .null => .ok none
      | some (.map entries) => do
        let nested ← nestedEntries form sectionName env
        pure (some (.map (foldKeys form sectionName (Datum.mergeEntries entries nested))))
      | some value => .ok (some value)

/-- The entries that the environment supplies. -/
def environmentEntries (form : VariableForm) (env : Environment) : Except Undecodable Entries :=
  sections.foldlM (fun entries sectionName => do
    match ← sectionValue form env sectionName with
    | some value => pure (entries.insert (.str sectionName) value)
    | none => pure entries) []

/-- The first entry for a section among direct settings, whose names match without regard to case. -/
def directSection? (settings : Entries) (sectionName : String) : Option Datum :=
  (List.find? (fun entry => match entry.1 with
    | .str name => Text.lower name == sectionName
    | _ => false) settings).map (·.2)

/-- Direct settings with the sections first, under their own names, and without options. -/
def directEntries (settings : Entries) : Entries :=
  (sections.filterMap fun name => (directSection? settings name).map (.str name, ·)) ++
    settings.filter fun entry => !VariableForm.isOption entry.1 && match entry.1 with
      | .str name => !sections.contains (Text.lower name)
      | _ => true

end Config

end DeclGraph
