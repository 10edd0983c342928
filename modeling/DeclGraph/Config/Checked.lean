import DeclGraph.Datum
import DeclGraph.Text.Surrogate

/-!
Checking documents against a form: what is wrong with a value, and where it stands.
-/

namespace DeclGraph

/-- A step into a document. -/
inductive Step where
  | key (name : String)
  | index (i : Nat)
deriving DecidableEq, Repr

def Step.text : Step → String
  | key name => name
  | index i => toString i

/-- A place in a document, from the outside in. -/
abbrev Location := List Step

def Location.text (location : Location) : String := ".".intercalate (location.map Step.text)

inductive InvalidReason where
  | notLevel
  | notFormat
  | notBoolean
  | unclearBoolean
  | notString
  /-- Bytes or halves of surrogate pairs that make up no text. -/
  | notUnicode
  | relativePath (given : String)
  | badAccount (problem : Text.SystemProblem)
  /-- A section or an output that is no mapping, with the name of its form. -/
  | notMapping (form : String)
  | notList
  | unknownKey
deriving DecidableEq, Repr

def InvalidReason.message : InvalidReason → String
  | notLevel => "Input should be 'DEBUG', 'INFO', 'WARNING', 'ERROR' or 'CRITICAL'"
  | notFormat => "Input should be 'json' or 'console'"
  | notBoolean => "Input should be a valid boolean"
  | unclearBoolean => "Input should be a valid boolean, unable to interpret input"
  | notString => "Input should be a valid string"
  | notUnicode =>
    "Input should be a valid string, unable to parse raw data as a unicode string"
  | relativePath given =>
    "Value error, File destination must be absolute path: " ++ Text.replaceHalves given
  | badAccount problem => "Value error, " ++ problem.message
  | notMapping form => "Input should be a valid dictionary or instance of " ++ form
  | notList => "Input should be a valid list"
  | unknownKey => "Extra inputs are not permitted"

/-- A value that does not fit the form. -/
structure Invalid where
  location : Location
  value : Datum
  reason : InvalidReason
deriving DecidableEq, Repr

/-- Why a document is rejected. A home directory that cannot be found ends the check at once. -/
inductive Rejection where
  | invalid (invalid : Invalid)
  | unknownHome
deriving DecidableEq, Repr

abbrev Checked := Except Rejection

namespace Checked

variable {α β : Type}

def reject (value : Datum) (reason : InvalidReason) : Checked α :=
  .error (.invalid ⟨[], value, reason⟩)

/-- Of two rejections the first is reported, unless the second ended the check. -/
def earlier : Rejection → Rejection → Rejection
  | _, .unknownHome => .unknownHome
  | e, _ => e

/-- Both checks are made, also when the first fails. -/
def both : Checked α → Checked β → Checked (α × β)
  | .ok a, .ok b => .ok (a, b)
  | .ok _, .error e => .error e
  | .error e, .ok _ => .error e
  | .error e, .error f => .error (earlier e f)

/-- A check of a part of the document. -/
def under (step : Step) : Checked α → Checked α
  | .error (.invalid e) => .error (.invalid { e with location := step :: e.location })
  | result => result

/-- Checks the value of a key. A key that is absent has its default. -/
def field (entries : Entries) (key : String) (default : α) (check : Datum → Checked α) :
    Checked α :=
  match entries.get? (.str key) with
  | some value => under (.key key) (check value)
  | none => .ok default

/-- Checks all items of a list, which are counted from `start`. -/
def itemsFrom (check : Datum → Checked α) (start : Nat) : List Datum → Checked (List α)
  | [] => .ok []
  | item :: items =>
    (both (under (.index start) (check item)) (itemsFrom check (start + 1) items)).map
      fun (a, as) => a :: as

/-- Checks a mapping. -/
def mapping (form : String) (check : Entries → Checked α) (value : Datum) : Checked α :=
  match value.entries? with
  | some entries => check entries
  | none => reject value (.notMapping form)

end Checked

end DeclGraph
