import DeclGraph.Config.Basic
import DeclGraph.Text.Split
import DeclGraph.Text.Surrogate

/-!
Log destinations: reading the path of a log file.

Paths are normalised without looking at any file: empty components and single points are dropped,
and two leading slashes are kept apart from one.
-/

namespace DeclGraph

/-- A path: how many slashes it starts with (at most two), and its components. -/
structure Path where
  root : Nat
  parts : List (List Char)
deriving DecidableEq, Repr

namespace Path

/-- Three or more leading slashes count as one. -/
def rootOf (cs : List Char) : Nat :=
  let slashes := (cs.takeWhile (· == '/')).length
  if 2 < slashes then 1 else slashes

def isPart (part : List Char) : Bool := !part.isEmpty && part != ['.']

def ofChars (cs : List Char) : Path := ⟨rootOf cs, (Text.splitAt '/' cs).filter isPart⟩

def ofString (text : String) : Path := ofChars text.toList

def isAbsolute (path : Path) : Bool := path.root != 0

/-- A relative path without components is the current directory. -/
def toChars (path : Path) : List Char :=
  if path.root = 0 ∧ path.parts.isEmpty then ['.']
  else List.replicate path.root '/' ++ ['/'].intercalate path.parts

def text (path : Path) : String := String.ofList path.toChars

/-- A name has at most 255 bytes. -/
def isNameTooLong (name : List Char) : Bool := 255 < Text.systemSize name

/-- A path has fewer than 4096 bytes. -/
def isTextTooLong (text : List Char) : Bool := 4096 ≤ Text.systemSize text

end Path

/-- Home directories: the one that the environment names for the current user, if it names one,
and those that the system knows by account. The current user's account has the empty name. -/
structure Homes where
  ofUser : Option String
  accounts : List (String × String)
deriving Repr

namespace Homes

/-- The home directory of an account, without slashes at its end. -/
def find? (homes : Homes) (account : String) : Option String :=
  let known :=
    if account.isEmpty then homes.ofUser.or (homes.accounts.lookup "")
    else homes.accounts.lookup account
  known.map fun home =>
    let trimmed := (home.toList.reverse.dropWhile (· == '/')).reverse
    if trimmed.isEmpty then "/" else String.ofList trimmed

end Homes

inductive DestinationProblem where
  | relative
  /-- The name of an account that the system cannot be asked for. -/
  | badAccount (problem : Text.SystemProblem)
  | unknownHome
deriving DecidableEq, Repr

/-- Replaces a first component that is a tilde and an account name. It fails if the account has no
home directory, or one that starts with a tilde itself. -/
def Path.expandHome (homes : Homes) (path : Path) : Except DestinationProblem Path :=
  match path.root, path.parts with
  | 0, ('~' :: account) :: parts =>
    match Text.systemProblem? account with
    | some problem => .error (.badAccount problem)
    | none =>
      match homes.find? (String.ofList account) with
      | some home =>
        if home.toList.head? = some '~' then .error .unknownHome
        else
          let base := Path.ofString home
          .ok ⟨base.root, base.parts ++ parts⟩
      | none => .error .unknownHome
  | _, _ => .ok path

/-- A destination is one of the two standard streams or the absolute path of a file. -/
def Destination.ofText (homes : Homes) (text : String) : Except DestinationProblem Destination :=
  if text = "stderr" then .ok .stderr
  else if text = "stdout" then .ok .stdout
  else
    match (Path.ofString text).expandHome homes with
    | .error problem => .error problem
    | .ok path => if path.isAbsolute then .ok (.file path.text) else .error .relative

end DeclGraph
