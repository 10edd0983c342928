import DeclGraph.Config.Destination

/-!
Log files: which of them can be opened beside those that have been.

Opening a file makes the directories that lead to it. A path to a directory is no file, and a file is
no directory.
-/

namespace DeclGraph

/-- The files and directories that have been made, each by the names on the way to it. -/
structure FileTree where
  files : List (List (List Char))
  directories : List (List (List Char))
deriving DecidableEq, Repr

/-- Why a file cannot be opened. -/
inductive OpenProblem where
  | isDirectory
  /-- The directory of the file is a file. -/
  | directoryIsFile
  /-- A file stands further up. -/
  | belowFile
  | nameTooLong
  /-- A name holds the character that ends a path: one of a directory, or that of the file. -/
  | nulCharacter (inDirectory : Bool)
deriving DecidableEq, Repr

namespace FileTree

def empty : FileTree := ⟨[], []⟩

def isFile (tree : FileTree) (names : List (List Char)) : Bool := tree.files.contains names

/-- The outermost directory always exists. -/
def isDirectory (tree : FileTree) (names : List (List Char)) : Bool :=
  names.isEmpty || tree.directories.contains names

def insertDirectory (tree : FileTree) (names : List (List Char)) : FileTree :=
  if tree.isDirectory names then tree else { tree with directories := names :: tree.directories }

def insertFile (tree : FileTree) (names : List (List Char)) : FileTree :=
  if tree.isFile names then tree else { tree with files := names :: tree.files }

/-- Goes down from a directory by names, of which two points lead back up. Directories that are
missing are made, and stay if a later name turns out to be of no use. -/
def enter (tree : FileTree) (above : List (List Char)) :
    List (List Char) → FileTree × Except OpenProblem (List (List Char))
  | [] => (tree, .ok above)
  | name :: names =>
    if name = ['.', '.'] then tree.enter above.dropLast names
    else if Path.isNameTooLong name then (tree, .error .nameTooLong)
    else
      let here := above ++ [name]
      if tree.isFile here then
        (tree, .error (if names.isEmpty then .directoryIsFile else .belowFile))
      else (tree.insertDirectory here).enter here names

/-- Opens a file of a directory, which may exist. -/
def openIn (tree : FileTree) (directory : List (List Char)) (name : List Char) :
    FileTree × Option OpenProblem :=
  let names := directory ++ [name]
  if name.contains '\x00' then (tree, some (.nulCharacter false))
  else if Path.isNameTooLong name then (tree, some .nameTooLong)
  else if name = ['.', '.'] || tree.isDirectory names then (tree, some .isDirectory)
  else (tree.insertFile names, none)

/-- Opens the file at a path. -/
def openFile (tree : FileTree) (path : Path) : FileTree × Option OpenProblem :=
  match path.parts.getLast? with
  | none => (tree, some .isDirectory)
  | some name =>
    if path.parts.dropLast.any (·.contains '\x00') then (tree, some (.nulCharacter true))
    else
      match tree.enter [] path.parts.dropLast with
      | (tree, .ok directory) => tree.openIn directory name
      | (tree, .error problem) => (tree, some problem)

/-- Opens the files of outputs in order, up to the first that cannot be opened: the outputs before it,
the files there are then, and the problem if there is one. -/
def openAll (tree : FileTree) : List LogOutput → List LogOutput × FileTree × Option OpenProblem
  | [] => ([], tree, none)
  | output :: outputs =>
    let opened := match output.destination with
      | .file path => tree.openFile (.ofString path)
      | .stderr | .stdout => (tree, none)
    match opened with
    | (tree, some problem) => ([], tree, some problem)
    | (tree, none) =>
      let (rest, tree, problem) := openAll tree outputs
      (output :: rest, tree, problem)

end FileTree

end DeclGraph
