import DeclGraph.Text.Hex
import DeclGraph.Text.Surrogate
import DeclGraph.Yaml.Cursor
import DeclGraph.Yaml.Problem

/-!
The text of scalars in their four written forms: plain, quoted once or twice, and as a block.

Every reader takes the place where the scalar starts and returns its text and the place after it.
Line breaks inside a scalar fold: a single one is a space, and of several the first is dropped.
-/

namespace DeclGraph.Yaml

abbrev Scan := Except Problem

/-- What a line break and the breaks after it fold to. -/
def foldBreaks (first : Char) (more : List Char) : List Char :=
  if first != '\n' then first :: more else if more.isEmpty then [' '] else more

/-! Plain scalars -/

/-- A colon ends a plain scalar where it may be an indicator; inside brackets their punctuation
does so too. -/
def endsPlain (inFlow : Bool) (c : Char) (next : Option Char) : Bool :=
  isBlank c || isBreak c ||
    (c == ':' && (match next with
      | none => true
      | some n => isBlank n || isBreak n || (inFlow && ",[]\x7b\x7d".toList.contains n))) ||
    (inFlow && ",?[]\x7b\x7d".toList.contains c)

def plainRun (inFlow : Bool) : List Char → List Char
  | [] => []
  | c :: cs => if endsPlain inFlow c cs.head? then [] else c :: plainRun inFlow cs

/-- The breaks and spaces after a line break inside a plain scalar; `none` before a separator. -/
def plainBreaks : (fuel : Nat) → (read : List Char) → Cursor → Option (List Char) × Cursor
  | 0, _, c => (none, c)
  | fuel + 1, read, c =>
    if c.atSeparator then (none, c)
    else
      let c := c.skip (· == ' ')
      match c.lineBreak? with
      | some (b, c) => plainBreaks fuel (read ++ [b]) c
      | none => (some read, c)

/-- The space after a run of a plain scalar, empty where the scalar ends. The flag says whether it
spans lines. -/
def plainSpace (c : Cursor) : List Char × Bool × Cursor :=
  let (spaces, c) := c.span (· == ' ')
  match c.lineBreak? with
  | none => (spaces, false, c)
  | some (first, c) =>
    match plainBreaks (c.rest.length + 1) [] c with
    | (none, c) => ([], true, c)
    | (some more, c) => (foldBreaks first more, true, c)

structure PlainScalar where
  text : List Char
  /-- The scalar is followed by a new line, on which a key may start. -/
  lineFollows : Bool
  after : Cursor

/-- A plain scalar goes on over lines that are indented to `indent`. -/
def plainRuns : (fuel : Nat) → (inFlow : Bool) → (indent : Nat) → PlainScalar → (space : List Char) →
    PlainScalar
  | 0, _, _, s, _ => s
  | fuel + 1, inFlow, indent, s, space =>
    let run := plainRun inFlow s.after.rest
    if run.isEmpty then s
    else
      let (more, lineFollows, c) := plainSpace (s.after.advance run.length)
      let s : PlainScalar := ⟨s.text ++ space ++ run, lineFollows, c⟩
      if more.isEmpty || c.peek? == some '#' || (!inFlow && c.column < indent) then s
      else plainRuns fuel inFlow indent s more

def plainScalar (inFlow : Bool) (indent : Nat) (c : Cursor) : PlainScalar :=
  plainRuns (c.rest.length + 1) inFlow indent ⟨[], false, c⟩ []

/-! Quoted scalars -/

/-- The breaks after a line break inside quotes. Blanks at the start of lines are dropped. -/
def quotedBreaks : (fuel : Nat) → (read : List Char) → Cursor → Scan (List Char × Cursor)
  | 0, _, _ => .error .unclosedScalar
  | fuel + 1, read, c =>
    if c.atSeparator then .error .unclosedScalar
    else
      let c := c.skip isBlank
      match c.lineBreak? with
      | some (b, c) => quotedBreaks fuel (read ++ [b]) c
      | none => .ok (read, c)

/-- Blanks inside quotes stand for themselves, unless the line ends after them. -/
def quotedSpace (c : Cursor) : Scan (List Char × Cursor) :=
  let (blanks, c) := c.span isBlank
  match c.lineBreak? with
  | some (first, c) => do
    let (more, c) ← quotedBreaks (c.rest.length + 1) [] c
    .ok (foldBreaks first more, c)
  | none => if c.rest.isEmpty then .error .unclosedScalar else .ok (blanks, c)

/-- Characters that a backslash and one letter stand for. -/
def namedEscapes : List (Char × Char) :=
  [('0', '\x00'), ('a', '\x07'), ('b', '\x08'), ('t', '\t'), ('\t', '\t'), ('n', '\n'),
    ('v', '\x0b'), ('f', '\x0c'), ('r', '\r'), ('e', '\x1b'), (' ', ' '), ('"', '"'),
    ('\\', '\\'), ('/', '/'), ('N', '\x85'), ('_', '\xa0'), ('L', '\u2028'), ('P', '\u2029')]

def codeDigits : Char → Option Nat
  | 'x' => some 2
  | 'u' => some 4
  | 'U' => some 8
  | _ => none

/-- What an escape stands for, at the character after its backslash. -/
def escape (c : Cursor) : Scan (List Char × Cursor) :=
  match c.peek? with
  | none => .error .badEscape
  | some ch =>
    match namedEscapes.lookup ch, codeDigits ch, c.lineBreak? with
    | some r, _, _ => .ok ([r], c.next)
    | none, some n, _ =>
      match Text.hexNumber n c.next.rest with
      | none => .error .badEscape
      | some (code, _) =>
        if 0x80000000 ≤ code then .error .codePointTooWide
        else if 0x110000 ≤ code then .error .codePointTooLarge
        else if Text.isHalfUnit code then .ok ([Text.halfChar code], c.next.advance n)
        else .ok ([Char.ofNat code], c.next.advance n)
    | none, none, some (_, after) => quotedBreaks (after.rest.length + 1) [] after
    | none, none, none => .error .badEscape

/-- The rest of a quoted scalar. Between single quotes only a doubled quote is special; between
double quotes a backslash is. -/
def quotedRest : (fuel : Nat) → (double : Bool) → (read : List Char) → Cursor →
    Scan (List Char × Cursor)
  | 0, _, _, _ => .error .unclosedScalar
  | fuel + 1, double, read, c =>
    match c.peek? with
    | none => .error .unclosedScalar
    | some ch =>
      if double ∧ ch = '"' then .ok (read.reverse, c.next)
      else if double ∧ ch = '\\' then do
        let (chars, c) ← escape c.next
        quotedRest fuel double (chars.reverse ++ read) c
      else if !double ∧ ch = '\'' then
        if c.peekAt? 1 = some '\'' then quotedRest fuel double ('\'' :: read) (c.advance 2)
        else .ok (read.reverse, c.next)
      else if isBlank ch || isBreak ch then do
        let (chars, c) ← quotedSpace c
        quotedRest fuel double (chars.reverse ++ read) c
      else quotedRest fuel double (ch :: read) c.next

def quotedScalar (double : Bool) (c : Cursor) : Scan (List Char × Cursor) :=
  quotedRest (c.rest.length + 1) double [] c.next

/-! Block scalars -/

/-- What happens to the line breaks at the end of a block. -/
inductive Chomping where
  | strip
  | clip
  | keep
deriving DecidableEq, Repr

structure BlockHeader where
  chomping : Chomping
  increment : Option Nat

def chomping? : Option Char → Option Chomping
  | some '+' => some .keep
  | some '-' => some .strip
  | _ => none

def increment? (c : Cursor) : Scan (Option Nat × Cursor) :=
  match c.peek? with
  | some ch =>
    if ch = '0' then .error .badBlockIndicator
    else if ch.isDigit then .ok (some (ch.toNat - '0'.toNat), c.next)
    else .ok (none, c)
  | none => .ok (none, c)

/-- The indicators after `|` or `>`, in either order, and the rest of their line, which may only
hold a comment. -/
def blockHeader (c : Cursor) : Scan (BlockHeader × Cursor) := do
  let (header, c) ← match chomping? c.peek? with
    | some chomping => do
      let (increment, c) ← increment? c.next
      pure (BlockHeader.mk chomping increment, c)
    | none => do
      let (increment, c) ← increment? c
      match increment, chomping? c.peek? with
      | some _, some chomping => pure (BlockHeader.mk chomping increment, c.next)
      | _, _ => pure (BlockHeader.mk .clip increment, c)
  if !(c.atLineEnd || c.peek? == some ' ') then throw .badBlockIndicator
  let c := c.skip (· == ' ')
  let c := if c.peek? == some '#' then c.skip (!isBreak ·) else c
  if !c.atLineEnd then throw .badBlockIndicator
  pure (header, c.next)

/-- The empty lines before a block, and the deepest column reached in them. -/
def blockIndentation : (fuel : Nat) → (read : List Char) → (deepest : Nat) → Cursor →
    List Char × Nat × Cursor
  | 0, read, deepest, c => (read, deepest, c)
  | fuel + 1, read, deepest, c =>
    match c.lineBreak? with
    | some (b, c) => blockIndentation fuel (read ++ [b]) deepest c
    | none =>
      if c.peek? == some ' ' then
        blockIndentation fuel read (max deepest c.next.column) c.next
      else (read, deepest, c)

/-- Passes over spaces up to a column. -/
def skipIndent (indent : Nat) (c : Cursor) : Cursor :=
  c.advance ((c.rest.take (indent - c.column)).takeWhile (· == ' ')).length

/-- The empty lines between lines of a block. -/
def blockBreaks : (fuel : Nat) → (indent : Nat) → (read : List Char) → Cursor → List Char × Cursor
  | 0, _, read, c => (read, c)
  | fuel + 1, indent, read, c =>
    let c := skipIndent indent c
    match c.lineBreak? with
    | some (b, c) => blockBreaks fuel indent (read ++ [b]) c
    | none => (read, c)

/-- The lines of a block. `breaks` are the line breaks that are pending: the one that ends the last
line, if there is one, and those of the empty lines after it. In a folded block the break between
two lines that start with no blank is a space. -/
def blockLines : (fuel : Nat) → (folded : Bool) → (indent : Nat) → (text : List Char) →
    (breaks : List Char) → Cursor → List Char × Option Char × List Char × Cursor
  | 0, _, _, text, breaks, c => (text, none, breaks, c)
  | fuel + 1, folded, indent, text, breaks, c =>
    let startsBlank (c : Cursor) : Bool := (c.peek?.map isBlank).getD false
    let (line, after) := c.span (!isBreak ·)
    let text := text ++ breaks ++ line
    match after.lineBreak? with
    | none => (text, none, [], after)
    | some (b, after) =>
      let (more, after) := blockBreaks (after.rest.length + 1) indent [] after
      if after.column == indent && !after.rest.isEmpty then
        let joint :=
          if folded && b == '\n' && !startsBlank c && !startsBlank after then
            if more.isEmpty then [' '] else []
          else [b]
        blockLines fuel folded indent (text ++ joint) more after
      else (text, some b, more, after)

/-- A block scalar whose enclosing collection stands at `parent`. Without an explicit increment its
first line decides how far it is indented. -/
def blockScalar (folded : Bool) (parent : Int) (c : Cursor) : Scan (List Char × Cursor) := do
  let (header, c) ← blockHeader c.next
  let least := (max (parent + 1) 1).toNat
  let (indent, breaks, c) := match header.increment with
    | none =>
      let (breaks, deepest, c) := blockIndentation (c.rest.length + 1) [] 0 c
      (max least deepest, breaks, c)
    | some increment =>
      let indent := least + increment - 1
      let (breaks, c) := blockBreaks (c.rest.length + 1) indent [] c
      (indent, breaks, c)
  let (text, last, breaks, c) :=
    if c.column == indent && !c.rest.isEmpty then
      blockLines (c.rest.length + 1) folded indent [] breaks c
    else ([], none, breaks, c)
  let ending := match header.chomping with
    | .strip => []
    | .clip => last.toList
    | .keep => last.toList ++ breaks
  pure (text ++ ending, c)

end DeclGraph.Yaml
