import DeclGraph.Yaml.ScalarText

/-!
Tokens of a YAML text. Indentation and keys are made explicit: block collections have a start and
an end, and a key has a token before it, even if only the colon after it shows that it is one.
-/

namespace DeclGraph.Yaml

inductive Token where
  | version (major : Nat)
  | tagHandle (handle stem : String)
  | otherDirective
  | documentStart
  | documentEnd
  | blockSequenceStart
  | blockMappingStart
  | blockEnd
  | flowSequenceStart
  | flowSequenceEnd
  | flowMappingStart
  | flowMappingEnd
  | blockEntry
  | flowEntry
  | key
  | value
  | alias (name : String)
  | anchor (name : String)
  | tag (handle : Option String) (suffix : String)
  | scalar (isPlain : Bool) (text : String)
deriving DecidableEq, Repr, Inhabited

/-- Tokens up to the end of a text, or up to a place that cannot be read. What goes wrong before that
place is found out first. -/
structure TokenStream where
  tokens : List Token
  problem : Option Problem
deriving Repr

/-- A node that will have been a key if a colon follows it on its line. -/
structure KeyCandidate where
  /-- Where the tokens of the node begin. -/
  position : Nat
  /-- Nothing else may start at this place. -/
  required : Bool
  index : Nat
  line : Nat
  column : Nat
deriving Repr

/-- Indentation and brackets around a place in the text, and the tokens before it. -/
structure Lexer where
  cursor : Cursor
  tokens : Array Token
  /-- The column of the innermost block collection, -1 outside all. -/
  indent : Int
  /-- Those of the collections around it, from the inside out. -/
  outerIndents : List Int
  keyAllowed : Bool
  candidate : Option KeyCandidate
  /-- One entry for each open bracket, the innermost first: the candidate outside it. -/
  brackets : List (Option KeyCandidate)
deriving Repr

namespace Lexer

def ofCursor (cursor : Cursor) : Lexer := ⟨cursor, #[], -1, [], true, none, []⟩

def inFlow (s : Lexer) : Bool := !s.brackets.isEmpty

def emit (token : Token) (s : Lexer) : Lexer := { s with tokens := s.tokens.push token }

def goTo (cursor : Cursor) (s : Lexer) : Lexer := { s with cursor }

def allowKey (keyAllowed : Bool) (s : Lexer) : Lexer := { s with keyAllowed }

/-! Places between tokens -/

def skipComment (c : Cursor) : Cursor := if c.peek? == some '#' then c.skip (!isBreak ·) else c

/-- Passes over spaces, comments and line breaks. A new line allows a key, except in brackets. -/
def skipSpace : (fuel : Nat) → Lexer → Lexer
  | 0, s => s
  | fuel + 1, s =>
    let c := skipComment (s.cursor.skip (· == ' '))
    match c.lineBreak? with
    | some (_, c) => skipSpace fuel { s with cursor := c, keyAllowed := s.keyAllowed || !s.inFlow }
    | none => { s with cursor := c }

/-- A byte order mark may start a text. -/
def skipMark (s : Lexer) : Lexer :=
  if s.cursor.index = 0 ∧ s.cursor.peek? = some '\uFEFF' then s.goTo s.cursor.next else s

/-! Keys -/

/-- A key lies on one line and is not longer than 1024 characters. -/
def KeyCandidate.isStale (k : KeyCandidate) (c : Cursor) : Bool :=
  k.line != c.line || 1024 < c.index - k.index

def dropStale (c : Cursor) : Option KeyCandidate → Scan (Option KeyCandidate)
  | none => .ok none
  | some k =>
    if KeyCandidate.isStale k c then
      if k.required then .error .unfinishedKey else .ok none
    else .ok (some k)

def dropAllStale (s : Lexer) : Scan Lexer := do
  let candidate ← dropStale s.cursor s.candidate
  let brackets ← s.brackets.mapM (dropStale s.cursor)
  .ok { s with candidate, brackets }

def forgetKey (s : Lexer) : Scan Lexer :=
  match s.candidate with
  | some k => if k.required then .error .unfinishedKey else .ok { s with candidate := none }
  | none => .ok s

/-- Notes that the node that starts here may become a key. -/
def noteKey (s : Lexer) : Scan Lexer :=
  if s.keyAllowed then do
    let s ← s.forgetKey
    let c := s.cursor
    let required := !s.inFlow && s.indent == c.column
    .ok { s with candidate := some ⟨s.tokens.size, required, c.index, c.line, c.column⟩ }
  else .ok s

/-! Indentation -/

/-- Ends the block collections that are indented deeper than a column. -/
def unwindTo (column : Int) (s : Lexer) : Lexer :=
  if s.inFlow then s
  else
    let opened := s.indent :: s.outerIndents
    let ended := opened.takeWhile (column < ·)
    match opened.drop ended.length with
    | [] => s
    | indent :: outerIndents =>
      { s with
        indent := indent, outerIndents := outerIndents,
        tokens := s.tokens ++ Array.replicate ended.length Token.blockEnd }

/-- Starts a block collection, if the column is deeper than that of the innermost one. -/
def indentAt (column position : Nat) (start : Token) (s : Lexer) : Lexer :=
  if s.indent < column then
    { s with
      indent := column, outerIndents := s.indent :: s.outerIndents,
      tokens := s.tokens.insertIdxIfInBounds position start }
  else s

/-! Tokens -/

def isNameChar (c : Char) : Bool := c.isAlphanum || c == '-' || c == '_'

/-- A token of `width` characters that ends whatever key there might have been. -/
def punctuation (token : Token) (width : Nat) (keyAllowed : Bool) (s : Lexer) : Scan Lexer := do
  let s ← s.forgetKey
  .ok ((s.emit token).goTo (s.cursor.advance width) |>.allowKey keyAllowed)

def openBracket (token : Token) (s : Lexer) : Scan Lexer := do
  let s ← s.noteKey
  .ok { s.emit token with
    cursor := s.cursor.next, keyAllowed := true, candidate := none,
    brackets := s.candidate :: s.brackets }

def closeBracket (token : Token) (s : Lexer) : Scan Lexer := do
  let s ← s.forgetKey
  match s.brackets with
  | [] => .error .unexpectedToken
  | outer :: brackets =>
    .ok { s.emit token with
      cursor := s.cursor.next, keyAllowed := false, candidate := outer, brackets := brackets }

def blockEntry (s : Lexer) : Scan Lexer := do
  if s.inFlow then s.punctuation .blockEntry 1 true
  else if !s.keyAllowed then .error .misplacedEntry
  else
    let s := s.indentAt s.cursor.column s.tokens.size .blockSequenceStart
    s.punctuation .blockEntry 1 true

def explicitKey (s : Lexer) : Scan Lexer := do
  if s.inFlow then s.punctuation .key 1 false
  else if !s.keyAllowed then .error .misplacedKey
  else
    let s := s.indentAt s.cursor.column s.tokens.size .blockMappingStart
    s.punctuation .key 1 true

/-- A colon makes the pending candidate a key. Without one it stands for an empty key. -/
def value (s : Lexer) : Scan Lexer :=
  match s.candidate with
  | some k =>
    let s := { s with
      candidate := none, tokens := s.tokens.insertIdxIfInBounds k.position .key }
    let s := if s.inFlow then s else s.indentAt k.column k.position .blockMappingStart
    .ok ((s.emit .value).goTo s.cursor.next |>.allowKey false)
  | none =>
    if s.inFlow then s.punctuation .value 1 false
    else if !s.keyAllowed then .error .misplacedValue
    else
      let s := s.indentAt s.cursor.column s.tokens.size .blockMappingStart
      s.punctuation .value 1 true

def anchorName (token : String → Token) (s : Lexer) : Scan Lexer := do
  let s ← s.noteKey
  let (name, c) := s.cursor.next.span isNameChar
  let ends := match c.peek? with
    | none => true
    | some ch => isBlank ch || isBreak ch || "?:,]\x7d%@\x60".toList.contains ch
  if name.isEmpty || !ends then .error .badAnchor
  else .ok ((s.emit (token (String.ofList name))).goTo c |>.allowKey false)

/-- The characters of a tag. Bytes may be written as a percent sign and two digits. -/
def tagChars : (fuel : Nat) → (bytes : List UInt8) → List Char → Option (List UInt8 × List Char)
  | 0, _, _ => none
  | _ + 1, bytes, [] => some (bytes, [])
  | fuel + 1, bytes, ch :: cs =>
    if ch = '%' then
      match Text.hexNumber 2 cs with
      | some (byte, rest) => tagChars fuel (bytes ++ [byte.toUInt8]) rest
      | none => none
    else if ch.isAlphanum || "-;/?:@&=+$,_.!~*'()[]".toList.contains ch then
      tagChars fuel (bytes ++ [ch.toNat.toUInt8]) cs
    else some (bytes, ch :: cs)

def tagText (c : Cursor) : Scan (String × Cursor) :=
  match tagChars (c.rest.length + 1) [] c.rest with
  | some ([], _) | none => .error .badTag
  | some (bytes, rest) =>
    match String.fromUTF8? ⟨bytes.toArray⟩ with
    | some text => .ok (text, c.advance (c.rest.length - rest.length))
    | none => .error .badTag

/-- A handle: an exclamation mark alone, or a name between two. -/
def handle (c : Cursor) : Scan (String × Cursor) :=
  if c.peek? != some '!' then .error .badTag
  else if c.peekAt? 1 == some ' ' then .ok ("!", c.next)
  else
    let (name, after) := c.next.span isNameChar
    if after.peek? == some '!' then .ok ("!" ++ String.ofList name ++ "!", after.next)
    else .error .badTag

def tag (s : Lexer) : Scan Lexer := do
  let s ← s.noteKey
  let c := s.cursor
  let (token, c) ←
    if c.peekAt? 1 == some '<' then do
      let (suffix, c) ← tagText (c.advance 2)
      if c.peek? != some '>' then throw .badTag
      pure (Token.tag none suffix, c.next)
    else if c.blankAt 1 then pure (Token.tag none "!", c.next)
    else do
      let word := c.next.rest.takeWhile fun ch => ch != ' ' && !isBreak ch
      let (handle, c) ← if word.contains '!' then handle c else pure ("!", c.next)
      let (suffix, c) ← tagText c
      pure (Token.tag (some handle) suffix, c)
  if !(c.atLineEnd || c.peek? == some ' ') then throw .badTag
  .ok ((s.emit token).goTo c |>.allowKey false)

/-- A number of a version directive. -/
def versionNumber (c : Cursor) : Scan (Nat × Cursor) :=
  match c.span Char.isDigit with
  | ([], _) => .error .badDirective
  | (digits, c) => .ok (digits.foldl (fun n d => 10 * n + (d.toNat - '0'.toNat)) 0, c)

def versionDirective (c : Cursor) : Scan (Token × Cursor) := do
  let (major, c) ← versionNumber (c.skip (· == ' '))
  if c.peek? != some '.' then throw .badDirective
  let (_, c) ← versionNumber c.next
  if !(c.atLineEnd || c.peek? == some ' ') then throw .badDirective
  pure (.version major, c)

def tagDirective (c : Cursor) : Scan (Token × Cursor) := do
  let (handle, c) ← handle (c.skip (· == ' '))
  if c.peek? != some ' ' then throw .badDirective
  let (stem, c) ← tagText (c.skip (· == ' '))
  if !(c.atLineEnd || c.peek? == some ' ') then throw .badDirective
  pure (.tagHandle handle stem, c)

def directive (s : Lexer) : Scan Lexer := do
  let s ← (s.unwindTo (-1)).forgetKey
  let (name, c) := s.cursor.next.span isNameChar
  if name.isEmpty || !(c.atLineEnd || c.peek? == some ' ') then throw .badDirective
  let (token, c) ←
    if name = "YAML".toList then versionDirective c
    else if name = "TAG".toList then tagDirective c
    else pure (Token.otherDirective, c.skip (!isBreak ·))
  let c := skipComment (c.skip (· == ' '))
  if !c.atLineEnd then throw .badDirective
  let c := (c.lineBreak?.map (·.2)).getD c
  .ok ((s.emit token).goTo c |>.allowKey false)

def plain (s : Lexer) : Scan Lexer := do
  let s ← s.noteKey
  let read := plainScalar s.inFlow (s.indent + 1).toNat s.cursor
  .ok ((s.emit (.scalar true (String.ofList read.text))).goTo read.after |>.allowKey read.lineFollows)

def quoted (double : Bool) (s : Lexer) : Scan Lexer := do
  let s ← s.noteKey
  let (text, c) ← quotedScalar double s.cursor
  .ok ((s.emit (.scalar false (String.ofList text))).goTo c |>.allowKey false)

def block (folded : Bool) (s : Lexer) : Scan Lexer := do
  let s ← s.forgetKey
  let (text, c) ← blockScalar folded s.indent s.cursor
  .ok ((s.emit (.scalar false (String.ofList text))).goTo c |>.allowKey true)

/-- A plain scalar starts with no indicator, or with one that no blank follows. -/
def startsPlain (s : Lexer) (ch : Char) : Bool :=
  !(isBlank ch || isBreak ch || "-?:,[]\x7b\x7d#&*!|>'\"%@\x60".toList.contains ch) ||
    (!s.cursor.blankAt 1 && (ch == '-' || (!s.inFlow && (ch == '?' || ch == ':'))))

/-- Reads the token that starts with `ch`. -/
def readToken (ch : Char) (s : Lexer) : Scan Lexer :=
  let c := s.cursor
  if ch = '%' ∧ c.column = 0 then s.directive
  else if ch = '-' ∧ c.column = 0 ∧ c.atSeparator then
    (s.unwindTo (-1)).punctuation .documentStart 3 false
  else if ch = '.' ∧ c.column = 0 ∧ c.atSeparator then
    (s.unwindTo (-1)).punctuation .documentEnd 3 false
  else if ch = '[' then s.openBracket .flowSequenceStart
  else if ch = '\x7b' then s.openBracket .flowMappingStart
  else if ch = ']' then s.closeBracket .flowSequenceEnd
  else if ch = '\x7d' then s.closeBracket .flowMappingEnd
  else if ch = ',' then s.punctuation .flowEntry 1 true
  else if ch = '-' ∧ c.blankAt 1 then s.blockEntry
  else if ch = '?' ∧ (s.inFlow ∨ c.blankAt 1) then s.explicitKey
  else if ch = ':' ∧ (s.inFlow ∨ c.blankAt 1) then s.value
  else if ch = '*' then s.anchorName .alias
  else if ch = '&' then s.anchorName .anchor
  else if ch = '!' then s.tag
  else if ch = '|' ∧ !s.inFlow then s.block false
  else if ch = '>' ∧ !s.inFlow then s.block true
  else if ch = '\'' then s.quoted false
  else if ch = '"' then s.quoted true
  else if s.startsPlain ch then s.plain
  else .error .strayCharacter

/-- Where the pending keys begin: nothing is known there until they are settled. A key that has
become stale is no longer pending. -/
def settled (s : Lexer) : Nat :=
  let pending := (s.candidate :: s.brackets).filterMap fun candidate =>
    candidate.filter fun k => !KeyCandidate.isStale k s.cursor
  (pending.map (·.position)).foldl min s.tokens.size

/-- The tokens before a place that cannot be read. -/
def stopped (s : Lexer) (problem : Problem) : TokenStream :=
  ⟨s.tokens.toList.take s.settled, some problem⟩

/-- Reads one more token; `none` at the end of the text. -/
def advance? (s : Lexer) : Scan (Option Lexer) := do
  let s := skipSpace (s.cursor.rest.length + 1) s.skipMark
  let s ← s.dropAllStale
  let s := s.unwindTo s.cursor.column
  match s.cursor.peek? with
  | none => .ok none
  | some ch => some <$> s.readToken ch

/-- The end of a text ends all its block collections. -/
def finish (s : Lexer) : Scan (List Token) := do
  let s := skipSpace (s.cursor.rest.length + 1) s.skipMark
  let s ← s.dropAllStale
  let s ← (s.unwindTo (-1)).forgetKey
  .ok s.tokens.toList

def readAll : (fuel : Nat) → Lexer → TokenStream
  | 0, s => s.stopped .strayCharacter
  | fuel + 1, s =>
    match s.advance? with
    | .error problem => s.stopped problem
    | .ok (some next) => readAll fuel next
    | .ok none =>
      match s.finish with
      | .error problem => s.stopped problem
      | .ok tokens => ⟨tokens, none⟩

end Lexer

/-- The tokens of a text. Each takes at least one character. -/
def TokenStream.ofString (text : String) : TokenStream :=
  let cursor := Cursor.ofString text
  if cursor.rest.all isAllowed then
    Lexer.readAll (cursor.rest.length + 1) (.ofCursor cursor)
  else ⟨[], some .unprintable⟩

end DeclGraph.Yaml
