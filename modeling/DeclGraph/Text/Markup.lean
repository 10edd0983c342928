import DeclGraph.Text.CellWidth
import DeclGraph.Text.Split

/-!
Markup in labels: style tags in square brackets, which are not shown.

A tag opens with a bracket and a lower-case letter or one of `#`, `/` and `@`, and has no further
opening bracket before its closing one. Backslashes before a tag escape each other in pairs, and a
last one without a partner escapes the tag.
-/

namespace DeclGraph.Text

def isTagStart (c : Char) : Bool := ('a' ≤ c && c ≤ 'z') || c == '#' || c == '/' || c == '@'

/-- A closing bracket comes before any opening one. -/
def closesTag : List Char → Bool
  | [] => false
  | c :: cs => c == ']' || (c != '[' && closesTag cs)

/-- What follows an opening bracket makes it the start of a tag. -/
def opensTag : List Char → Bool
  | [] => false
  | c :: cs => isTagStart c && closesTag cs

/-- Escapes every tag. `pending` counts the backslashes right before the rest of the text; before a
tag they are doubled. -/
def escapeTags (pending : Nat) : List Char → List Char
  | [] => []
  | c :: cs =>
    if c = '\\' then '\\' :: escapeTags (pending + 1) cs
    else if c = '[' ∧ opensTag cs then
      List.replicate (pending + 1) '\\' ++ '[' :: escapeTags 0 cs
    else c :: escapeTags 0 cs

/-- A single backslash at the end is doubled, since a tag may follow. -/
def sealEnd (cs : List Char) : List Char :=
  match cs.reverse with
  | '\\' :: '\\' :: _ => cs
  | '\\' :: _ => cs ++ ['\\']
  | _ => cs

/-- Text as a part of a label. -/
def escapeMarkup (s : String) : String := String.ofList (sealEnd (escapeTags 0 s.toList))

/-- The characters of a label that are shown. `pending` counts the backslashes right before the rest
of the label; `inTag` holds while a tag is passed over. A bracket that starts no tag loses one
backslash before it. -/
def visibleChars (inTag : Bool) (pending : Nat) : List Char → List Char
  | [] => List.replicate pending '\\'
  | c :: cs =>
    if inTag then visibleChars (c != ']') 0 cs
    else if c = '\\' then visibleChars false (pending + 1) cs
    else if c = '[' then
      if opensTag cs then
        List.replicate (pending / 2) '\\' ++
          (if pending % 2 = 0 then visibleChars true 0 cs else '[' :: visibleChars false 0 cs)
      else List.replicate (pending - 1) '\\' ++ '[' :: visibleChars false 0 cs
    else List.replicate pending '\\' ++ c :: visibleChars false 0 cs

/-- Bell, backspace, vertical tab, form feed and carriage return are never shown. -/
def isDeviceControl (c : Char) : Bool :=
  c == '\x07' || c == '\x08' || c == '\x0b' || c == '\x0c' || c == '\r'

def visibleText (label : String) : String :=
  String.ofList ((visibleChars false 0 label.toList).filter (!isDeviceControl ·))

/-- Joins the parts of a line between its tabs. A tab is a space and as many more as lead to the next
column that is a multiple of eight. -/
def joinAtTabs (column : Nat) : List (List Char) → List Char
  | [] => []
  | [last] => last
  | part :: parts =>
    let reached := column + cells (part ++ [' '])
    let gap := (8 - reached % 8) % 8
    part ++ List.replicate (gap + 1) ' ' ++ joinAtTabs (reached + gap) parts

def expandTabs (line : List Char) : List Char := joinAtTabs 0 (splitAt '\t' line)

/-- The lines on which a label is shown. -/
def labelLines (label : String) : List String :=
  (splitAt '\n' (visibleText label).toList).map fun line => String.ofList (expandTabs line)

end DeclGraph.Text
