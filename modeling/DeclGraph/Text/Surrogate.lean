import DeclGraph.Text.Hex

/-!
Halves of surrogate pairs.

A text may name one half of a pair without the other, which is no character. Such a half is held as
one of 2048 private code points in its place, from U+10F000 to U+10F7FF. Those code points have no
other use: a text in which one of them stands for itself is taken for a text with a half.

A half has no bytes, and text that holds one can in general be neither written to a file nor handed
to the system. For the system's own sake 128 of the halves stand for single bytes.
-/

namespace DeclGraph.Text

/-- The first of the code points that stand for halves. -/
def halfBase : Nat := 0x10F000

def isHalfUnit (unit : Nat) : Bool := 0xD800 ≤ unit && unit < 0xE000

/-- The character that stands for a half. It no longer stands for itself. -/
def halfChar (unit : Nat) : Char := Char.ofNat (halfBase + (unit - 0xD800))

/-- The half that a character stands for. -/
def halfUnit? (c : Char) : Option Nat :=
  if halfBase ≤ c.toNat ∧ c.toNat < halfBase + 0x800 then some (0xD800 + (c.toNat - halfBase)) else none

def hasHalf (s : String) : Bool := s.toList.any fun c => (halfUnit? c).isSome

/-- Two halves in a row that make up a pair are one character. -/
def joinHalves : List Char → List Char
  | c :: d :: cs =>
    match halfUnit? c, halfUnit? d with
    | some high, some low =>
      if high < 0xDC00 ∧ 0xDC00 ≤ low then
        Char.ofNat (0x10000 + (high - 0xD800) * 0x400 + (low - 0xDC00)) :: joinHalves cs
      else c :: joinHalves (d :: cs)
    | _, _ => c :: joinHalves (d :: cs)
  | cs => cs

/-- Text with each half replaced, one replacement character for each byte it would take up. -/
def replaceHalves (s : String) : String :=
  String.ofList (s.toList.flatMap fun c =>
    if (halfUnit? c).isSome then List.replicate 3 '\uFFFD' else [c])

/-! Text for the system -/

/-- The half stands for a single byte beyond ASCII. -/
def isByteUnit (unit : Nat) : Bool := 0xDC80 ≤ unit && unit < 0xDD00

/-- Bytes that a text takes up for the system. -/
def systemSize (cs : List Char) : Nat :=
  cs.foldl (fun size c => size + if (halfUnit? c).isSome then 1 else c.utf8Size) 0

/-- Why a text cannot be handed to the system. -/
inductive SystemProblem where
  /-- Halves in a row, of which the first stands for no byte, and how much text is before them. -/
  | halves (start : Nat) (units : List Nat)
  /-- The character that ends a text for the system. -/
  | nul
deriving DecidableEq, Repr

def SystemProblem.message : SystemProblem → String
  | halves start [unit] =>
    "'utf-8' codec can't encode character '\\u" ++ String.ofList (hexDigits 4 unit) ++
      "' in position " ++ toString start ++ ": surrogates not allowed"
  | halves start units =>
    "'utf-8' codec can't encode characters in position " ++ toString start ++ "-" ++
      toString (start + units.length - 1) ++ ": surrogates not allowed"
  | nul => "embedded null byte"

/-- A half that stands for no byte. -/
def isBareHalf (c : Char) : Bool := (halfUnit? c).any fun unit => !isByteUnit unit

/-- Halves are found before the character that ends a text. -/
def systemProblem? (cs : List Char) : Option SystemProblem :=
  let before := cs.takeWhile fun c => !isBareHalf c
  let halves := (cs.drop before.length).takeWhile fun c => (halfUnit? c).isSome
  if !halves.isEmpty then some (.halves before.length (halves.filterMap halfUnit?))
  else if cs.contains '\x00' then some .nul
  else none

end DeclGraph.Text
