import DeclGraph.Text.Hex
import DeclGraph.Text.Printable
import DeclGraph.Text.Surrogate

/-!
Strings in quotes, on one line and in visible characters.
-/

namespace DeclGraph.Text

/-- Single quotes stand around a string, unless it holds one and no double quote. -/
def quoteFor (s : List Char) : Char := if '\'' ∈ s ∧ '"' ∉ s then '"' else '\''

/-- A character between quotes. Invisible characters and halves of surrogate pairs are written by
their code point, in two, four or eight hexadecimal digits. -/
def quoteEscape (quote c : Char) : List Char :=
  if c = quote ∨ c = '\\' then ['\\', c]
  else if c = '\n' then ['\\', 'n']
  else if c = '\r' then ['\\', 'r']
  else if c = '\t' then ['\\', 't']
  else if let some unit := halfUnit? c then '\\' :: 'u' :: hexDigits 4 unit
  else if isPrintable c then [c]
  else if c.toNat < 0x100 then '\\' :: 'x' :: hexDigits 2 c.toNat
  else if c.toNat < 0x10000 then '\\' :: 'u' :: hexDigits 4 c.toNat
  else '\\' :: 'U' :: hexDigits 8 c.toNat

def quote (s : String) : String :=
  let cs := s.toList
  let mark := quoteFor cs
  String.ofList (mark :: (cs.flatMap (quoteEscape mark) ++ [mark]))

/-- A byte between quotes. Only visible ASCII stands for itself. -/
def quoteByte (mark : Char) (byte : UInt8) : List Char :=
  let c := Char.ofNat byte.toNat
  if c = mark ∨ c = '\\' then ['\\', c]
  else if c = '\n' then ['\\', 'n']
  else if c = '\r' then ['\\', 'r']
  else if c = '\t' then ['\\', 't']
  else if 0x20 ≤ byte.toNat ∧ byte.toNat < 0x7F then [c]
  else '\\' :: 'x' :: hexDigits 2 byte.toNat

/-- Bytes in quotes, after a letter that tells them from a string. -/
def quoteBytes (bytes : List UInt8) : String :=
  let mark := quoteFor (bytes.map fun byte => Char.ofNat byte.toNat)
  String.ofList ('b' :: mark :: (bytes.flatMap (quoteByte mark) ++ [mark]))

end DeclGraph.Text
