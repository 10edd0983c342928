import DeclGraph.Datum

/-!
Timestamps: dates, and instants with or without a zone.
-/

namespace DeclGraph.Yaml

/-- A number of `least` to `most` digits. -/
def digits? (least most : Nat) (cs : List Char) : Option (Nat × List Char) :=
  let ds := (cs.take most).takeWhile Char.isDigit
  if ds.length < least then none
  else some (ds.foldl (fun n d => 10 * n + (d.toNat - '0'.toNat)) 0, cs.drop ds.length)

def literal? (c : Char) : List Char → Option (List Char)
  | d :: cs => if c = d then some cs else none
  | [] => none

def isPad (c : Char) : Bool := c == ' ' || c == '\t'

/-- The distance from universal time at the end of a timestamp. -/
def zone? (cs : List Char) : Option (Option Int) :=
  match cs with
  | [] => some none
  | _ =>
    match cs.dropWhile isPad with
    | ['Z'] => some (some 0)
    | sign :: rest =>
      if sign = '-' ∨ sign = '+' then do
        let (hours, rest) ← digits? 1 2 rest
        let minutes ← match rest with
          | [] => some 0
          | ':' :: rest =>
            match digits? 2 2 rest with
            | some (minutes, []) => some minutes
            | _ => none
          | _ => none
        let distance : Int := 60 * hours + minutes
        some (some (if sign = '-' then -distance else distance))
      else none
    | [] => none

/-- The first six digits of a fraction of a second. -/
def microseconds (ds : List Char) : Nat :=
  ((ds ++ List.replicate 6 '0').take 6).foldl (fun n d => 10 * n + (d.toNat - '0'.toNat)) 0

def time? (date : Date) (cs : List Char) : Option Scalar := do
  let rest ← match cs with
    | 'T' :: rest | 't' :: rest => some rest
    | ' ' :: rest | '\t' :: rest => some (rest.dropWhile isPad)
    | _ => none
  let (hour, rest) ← digits? 1 2 rest
  let (minute, rest) ← digits? 2 2 (← literal? ':' rest)
  let (second, rest) ← digits? 2 2 (← literal? ':' rest)
  let (fraction, rest) := match rest with
    | '.' :: rest => (rest.takeWhile Char.isDigit, rest.dropWhile Char.isDigit)
    | _ => ([], rest)
  let offset ← zone? rest
  some (.instant ⟨date, hour, minute, second, microseconds fraction, offset⟩)

/-- What a timestamp says. Months and days may have one digit. -/
def timestamp? (cs : List Char) : Option Scalar := do
  let (year, rest) ← digits? 4 4 cs
  let (month, rest) ← digits? 1 2 (← literal? '-' rest)
  let (day, rest) ← digits? 1 2 (← literal? '-' rest)
  match rest with
  | [] => some (.date ⟨year, month, day⟩)
  | _ => time? ⟨year, month, day⟩ rest

/-- A text that is a timestamp by itself: a date alone has two digits for month and day. -/
def isTimestampText (cs : List Char) : Bool :=
  match timestamp? cs with
  | some (.date _) => cs.length == 10
  | some _ => true
  | none => false

end DeclGraph.Yaml
