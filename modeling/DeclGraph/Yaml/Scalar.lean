import DeclGraph.Decimal.Reader
import DeclGraph.Text.Base64
import DeclGraph.Text.LetterCase
import DeclGraph.Text.Quoted
import DeclGraph.Yaml.Problem
import DeclGraph.Yaml.Tag

/-!
What the text of a scalar says under its tag: nothing, a truth value, a number, bytes, a date, or the
text itself.
-/

namespace DeclGraph.Yaml

/-- A quotation in a message about whole numbers is cut. -/
def excerpt (cs : List Char) : String := ((Text.quote (String.ofList cs)).take 200).toString

def wholeNumber (base : Nat) (cs : List Char) : Except Problem Int :=
  match Text.wholeNumber base cs with
  | .ok n => .ok n
  | .error .malformed => .error (.notInteger (excerpt cs) base)
  | .error (.tooLong digits) => .error (.tooManyDigits digits)

def realNumber (cs : List Char) : Except Problem Binary64 :=
  match Binary64.read? cs with
  | some x => .ok x
  | none => .error (.notNumber (Text.quote (String.ofList cs)))

def withoutUnderscores (cs : List Char) : List Char := cs.filter (· != '_')

/-- Groups count sixty of the next, from the first to the last. -/
def sexagesimal (groups : List Int) : Int := groups.foldl (fun n group => 60 * n + group) 0

/-- A whole number without its sign. -/
def magnitude (cs : List Char) : Except Problem Int :=
  match cs with
  | [] => .error .noNumber
  | ['0'] => .ok 0
  | '0' :: 'b' :: ds => wholeNumber 2 ds
  | '0' :: 'x' :: ds => wholeNumber 16 ds
  | '0' :: _ => wholeNumber 8 cs
  | _ =>
    if cs.contains ':' then sexagesimal <$> (Text.splitAt ':' cs).mapM (wholeNumber 10)
    else wholeNumber 10 cs

def intValue (text : String) : Except Problem Int :=
  let (negative, cs) := Text.splitSign (withoutUnderscores text.toList)
  (magnitude cs).map fun n => if negative then -n else n

/-- The sum of groups, of which the last counts once, the one before it sixty times, and so on. -/
def sexagesimalReal (groups : List Binary64) : Except Problem Binary64 :=
  groups.reverse.zipIdx.foldlM (fun sum (group, i) =>
    let weight := Binary64.ofNat (Nat.pow 60 i)
    if weight.isInfinite then .error .weightTooLarge
    else .ok (sum.add (group.mul weight))) (.finite false 0)

def floatValue (text : String) : Except Problem Binary64 :=
  let word := Text.lower (String.ofList (withoutUnderscores text.toList))
  let (negative, cs) := Text.splitSign word.toList
  let unsigned : Except Problem Binary64 :=
    if word.isEmpty then .error .noNumber
    else if cs = ".inf".toList then .ok (.infinite false)
    else if cs = ".nan".toList then .ok .nan
    else if cs.contains ':' then do sexagesimalReal (← (Text.splitAt ':' cs).mapM realNumber)
    else realNumber cs
  unsigned.map fun x => if negative then x.negate else x

def boolValue (text : String) : Except Problem Bool :=
  match boolTexts.lookup (Text.lower text) with
  | some b => .ok b
  | none => .error .notBoolean

def binaryValue (text : String) : Except Problem (List UInt8) :=
  if text.toList.all fun c => c.toNat < 0x80 then
    match Text.Base64.decode text.toList with
    | some bytes => .ok bytes
    | none => .error .badBinary
  else .error .badBinary

def timestampValue (text : String) : Except Problem Scalar :=
  let checked (s : Scalar) : Option String → Except Problem Scalar
    | none => .ok s
    | some reason => .error (.notInCalendar reason)
  match timestamp? (dropFinalBreak text.toList) with
  | some (.date d) => checked (.date d) d.problem?
  | some (.instant t) => checked (.instant t) t.problem?
  | _ => .error .notTimestamp

/-- The scalar that a text is under a tag; `none` for the tags of collections and for those without
a meaning. -/
def Tag.scalar? (text : String) : Tag → Option (Except Problem Scalar)
  | .null => some (.ok .null)
  | .bool => some (.bool <$> boolValue text)
  | .int => some (.int <$> intValue text)
  | .float => some (.float <$> floatValue text)
  | .binary => some (.bytes <$> binaryValue text)
  | .timestamp => some (timestampValue text)
  | .str => some (.ok (.str text))
  | .seq | .map | .omap | .pairs | .set | .merge | .value | .unknown => none

end DeclGraph.Yaml
