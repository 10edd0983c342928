import DeclGraph.Text.Hex
import DeclGraph.Text.Split
import DeclGraph.Yaml.Timestamp

/-!
Tags of YAML nodes: what a node is read as. A plain scalar without a tag has the one that the form of
its text asks for.
-/

namespace DeclGraph.Yaml

inductive Tag where
  | null
  | bool
  | int
  | float
  | binary
  | timestamp
  | str
  | seq
  | map
  | omap
  | pairs
  | set
  /-- The key under which a mapping takes entries from others. -/
  | merge
  /-- The key whose value stands for the whole mapping. -/
  | value
  | unknown
deriving DecidableEq, Repr, Inhabited

/-! Forms of text -/

/-- The text after a sign. -/
def unsigned : List Char → List Char
  | '-' :: cs | '+' :: cs => cs
  | cs => cs

def isDigitOr (c : Char) : Bool := c.isDigit || c == '_'

/-- A number from 0 to 59 in one or two digits. -/
def isSixtieth : List Char → Bool
  | [c] => c.isDigit
  | [c, d] => '0' ≤ c && c ≤ '5' && d.isDigit
  | _ => false

/-- Whole numbers are binary, octal, hexadecimal, decimal, or in groups of sixty. -/
def isIntText (cs : List Char) : Bool :=
  match unsigned cs with
  | ['0'] => true
  | '0' :: 'b' :: ds => !ds.isEmpty && ds.all fun c => c == '0' || c == '1' || c == '_'
  | '0' :: 'x' :: ds => !ds.isEmpty && ds.all fun c => (Text.hexValue? c).isSome || c == '_'
  | '0' :: ds => ds.all fun c => ('0' ≤ c && c ≤ '7') || c == '_'
  | d :: ds =>
    d.isDigit &&
      match Text.splitAt ':' ds with
      | first :: groups => first.all isDigitOr && groups.all isSixtieth
      | [] => false
  | [] => false

/-- An exponent has a sign. -/
def isExponentOrEmpty : List Char → Bool
  | [] => true
  | e :: sign :: ds =>
    (e == 'e' || e == 'E') && (sign == '-' || sign == '+') && !ds.isEmpty && ds.all Char.isDigit
  | _ => false

/-- A decimal point is what makes a number a float. -/
def isFloatText (cs : List Char) : Bool :=
  let afterPoint (ds : List Char) : Bool := isExponentOrEmpty (ds.dropWhile isDigitOr)
  let special := match unsigned cs with
    | '.' :: word => ["inf".toList, "Inf".toList, "INF".toList].contains word
    | _ => false
  let bare := match cs with
    | '.' :: d :: ds => d.isDigit && afterPoint ds
    | _ => false
  let sexagesimal (whole fraction : List Char) : Bool :=
    match Text.splitAt ':' whole with
    | first :: group :: groups =>
      first.all isDigitOr && (group :: groups).all isSixtieth && fraction.all isDigitOr
    | _ => false
  let pointed := match unsigned cs with
    | d :: ds =>
      d.isDigit &&
        match ds.span (· != '.') with
        | (whole, '.' :: fraction) =>
          (whole.all isDigitOr && afterPoint fraction) || sexagesimal (d :: whole) fraction
        | _ => false
    | [] => false
  [".nan".toList, ".NaN".toList, ".NAN".toList].contains cs || special || bare || pointed

def nullTexts : List String := ["~", "null", "Null", "NULL"]

/-- Words for true and false; each may also be capitalised or in capitals. -/
def boolTexts : List (String × Bool) :=
  [("yes", true), ("no", false), ("true", true), ("false", false), ("on", true), ("off", false)]

def isBoolText (text : String) : Bool :=
  boolTexts.any fun (word, _) => text == word || text == word.capitalize || text == word.toUpper

/-- A text without the line break at its end, if anything stands before it. -/
def dropFinalBreak (cs : List Char) : List Char :=
  match cs.reverse with
  | '\n' :: c :: rest => (c :: rest).reverse
  | _ => cs

namespace Tag

/-- What a text asks for by its form. One line break may stand at its end. -/
def ofForm (cs : List Char) : Tag :=
  let text := String.ofList cs
  if nullTexts.contains text then .null
  else if isBoolText text then .bool
  else if isIntText cs then .int
  else if isFloatText cs then .float
  else if text == "<<" then .merge
  else if text == "=" then .value
  else if isTimestampText cs then .timestamp
  else if ["!", "&", "*"].contains text then .unknown
  else .str

/-- The tag of a plain scalar. -/
def ofText (text : String) : Tag :=
  if text.isEmpty then .null else ofForm (dropFinalBreak text.toList)

/-- The stem of the tags that every document knows. -/
def stem : String := "tag:yaml.org,2002:"

def ofName (name : String) : Tag :=
  let known : List (String × Tag) :=
    [("null", .null), ("bool", .bool), ("int", .int), ("float", .float), ("binary", .binary),
      ("timestamp", .timestamp), ("str", .str), ("seq", .seq), ("map", .map), ("omap", .omap),
      ("pairs", .pairs), ("set", .set), ("merge", .merge), ("value", .value)]
  ((known.find? fun entry => stem ++ entry.1 == name).map (·.2)).getD .unknown

end Tag

end DeclGraph.Yaml
