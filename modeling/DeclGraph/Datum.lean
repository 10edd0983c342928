import DeclGraph.Calendar
import DeclGraph.Decimal.Binary64

/-!
Data of a document: what a settings file, an environment variable or a log event may hold.

A document may contain itself. Such a document is written with knots: a knot names a value, and
inside the value a loop of that name stands for the knot. The views `items?` and `entries?` open a
value so that its parts are documents of their own.
-/

namespace DeclGraph

/-- Values without parts. Only these are keys of a mapping. -/
inductive Scalar where
  | null
  | bool (value : Bool)
  | int (value : Int)
  | float (value : Binary64)
  | str (value : String)
  | bytes (value : List UInt8)
  | date (value : Date)
  | instant (value : Instant)
deriving DecidableEq, Repr, Inhabited

/-- What a sequence of items is: a list, a pair, or a set, whose items are scalars. -/
inductive SequenceForm where
  | list
  | pair
  | set
deriving DecidableEq, Repr, Inhabited

/-- The brackets that stand around the parts of a value. -/
inductive Brackets where
  | square
  | round
  | curly
deriving DecidableEq, Repr, Inhabited

/-- A document. Mappings keep the order in which their keys were first given. -/
inductive Datum where
  | scalar (value : Scalar)
  | sequence (form : SequenceForm) (items : List Datum)
  | map (entries : List (Scalar × Datum))
  | knot (name : Nat) (value : Datum)
  | loop (name : Nat) (brackets : Brackets)
deriving Repr, Inhabited

namespace Scalar

/-- The whole number that a scalar counts as when keys are compared. -/
def number? : Scalar → Option Int
  | bool value => some (if value then 1 else 0)
  | int value => some value
  | float value => value.toInt?
  | _ => none

/-- Two scalars are one key when they are equal as numbers, as instants or as they stand. -/
def sameKey (a b : Scalar) : Bool :=
  match a, b with
  | instant s, instant t => s.same t
  | _, _ => a == b || (a.number?.isSome && a.number? == b.number?)

end Scalar

namespace Datum

@[match_pattern] abbrev null : Datum := scalar .null

@[match_pattern] abbrev bool (value : Bool) : Datum := scalar (.bool value)

@[match_pattern] abbrev int (value : Int) : Datum := scalar (.int value)

@[match_pattern] abbrev float (value : Binary64) : Datum := scalar (.float value)

@[match_pattern] abbrev str (value : String) : Datum := scalar (.str value)

@[match_pattern] abbrev list (items : List Datum) : Datum := sequence .list items

mutual

def decEq : (a b : Datum) → Decidable (a = b)
  | scalar s, scalar t => if h : s = t then isTrue (by rw [h]) else isFalse (by simp [h])
  | sequence f xs, sequence g ys =>
    match decEqList xs ys with
    | isTrue h => if hf : f = g then isTrue (by rw [h, hf]) else isFalse (by simp [hf])
    | isFalse h => isFalse (by simp [h])
  | map es, map fs =>
    match decEqEntries es fs with
    | isTrue h => isTrue (by rw [h])
    | isFalse h => isFalse (by simp [h])
  | knot m x, knot n y =>
    match decEq x y with
    | isTrue h => if hn : m = n then isTrue (by rw [h, hn]) else isFalse (by simp [hn])
    | isFalse h => isFalse (by simp [h])
  | loop m b, loop n c =>
    if h : m = n ∧ b = c then isTrue (by rw [h.1, h.2]) else isFalse (by simpa using h)
  | scalar _, sequence .. | scalar _, map _ | scalar _, knot .. | scalar _, loop ..
  | sequence .., scalar _ | sequence .., map _ | sequence .., knot .. | sequence .., loop ..
  | map _, scalar _ | map _, sequence .. | map _, knot .. | map _, loop ..
  | knot .., scalar _ | knot .., sequence .. | knot .., map _ | knot .., loop ..
  | loop .., scalar _ | loop .., sequence .. | loop .., map _ | loop .., knot .. =>
    isFalse (by simp)

def decEqList : (xs ys : List Datum) → Decidable (xs = ys)
  | [], [] => isTrue rfl
  | [], _ :: _ | _ :: _, [] => isFalse (by simp)
  | x :: xs, y :: ys =>
    match decEq x y, decEqList xs ys with
    | isTrue hx, isTrue hs => isTrue (by rw [hx, hs])
    | isFalse hx, _ => isFalse (by simp [hx])
    | _, isFalse hs => isFalse (by simp [hs])

def decEqEntries : (es fs : List (Scalar × Datum)) → Decidable (es = fs)
  | [], [] => isTrue rfl
  | [], _ :: _ | _ :: _, [] => isFalse (by simp)
  | (k, x) :: es, (l, y) :: fs =>
    match decEq x y, decEqEntries es fs with
    | isTrue hx, isTrue hs =>
      if h : k = l then isTrue (by rw [hx, hs, h]) else isFalse (by simp [h])
    | isFalse hx, _ => isFalse (by simp [hx])
    | _, isFalse hs => isFalse (by simp [hs])

end

instance : DecidableEq Datum := decEq

/-- Empty, zero and absent data count as nothing. -/
def isBlank : Datum → Bool
  | null => true
  | bool value => !value
  | int value => value == 0
  | float value => value.isZero
  | str value => value.isEmpty
  | scalar (.bytes value) => value.isEmpty
  | scalar (.date _) | scalar (.instant _) => false
  | sequence _ items => items.isEmpty
  | map entries => entries.isEmpty
  | knot .. | loop .. => false

/-! Documents that contain themselves -/

/-- The brackets around the parts of a value. -/
def brackets : Datum → Brackets
  | sequence .list _ | scalar _ => .square
  | sequence .pair _ => .round
  | sequence .set _ | map _ => .curly
  | knot _ value => value.brackets
  | loop _ brackets => brackets

mutual

/-- Puts a document in the place of the loops of a name. -/
def fill (name : Nat) (whole : Datum) : Datum → Datum
  | scalar value => scalar value
  | sequence form items => sequence form (fillAll name whole items)
  | map entries => map (fillEntries name whole entries)
  | knot n value => if n = name then knot n value else knot n (fill name whole value)
  | loop n brackets => if n = name then whole else loop n brackets

def fillAll (name : Nat) (whole : Datum) : List Datum → List Datum
  | [] => []
  | item :: items => fill name whole item :: fillAll name whole items

def fillEntries (name : Nat) (whole : Datum) : List (Scalar × Datum) → List (Scalar × Datum)
  | [] => []
  | (key, value) :: entries => (key, fill name whole value) :: fillEntries name whole entries

end

/-- A knot undone once: its value, in which the knot itself stands for the loops. -/
def untie : Datum → Datum
  | knot name value => fill name (knot name value) value
  | value => value

/-- The items of a sequence. -/
def items? (d : Datum) : Option (List Datum) :=
  match d.untie with
  | sequence _ items => some items
  | _ => none

/-- The entries of a mapping. -/
def entries? (d : Datum) : Option (List (Scalar × Datum)) :=
  match d.untie with
  | map entries => some entries
  | _ => none

@[simp] theorem items?_list (items : List Datum) : (list items).items? = some items := rfl

@[simp] theorem entries?_map (entries : List (Scalar × Datum)) :
    (map entries).entries? = some entries := rfl

end Datum

/-- The entries of a mapping, in order. -/
abbrev Entries := List (Scalar × Datum)

namespace Entries

def get? (entries : Entries) (key : Scalar) : Option Datum :=
  (List.find? (fun entry => entry.1.sameKey key) entries).map (·.2)

/-- The value of a key, which is added last if it is new. -/
def insert : Entries → Scalar → Datum → Entries
  | [], key, value => [(key, value)]
  | (k, v) :: entries, key, value =>
    if k.sameKey key then (k, value) :: entries else (k, v) :: insert entries key value

def erase (entries : Entries) (key : Scalar) : Entries :=
  List.filter (fun entry => !entry.1.sameKey key) entries

/-- The entries but for those of these names. -/
def without (entries : Entries) (names : List String) : Entries :=
  List.filter (fun entry => !names.any fun name => entry.1.sameKey (.str name)) entries

/-- Adds all entries of `more`, which replace those with the same key. -/
def insertAll (entries more : Entries) : Entries :=
  more.foldl (fun acc entry => acc.insert entry.1 entry.2) entries

/-- A mapping in which a repeated key has its last value, at its first place. -/
def ofList (entries : List (Scalar × Datum)) : Entries := insertAll [] entries

end Entries

end DeclGraph
