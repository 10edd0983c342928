import DeclGraph.Datum
import DeclGraph.Query
import DeclGraph.Query.Traced

/-!
Query expressions: queries on documents, written as data.

The null document is no value: a query that would yield it does not match. An expression may ask
for marks, each of which records a label and the context that a query was run on.
-/

namespace DeclGraph

/-- The value that a document stands for; null stands for none. -/
def Datum.value? : Datum → Option Datum
  | .null => none
  | value => some value

namespace Query

/-- The parts of a document that a query runs on. Only lists have parts. -/
inductive Selector where
  | items
  | tail
  | reversed
deriving DecidableEq, Repr

def Selector.select : Selector → Datum → List Datum
  | items, .list xs => xs
  | tail, .list xs => xs.tail
  | reversed, .list xs => xs.reverse
  | _, _ => []

inductive Predicate where
  | emptyList
  | list
  | int
  | even
deriving DecidableEq, Repr

def Predicate.holds : Predicate → Datum → Bool
  | emptyList, .list xs => xs.isEmpty
  | list, .list _ => true
  | int, .int _ => true
  | even, .int n => n % 2 == 0
  | _, _ => false

inductive Function where
  | wrap
  | length
  | negate
  | dropZero
deriving DecidableEq, Repr

def Function.apply : Function → Datum → Datum
  | wrap, value => .list [value]
  | length, .list xs => .int xs.length
  | length, _ => .int (-1)
  | negate, .int n => .int (-n)
  | negate, value => value
  | dropZero, .int 0 => .null
  | dropZero, value => value

inductive Expr where
  | fail
  | context
  | const (value : Datum)
  | positive
  | all (select : Selector) (e : Expr)
  | many (select : Selector) (e : Expr)
  | many1 (select : Selector) (e : Expr)
  | any (select : Selector) (e : Expr)
  | one (select : Selector) (e : Expr)
  | check (predicate : Predicate)
  | first (es : List Expr)
  | map (e : Expr) (f : Function)
  | orDefault (e : Expr) (default : Datum)
  | redirect (context : Datum) (e : Expr)
  | greaterItem (e : Expr)
  | into (e next : Expr)
  | andThen (e next : Expr)
  | mark (label : Datum) (e : Expr)
deriving Repr, Inhabited

/-- A label and the context that the marked query was run on. -/
abbrev Mark := Datum × Datum

/-- A bound that cannot be compared with a whole number. -/
structure Incomparable where
  bound : Datum
deriving DecidableEq, Repr

/-- A run leaves marks, and breaks off at a comparison that makes no sense. -/
abbrev TracedQuery := Query (ExceptT Incomparable (Traced Mark)) Datum Datum

def ofOption (f : Datum → Option Datum) : TracedQuery := fun c => pure (f c)

def positive? : Datum → Option Datum
  | .int i => if 0 < i then some (.int i) else none
  | _ => none

/-- Whether a bound is less than a whole number. Booleans count as zero and one. -/
def isBelow? (n : Int) : (bound : Datum) → Option Bool
  | .bool b => some ((if b then 1 else 0) < n)
  | .int i => some (i < n)
  | .float x => some (x.isBelow n)
  | _ => none

/-- The context itself, where it is a whole number above the bound. -/
def above (bound : Datum) : TracedQuery
  | .int n =>
    match isBelow? n bound with
    | some below => pure (if below then some (.int n) else none)
    | none => throw ⟨bound⟩
  | _ => pure none

def marked (label : Datum) (q : TracedQuery) : TracedQuery := fun c => do
  ExceptT.lift (Traced.mark (label, c))
  q c

def listValue (q : Query (ExceptT Incomparable (Traced Mark)) Datum (List Datum)) : TracedQuery :=
  q.mapOption fun values => some (.list values)

mutual

/-- The query that an expression denotes. -/
def Expr.eval : Expr → TracedQuery
  | .fail => Query.fail
  | .context => ofOption Datum.value?
  | .const value => ofOption fun _ => value.value?
  | .positive => ofOption positive?
  | .all select e => listValue (Query.all select.select e.eval)
  | .many select e => listValue (Query.many select.select e.eval)
  | .many1 select e => listValue (Query.many1 select.select e.eval)
  | .any select e => Query.any select.select e.eval
  | .one select e => Query.one select.select e.eval
  | .check predicate => (Query.check predicate.holds).mapOption fun _ => some (.bool true)
  | .first es => Query.first (evalAll es)
  | .map e f => e.eval.mapOption fun value => (f.apply value).value?
  | .orDefault e default =>
    match default.value? with
    | none => e.eval
    | some value => e.eval.orDefault value
  | .redirect context e => Query.redirect context e.eval
  | .greaterItem e =>
    e.eval.andThen fun bound => Query.any Selector.items.select (above bound)
  | .into e next => e.eval.andThen fun value => Query.redirect value next.eval
  | .andThen e next => e.eval.andThen fun _ => next.eval
  | .mark label e => marked label e.eval

def evalAll : List Expr → List TracedQuery
  | [] => []
  | e :: es => e.eval :: evalAll es

end

end Query

end DeclGraph
