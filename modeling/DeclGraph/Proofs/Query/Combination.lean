import Mathlib.Data.List.FinRange
import DeclGraph.Query.Expr

/-!
Expressions over the combinators of queries, and two ways to run them: as the combinators do, which
stop at a failure or at a success, and in full, with the value read off all outcomes afterwards.
-/

namespace DeclGraph.Query

/-- A run leaves marks, and breaks off where a primitive raises. -/
abbrev Run (ε μ : Type) := ExceptT ε (Traced μ)

variable {ε μ γ δ α β : Type}

/-- The run comes to its end, with these marks and this result. -/
def Returns (run : Run ε μ α) (marks : List μ) (a : α) : Prop := run.run = ⟨marks, .ok a⟩

/-- The value that a run ends with. There is none where it does not match or breaks off. -/
def answer? (run : Run ε μ (Option α)) : Option α :=
  match run.run.value with
  | .ok value => value
  | .error _ => none

theorem Returns.answer?_eq {run : Run ε μ (Option α)} {marks : List μ} {value : Option α}
    (h : Returns run marks value) : answer? run = value := by
  have hvalue := congrArg Traced.value h
  simp only at hvalue
  rw [answer?, hvalue]

theorem returns_pure (a : α) : Returns (pure a : Run ε μ α) [] a := rfl

theorem returns_pure_iff {a b : α} {marks : List μ} :
    Returns (pure a : Run ε μ α) marks b ↔ marks = [] ∧ b = a := by
  simp [Returns, Traced.ext_iff, eq_comm]

theorem returns_bind_iff {run : Run ε μ α} {next : α → Run ε μ β} {marks : List μ} {b : β} :
    Returns (run >>= next) marks b ↔
      ∃ first a rest, Returns run first a ∧ Returns (next a) rest b ∧ marks = first ++ rest := by
  simp only [Returns, ExceptT.run_bind, Traced.ext_iff, Traced.marks_bind, Traced.value_bind]
  constructor
  · rintro ⟨hmarks, hvalue⟩
    cases hrun : run.run.value with
    | error e =>
        rw [hrun] at hvalue
        cases hvalue
    | ok a =>
        rw [hrun] at hmarks hvalue
        exact ⟨_, a, _, ⟨rfl, rfl⟩, ⟨rfl, hvalue⟩, hmarks.symm⟩
  · rintro ⟨first, a, rest, ⟨rfl, hrun⟩, ⟨rfl, hnext⟩, rfl⟩
    rw [hrun]
    exact ⟨rfl, hnext⟩

theorem Returns.bind {run : Run ε μ α} {next : α → Run ε μ β} {first rest : List μ} {a : α} {b : β}
    (h : Returns run first a) (hnext : Returns (next a) rest b) :
    Returns (run >>= next) (first ++ rest) b :=
  returns_bind_iff.mpr ⟨first, a, rest, h, hnext, rfl⟩

theorem returns_map_iff {run : Run ε μ α} {f : α → β} {marks : List μ} {b : β} :
    Returns (f <$> run) marks b ↔ ∃ a, Returns run marks a ∧ f a = b := by
  rw [map_eq_pure_bind, returns_bind_iff]
  constructor
  · rintro ⟨first, a, rest, hrun, hpure, rfl⟩
    obtain ⟨rfl, rfl⟩ := returns_pure_iff.mp hpure
    exact ⟨a, by simpa using hrun, rfl⟩
  · rintro ⟨a, hrun, rfl⟩
    exact ⟨marks, a, [], hrun, returns_pure _, by simp⟩

/-! Values read off the outcomes of all runs -/

def successes (outcomes : List (Option α)) : List α := outcomes.filterMap id

def noFailure (outcomes : List (Option α)) : Option (List α) :=
  if outcomes.all Option.isSome then some (successes outcomes) else none

def someSuccess (outcomes : List (Option α)) : Option (List α) :=
  if (successes outcomes).isEmpty then none else some (successes outcomes)

def firstSuccess (outcomes : List (Option α)) : Option α := (successes outcomes).head?

def onlySuccess (outcomes : List (Option α)) : Option α :=
  if (successes outcomes).length = 1 then (successes outcomes).head? else none

theorem noFailure_cons (a : α) (outcomes : List (Option α)) :
    noFailure (some a :: outcomes) = (noFailure outcomes).map (a :: ·) := by
  simp only [noFailure, List.all_cons, Option.isSome_some, Bool.true_and, successes,
    List.filterMap_cons, id]
  split <;> rfl

theorem onlySuccess_eq (outcomes : List (Option α)) :
    onlySuccess outcomes = theOnly (successes outcomes) := by
  rw [onlySuccess]
  rcases successes outcomes with _ | ⟨a, _ | ⟨b, rest⟩⟩ <;> simp [theOnly]

/-- The elements through the first that is `p`, or all of them if none is. -/
def throughFirst (p : α → Bool) (as : List α) : List α := as.take (as.findIdx p + 1)

theorem throughFirst_cons_of_pos {p : α → Bool} {a : α} (h : p a = true) (as : List α) :
    throughFirst p (a :: as) = [a] := by
  simp [throughFirst, List.findIdx_cons, h]

theorem throughFirst_cons_of_neg {p : α → Bool} {a : α} (h : p a = false) (as : List α) :
    throughFirst p (a :: as) = a :: throughFirst p as := by
  simp [throughFirst, List.findIdx_cons, h]

/-! Expressions -/

/-- Expressions over the combinators, with any primitives, selections, tests and functions. -/
inductive Combination (ε μ : Type) : Type → Type → Type 1 where
  | primitive {γ α : Type} (read : γ → Except ε (Option α)) : Combination ε μ γ α
  | all {γ δ α : Type} (select : γ → List δ) (e : Combination ε μ δ α) :
      Combination ε μ γ (List α)
  | many {γ δ α : Type} (select : γ → List δ) (e : Combination ε μ δ α) :
      Combination ε μ γ (List α)
  | many1 {γ δ α : Type} (select : γ → List δ) (e : Combination ε μ δ α) :
      Combination ε μ γ (List α)
  | any {γ δ α : Type} (select : γ → List δ) (e : Combination ε μ δ α) : Combination ε μ γ α
  | one {γ δ α : Type} (select : γ → List δ) (e : Combination ε μ δ α) : Combination ε μ γ α
  | check {γ : Type} (holds : γ → Bool) : Combination ε μ γ Unit
  | first {γ α : Type} {n : Nat} (e : Fin n → Combination ε μ γ α) : Combination ε μ γ α
  | map {γ α β : Type} (e : Combination ε μ γ α) (f : α → Option β) : Combination ε μ γ β
  | orDefault {γ α : Type} (e : Combination ε μ γ α) (default : α) : Combination ε μ γ α
  | redirect {γ δ α : Type} (context : δ) (e : Combination ε μ δ α) : Combination ε μ γ α
  | andThen {γ α β : Type} (e : Combination ε μ γ α) (next : α → Combination ε μ γ β) :
      Combination ε μ γ β
  /-- Leaves a mark that tells on which context the expression is run. -/
  | mark {γ α : Type} (label : γ → μ) (e : Combination ε μ γ α) : Combination ε μ γ α

namespace Combination

variable {γ δ α β : Type}

/-- The query that the combinators make of an expression. -/
def run {γ α : Type} : Combination ε μ γ α → Query (Run ε μ) γ α
  | primitive read => fun c => ExceptT.mk (pure (read c))
  | all select e => Query.all select e.run
  | many select e => Query.many select e.run
  | many1 select e => Query.many1 select e.run
  | any select e => Query.any select e.run
  | one select e => Query.one select e.run
  | check holds => Query.check holds
  | first e => Query.first ((List.finRange _).map fun i => (e i).run)
  | map e f => e.run.mapOption f
  | orDefault e default => e.run.orDefault default
  | redirect context e => Query.redirect context e.run
  | andThen e next => e.run.andThen fun a => (next a).run
  | mark label e => fun c => do
    ExceptT.lift (Traced.mark (label c))
    e.run c

/-- The reference: on every selected context, and for every alternative, the expression is run
before a value is read off the outcomes. -/
def exhaust {γ α : Type} : Combination ε μ γ α → Query (Run ε μ) γ α
  | primitive read => fun c => ExceptT.mk (pure (read c))
  | all select e => fun c => noFailure <$> (select c).mapM e.exhaust
  | many select e => fun c =>
    (fun outcomes => some (successes outcomes)) <$> (select c).mapM e.exhaust
  | many1 select e => fun c => someSuccess <$> (select c).mapM e.exhaust
  | any select e => fun c => firstSuccess <$> (select c).mapM e.exhaust
  | one select e => fun c => onlySuccess <$> (select c).mapM e.exhaust
  | check holds => fun c => pure (if holds c then some () else none)
  | first e => fun c => firstSuccess <$> (List.finRange _).mapM fun i => (e i).exhaust c
  | map e f => fun c => (·.bind f) <$> e.exhaust c
  | orDefault e default => fun c => (fun value => some (value.getD default)) <$> e.exhaust c
  | redirect context e => fun _ => e.exhaust context
  | andThen e next => fun c => do
    match ← e.exhaust c with
    | none => pure none
    | some a => (next a).exhaust c
  | mark label e => fun c => do
    ExceptT.lift (Traced.mark (label c))
    e.exhaust c

/-- The marks of the part that decides: those of the contexts through the first failure for `all`,
through the first success for `any`, of the alternatives through the first success for `first`, and
of all contexts for `many`, `many1` and `one`. -/
def trace {γ α : Type} : Combination ε μ γ α → γ → List μ
  | primitive _, _ => []
  | all select e, c =>
    (throughFirst (fun d => (answer? (e.exhaust d)).isNone) (select c)).flatMap e.trace
  | many select e, c => (select c).flatMap e.trace
  | many1 select e, c => (select c).flatMap e.trace
  | any select e, c =>
    (throughFirst (fun d => (answer? (e.exhaust d)).isSome) (select c)).flatMap e.trace
  | one select e, c => (select c).flatMap e.trace
  | check _, _ => []
  | first e, c =>
    (throughFirst (fun i => (answer? ((e i).exhaust c)).isSome) (List.finRange _)).flatMap
      fun i => (e i).trace c
  | map e _, c => e.trace c
  | orDefault e _, c => e.trace c
  | redirect context e, _ => e.trace context
  | andThen e next, c =>
    e.trace c ++ (answer? (e.exhaust c)).elim [] fun a => (next a).trace c
  | mark label e, c => label c :: e.trace c

/-- No primitive in the expression raises, on any context. -/
def PrimitivesReturn {γ α : Type} : Combination ε μ γ α → Prop
  | primitive read => ∀ c, ∃ value, read c = .ok value
  | all _ e | many _ e | many1 _ e | any _ e | one _ e => e.PrimitivesReturn
  | check _ => True
  | first e => ∀ i, (e i).PrimitivesReturn
  | map e _ | orDefault e _ | redirect _ e | mark _ e => e.PrimitivesReturn
  | andThen e next => e.PrimitivesReturn ∧ ∀ a, (next a).PrimitivesReturn

end Combination

/-! Query expressions on documents -/

/-- The values of an expression that reads lists, as documents. -/
def Combination.listValue (e : Combination ε μ γ (List Datum)) : Combination ε μ γ Datum :=
  .map e fun values => some (.list values)

/-- The comparison raises where the bound cannot be compared with a whole number. -/
def readAbove (bound : Datum) : Datum → Except Incomparable (Option Datum)
  | .int n =>
    match isBelow? n bound with
    | some below => .ok (if below then some (.int n) else none)
    | none => .error ⟨bound⟩
  | _ => .ok none

mutual

def Expr.combination : Expr → Combination Incomparable Mark Datum Datum
  | .fail => .primitive fun _ => .ok none
  | .context => .primitive fun c => .ok c.value?
  | .const value => .primitive fun _ => .ok value.value?
  | .positive => .primitive fun c => .ok (positive? c)
  | .all select e => .listValue (.all select.select e.combination)
  | .many select e => .listValue (.many select.select e.combination)
  | .many1 select e => .listValue (.many1 select.select e.combination)
  | .any select e => .any select.select e.combination
  | .one select e => .one select.select e.combination
  | .check predicate => .map (.check predicate.holds) fun _ => some (.bool true)
  | .first es => .first fun i => (combinations es)[i]
  | .map e f => .map e.combination fun value => (f.apply value).value?
  | .orDefault e default =>
    match default.value? with
    | none => e.combination
    | some value => .orDefault e.combination value
  | .redirect context e => .redirect context e.combination
  | .greaterItem e =>
    .andThen e.combination fun bound =>
      .any Selector.items.select (.primitive (readAbove bound))
  | .into e next => .andThen e.combination fun value => .redirect value next.combination
  | .andThen e next => .andThen e.combination fun _ => next.combination
  | .mark label e => .mark (fun c => (label, c)) e.combination

def combinations : List Expr → List (Combination Incomparable Mark Datum Datum)
  | [] => []
  | e :: es => e.combination :: combinations es

end

theorem run_readAbove (bound : Datum) :
    (Combination.primitive (readAbove bound) : Combination Incomparable Mark Datum Datum).run =
      above bound := by
  funext c
  show ExceptT.mk (pure (readAbove bound c)) = above bound c
  cases c with
  | scalar scalar =>
      cases scalar with
      | int n =>
          simp only [readAbove, above]
          cases isBelow? n bound <;> rfl
      | _ => rfl
  | _ => rfl

mutual

/-- The query that an expression denotes is that of its combination. -/
theorem Expr.eval_eq_run : ∀ e : Expr, e.eval = e.combination.run
  | .fail | .context | .const _ | .positive | .check _ => rfl
  | .all select e => by rw [Expr.eval, Expr.eval_eq_run e]; rfl
  | .many select e => by rw [Expr.eval, Expr.eval_eq_run e]; rfl
  | .many1 select e => by rw [Expr.eval, Expr.eval_eq_run e]; rfl
  | .any select e => by rw [Expr.eval, Expr.eval_eq_run e]; rfl
  | .one select e => by rw [Expr.eval, Expr.eval_eq_run e]; rfl
  | .first es => by
      have hes := congrArg (List.map Combination.run) (List.map_getElem_finRange (combinations es))
      rw [List.map_map] at hes
      rw [Expr.eval, evalAll_eq_map_run es, ← hes]
      rfl
  | .map e f => by rw [Expr.eval, Expr.eval_eq_run e]; rfl
  | .orDefault e default => by
      rw [Expr.eval, Expr.combination, Expr.eval_eq_run e]
      cases default.value? <;> rfl
  | .redirect context e => by rw [Expr.eval, Expr.eval_eq_run e]; rfl
  | .greaterItem e => by
      rw [Expr.eval, Expr.eval_eq_run e, Expr.combination, Combination.run]
      simp only [Combination.run, ← run_readAbove]
  | .into e next => by rw [Expr.eval, Expr.eval_eq_run e, Expr.eval_eq_run next]; rfl
  | .andThen e next => by rw [Expr.eval, Expr.eval_eq_run e, Expr.eval_eq_run next]; rfl
  | .mark label e => by rw [Expr.eval, Expr.eval_eq_run e]; rfl

theorem evalAll_eq_map_run :
    ∀ es : List Expr, evalAll es = (combinations es).map Combination.run
  | [] => rfl
  | e :: es => by
      rw [evalAll, combinations, List.map_cons, ← Expr.eval_eq_run e, ← evalAll_eq_map_run es]

end

end DeclGraph.Query
