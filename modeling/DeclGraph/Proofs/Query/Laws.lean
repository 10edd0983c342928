import DeclGraph.Proofs.Query.Combination

/-!
The algebra of queries. The equations hold in every lawful monad, so for the values that are found as
for the effects of the runs, such as the marks that traced runs leave.
-/

namespace DeclGraph.Query

variable {m : Type → Type} [Monad m] {γ δ α β ρ : Type}

theorem first_cons (q : Query m γ α) (qs : List (Query m γ α)) (c : γ) :
    first (q :: qs) c = q c >>= fun value =>
      value.elim (first qs c) fun a => pure (some a) := by
  rw [first]
  refine bind_congr fun value => ?_
  cases value <;> rfl

theorem any_eq_first (select : γ → List δ) (q : Query m δ α) (c : γ) :
    any select q c = first ((select c).map fun d => redirect d q) c := by
  rw [any]
  induction select c with
  | nil => rfl
  | cons d ds ih =>
      rw [List.map_cons, first_cons, ← ih, anyOf]
      refine bind_congr fun value => ?_
      cases value <;> rfl

variable [LawfulMonad m]

theorem first_singleton (q : Query m γ α) : first [q] = q := by
  funext c
  rw [first_cons]
  calc
    _ = q c >>= pure := by
      refine bind_congr fun value => ?_
      cases value <;> rfl
    _ = q c := bind_pure (q c)

/-- The alternatives of a choice may be gathered into choices of their own. -/
theorem first_append (qs rs : List (Query m γ α)) :
    first (qs ++ rs) = first [first qs, first rs] := by
  funext c
  induction qs with
  | nil =>
      rw [List.nil_append, first_cons, first_singleton, first, fail, pure_bind, Option.elim_none]
  | cons q qs ih =>
      rw [List.cons_append, first_cons, ih, first_cons, first_singleton, first_cons, first_cons,
        bind_assoc]
      refine bind_congr fun value => ?_
      cases value with
      | none => rw [Option.elim_none, Option.elim_none, first_singleton]
      | some a => rw [Option.elim_some, Option.elim_some, pure_bind, Option.elim_some]

theorem first_flatten (before qs after : List (Query m γ α)) :
    first (before ++ first qs :: after) = first (before ++ qs ++ after) := by
  have hnested : first (first qs :: after) = first (qs ++ after) := by
    rw [first_append, ← List.singleton_append, first_append, first_singleton]
  rw [first_append, hnested, ← first_append, List.append_assoc]

theorem first_fail (before after : List (Query m γ α)) :
    first (before ++ fail :: after) = first (before ++ after) := by
  have hflatten := first_flatten before [] after
  rwa [List.append_nil] at hflatten

theorem andThen_andThen (a : Query m γ α) (f : α → Query m γ β) (g : β → Query m γ ρ) :
    (a.andThen f).andThen g = a.andThen fun value => (f value).andThen g := by
  funext c
  simp only [andThen, bind_assoc]
  refine bind_congr fun value => ?_
  cases value with
  | none => exact pure_bind none _
  | some a => rfl

theorem orDefault_eq_first (q : Query m γ α) (default : α) :
    q.orDefault default = first [q, succeed default] := by
  funext c
  rw [first_cons, first_singleton, orDefault, map_eq_pure_bind]
  refine bind_congr fun value => ?_
  cases value <;> rfl

theorem mapOption_mapOption (q : Query m γ α) (f : α → Option β) (g : β → Option ρ) :
    (q.mapOption f).mapOption g = q.mapOption fun value => (f value).bind g := by
  funext c
  simp only [mapOption, Functor.map_map]
  congr 1
  funext value
  cases value <;> rfl

/-- The query after a choice decides nothing: later alternatives are run where the first does not
match. -/
theorem andThen_first_cons (a : Query m γ α) (alternatives : List (Query m γ α))
    (f : α → Query m γ β) (c : γ) :
    andThen (first (a :: alternatives)) f c = a c >>= fun value =>
      value.elim (andThen (first alternatives) f c) fun found => f found c := by
  simp only [andThen, first_cons, bind_assoc]
  refine bind_congr fun value => ?_
  cases value with
  | none => rw [Option.elim_none, Option.elim_none]
  | some found => rw [Option.elim_some, Option.elim_some, pure_bind]

theorem andThen_first_of_matches {a : Query m γ α} {c : γ} {run : m α} (h : a c = some <$> run)
    (alternatives : List (Query m γ α)) (f : α → Query m γ β) :
    andThen (first (a :: alternatives)) f c = andThen a f c := by
  rw [andThen_first_cons]
  simp only [andThen, h, bind_map_left]
  rfl

/-- Null is no value, so that a default of null changes nothing. -/
theorem eval_orDefault (e : Expr) (default : Datum) :
    (Expr.orDefault e default).eval = (Expr.first [e, .const default]).eval := by
  simp only [Expr.eval, evalAll]
  cases hvalue : default.value? with
  | none =>
      show e.eval = first ([e.eval] ++ fail :: [])
      rw [first_fail, List.append_nil, first_singleton]
  | some value => exact orDefault_eq_first e.eval value

/-- The equations between combinators of queries whose runs have their effects in `m`. -/
structure CombinatorLaws (m : Type → Type) [Monad m] : Prop where
  andThen_assoc : ∀ {γ α β ρ : Type} (a : Query m γ α) (f : α → Query m γ β) (g : β → Query m γ ρ),
    (a.andThen f).andThen g = a.andThen fun value => (f value).andThen g
  first_nested : ∀ {γ α : Type} (before alternatives after : List (Query m γ α)),
    first (before ++ first alternatives :: after) = first (before ++ alternatives ++ after)
  first_unit : ∀ {γ α : Type} (before after : List (Query m γ α)),
    first (before ++ fail :: after) = first (before ++ after)
  first_alone : ∀ {γ α : Type} (a : Query m γ α), first [a] = a
  orDefault_first : ∀ {γ α : Type} (a : Query m γ α) (default : α),
    a.orDefault default = first [a, succeed default]
  mapOption_comp : ∀ {γ α β ρ : Type} (a : Query m γ α) (f : α → Option β) (g : β → Option ρ),
    (a.mapOption f).mapOption g = a.mapOption fun value => (f value).bind g
  any_first : ∀ {γ δ α : Type} (select : γ → List δ) (a : Query m δ α) (c : γ),
    any select a c = first ((select c).map fun d => redirect d a) c
  first_then : ∀ {γ α β : Type} (a : Query m γ α) (alternatives : List (Query m γ α))
    (f : α → Query m γ β) (c : γ),
    andThen (first (a :: alternatives)) f c = a c >>= fun value =>
      value.elim (andThen (first alternatives) f c) fun found => f found c
  /-- Where `a` matches, later alternatives are not run, whatever becomes of the query after it. -/
  first_committed : ∀ {γ α β : Type} (a : Query m γ α) (c : γ),
    (∃ run : m α, a c = some <$> run) →
      ∀ (alternatives : List (Query m γ α)) (f : α → Query m γ β),
        andThen (first (a :: alternatives)) f c = andThen a f c

theorem combinators_lawful :
    CombinatorLaws m ∧ ∀ (e : Expr) (default : Datum),
      (Expr.orDefault e default).eval = (Expr.first [e, .const default]).eval := by
  refine ⟨?_, eval_orDefault⟩
  exact
    { andThen_assoc := andThen_andThen
      first_nested := first_flatten
      first_unit := first_fail
      first_alone := first_singleton
      orDefault_first := orDefault_eq_first
      mapOption_comp := mapOption_mapOption
      any_first := any_eq_first
      first_then := andThen_first_cons
      first_committed := by
        rintro γ α β a c ⟨run, hrun⟩ alternatives f
        exact andThen_first_of_matches hrun alternatives f }

/-- A query that leaves a mark before it is run. -/
def markedBy (n : Nat) (q : Query (Run Unit Nat) Unit Nat) : Query (Run Unit Nat) Unit Nat :=
  fun c => do
    ExceptT.lift (Traced.mark n)
    q c

/-- Of two alternatives only the first leaves its mark, although the query after it fails. -/
theorem combinators_lawful_marked :
    LawfulMonad (Run Unit Nat) ∧ CombinatorLaws (Run Unit Nat) ∧
      Returns (andThen (first [markedBy 1 (succeed 7), markedBy 2 (succeed 8)])
        (fun _ => markedBy 3 fail) ()) [1, 3] none := by
  have hlawful : LawfulMonad (Run Unit Nat) := inferInstance
  have hlaws : CombinatorLaws (Run Unit Nat) := (combinators_lawful (m := Run Unit Nat)).1
  refine ⟨hlawful, hlaws, ?_⟩
  have hmatches : ∃ run : Run Unit Nat Nat, markedBy 1 (succeed 7) () = some <$> run := by
    refine ⟨ExceptT.lift (Traced.mark 1) >>= fun _ => pure 7, ?_⟩
    rfl
  rw [hlaws.first_committed _ _ hmatches]
  rfl

end DeclGraph.Query
