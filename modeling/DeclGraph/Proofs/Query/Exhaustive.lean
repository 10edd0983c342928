import DeclGraph.Proofs.Query.Combination

/-!
What the combinators of queries leave out. A query that stops at a failure or at a success has the
value of one that runs everything first and reads the value off the outcomes, and its marks are
those of the part that decides.
-/

namespace DeclGraph.Query

variable {ε μ γ δ α β : Type}

/-! Single combinators -/

/-- Wherever the full run comes to its end, the other one has the same result, and marks of its own
that the full run leaves too. -/
def Shortens (run full : Run ε μ α) (trace : List μ) : Prop :=
  ∀ marks a, Returns full marks a → Returns run trace a ∧ trace.Sublist marks

theorem Shortens.refl (run : Run ε μ α) : Shortens run run run.run.marks := by
  intro marks a h
  have hmarks : run.run.marks = marks := congrArg Traced.marks h
  rw [hmarks]
  exact ⟨h, .refl marks⟩

theorem Shortens.bind {run full : Run ε μ α} {next fullNext : α → Run ε μ β} {first rest : List μ}
    (h : Shortens run full first)
    (hnext : ∀ marks a, Returns full marks a → Shortens (next a) (fullNext a) rest) :
    Shortens (run >>= next) (full >>= fullNext) (first ++ rest) := by
  intro marks b hfull
  obtain ⟨fullFirst, a, fullRest, ha, hb, rfl⟩ := returns_bind_iff.mp hfull
  obtain ⟨hrun, hfirst⟩ := h _ _ ha
  obtain ⟨hrest, hsub⟩ := hnext _ _ ha _ _ hb
  exact ⟨hrun.bind hrest, hfirst.append hsub⟩

theorem Shortens.map {run full : Run ε μ α} {trace : List μ} (h : Shortens run full trace)
    (f : α → β) : Shortens (f <$> run) (f <$> full) trace := by
  intro marks b hfull
  obtain ⟨a, ha, rfl⟩ := returns_map_iff.mp hfull
  obtain ⟨hrun, hsub⟩ := h _ _ ha
  exact ⟨returns_map_iff.mpr ⟨a, hrun, rfl⟩, hsub⟩

theorem allOf_cons (q : Query (Run ε μ) δ α) (d : δ) (ds : List δ) :
    allOf q (d :: ds) = q d >>= fun value =>
      value.elim (pure none) fun a => Option.map (a :: ·) <$> allOf q ds := by
  rw [allOf]
  refine bind_congr fun value => ?_
  cases value with
  | none => rfl
  | some a => exact (map_eq_pure_bind _ _).symm

theorem manyOf_cons (q : Query (Run ε μ) δ α) (d : δ) (ds : List δ) :
    manyOf q (d :: ds) = q d >>= fun value =>
      (value.toList ++ ·) <$> manyOf q ds := by
  rw [manyOf]
  refine bind_congr fun value => ?_
  cases value with
  | none => exact (id_map _).symm
  | some a => exact (map_eq_pure_bind _ _).symm

theorem anyOf_cons (q : Query (Run ε μ) δ α) (d : δ) (ds : List δ) :
    anyOf q (d :: ds) = q d >>= fun value =>
      value.elim (anyOf q ds) fun a => pure (some a) := by
  rw [anyOf]
  refine bind_congr fun value => ?_
  cases value <;> rfl

theorem map_mapM_cons {f : List β → γ} (q : δ → Run ε μ β) (d : δ) (ds : List δ) :
    f <$> (d :: ds).mapM q = q d >>= fun b => (fun bs => f (b :: bs)) <$> ds.mapM q := by
  rw [List.mapM_cons, map_bind]
  refine bind_congr fun b => ?_
  rw [bind_pure_comp, ← comp_map]
  rfl

section Lists

variable {q full : Query (Run ε μ) δ α} {trace : δ → List μ}
  (h : ∀ d, Shortens (q d) (full d) (trace d)) (ds : List δ)

include h

theorem shortens_manyOf :
    Shortens (manyOf q ds) (successes <$> ds.mapM full) (ds.flatMap trace) := by
  induction ds with
  | nil => exact .refl (pure [])
  | cons d ds ih =>
      rw [manyOf_cons, map_mapM_cons, List.flatMap_cons]
      refine (h d).bind fun marks value _ => ?_
      have hread : (fun outcomes => successes (value :: outcomes)) <$> ds.mapM full =
          (value.toList ++ ·) <$> (successes <$> ds.mapM full) := by
        rw [← comp_map]
        congr 1
        funext outcomes
        cases value <;> rfl
      rw [hread]
      exact ih.map _

theorem shortens_map_manyOf (f : List α → β) :
    Shortens (f <$> manyOf q ds) ((fun outcomes => f (successes outcomes)) <$> ds.mapM full)
      (ds.flatMap trace) := by
  have hmap := (shortens_manyOf h ds).map f
  rw [← comp_map] at hmap
  exact hmap

theorem shortens_allOf :
    Shortens (allOf q ds) (noFailure <$> ds.mapM full)
      ((throughFirst (fun d => (answer? (full d)).isNone) ds).flatMap trace) := by
  induction ds with
  | nil => exact .refl (pure (some []))
  | cons d ds ih =>
      rw [allOf_cons, map_mapM_cons]
      intro marks result hfull
      obtain ⟨first, value, rest, hvalue, hrest, rfl⟩ := returns_bind_iff.mp hfull
      obtain ⟨outcomes, houtcomes, rfl⟩ := returns_map_iff.mp hrest
      obtain ⟨hq, hfirst⟩ := h d _ _ hvalue
      cases value with
      | none =>
          rw [throughFirst_cons_of_pos (by rw [hvalue.answer?_eq]; rfl), List.flatMap_singleton]
          refine ⟨?_, hfirst.trans (List.sublist_append_left _ _)⟩
          rw [← List.append_nil (trace d)]
          exact hq.bind (returns_pure _)
      | some a =>
          obtain ⟨hqs, hsub⟩ := ih _ _ (returns_map_iff.mpr ⟨outcomes, houtcomes, rfl⟩)
          rw [throughFirst_cons_of_neg (by rw [hvalue.answer?_eq]; rfl), List.flatMap_cons]
          refine ⟨hq.bind (returns_map_iff.mpr ⟨_, hqs, ?_⟩), hfirst.append hsub⟩
          exact (noFailure_cons a outcomes).symm

theorem shortens_anyOf :
    Shortens (anyOf q ds) (firstSuccess <$> ds.mapM full)
      ((throughFirst (fun d => (answer? (full d)).isSome) ds).flatMap trace) := by
  induction ds with
  | nil => exact .refl (pure none)
  | cons d ds ih =>
      rw [anyOf_cons, map_mapM_cons]
      intro marks result hfull
      obtain ⟨first, value, rest, hvalue, hrest, rfl⟩ := returns_bind_iff.mp hfull
      obtain ⟨outcomes, houtcomes, rfl⟩ := returns_map_iff.mp hrest
      obtain ⟨hq, hfirst⟩ := h d _ _ hvalue
      cases value with
      | none =>
          obtain ⟨hqs, hsub⟩ := ih _ _ (returns_map_iff.mpr ⟨outcomes, houtcomes, rfl⟩)
          rw [throughFirst_cons_of_neg (by rw [hvalue.answer?_eq]; rfl), List.flatMap_cons]
          exact ⟨hq.bind hqs, hfirst.append hsub⟩
      | some a =>
          rw [throughFirst_cons_of_pos (by rw [hvalue.answer?_eq]; rfl), List.flatMap_singleton]
          refine ⟨?_, hfirst.trans (List.sublist_append_left _ _)⟩
          rw [← List.append_nil (trace d)]
          exact hq.bind (returns_pure _)

end Lists

/-- Ordered choice goes through its alternatives as `any` goes through contexts. -/
theorem first_map_eq_anyOf {ν : Type} (names : List ν) (q : ν → Query (Run ε μ) γ α) (c : γ) :
    Query.first (names.map q) c = anyOf (fun name => q name c) names := by
  induction names with
  | nil => rfl
  | cons name names ih =>
      rw [anyOf, ← ih]
      rfl

namespace Combination

theorem run_shortens_exhaust (e : Combination ε μ γ α) (c : γ) :
    Shortens (e.run c) (e.exhaust c) (e.trace c) := by
  induction e with
  | primitive read => exact .refl (ExceptT.mk (pure (read c)))
  | all select e ih => exact shortens_allOf ih (select c)
  | many select e ih => exact shortens_map_manyOf ih (select c) some
  | many1 select e ih => exact shortens_map_manyOf ih (select c) _
  | any select e ih => exact shortens_anyOf ih (select c)
  | one select e ih =>
      rw [exhaust, show onlySuccess = fun outcomes => theOnly (successes outcomes) from
        funext onlySuccess_eq]
      exact shortens_map_manyOf ih (select c) theOnly
  | check holds => exact .refl (pure _)
  | first e ih =>
      rw [run, first_map_eq_anyOf]
      exact shortens_anyOf (fun i => ih i c) (List.finRange _)
  | map e f ih => exact (ih c).map _
  | orDefault e default ih => exact (ih c).map _
  | redirect context e ih => exact ih context
  | andThen e next ih ihNext =>
      simp only [run, exhaust, trace, Query.andThen]
      refine (ih c).bind fun marks value hvalue => ?_
      rw [hvalue.answer?_eq]
      cases value with
      | none => exact .refl (pure none)
      | some a => exact ihNext a c
  | mark label e ih =>
      exact (Shortens.refl (ExceptT.lift (Traced.mark (label c)))).bind fun _ _ _ => ih c

end Combination

/-! Runs that come to their end -/

def Completes (run : Run ε μ α) : Prop := ∃ marks a, Returns run marks a

theorem Completes.map {run : Run ε μ α} (h : Completes run) (f : α → β) :
    Completes (f <$> run) := by
  obtain ⟨marks, a, ha⟩ := h
  exact ⟨marks, f a, returns_map_iff.mpr ⟨a, ha, rfl⟩⟩

theorem Completes.bind {run : Run ε μ α} {next : α → Run ε μ β} (h : Completes run)
    (hnext : ∀ a, Completes (next a)) : Completes (run >>= next) := by
  obtain ⟨first, a, ha⟩ := h
  obtain ⟨rest, b, hb⟩ := hnext a
  exact ⟨first ++ rest, b, ha.bind hb⟩

theorem completes_mapM {q : δ → Run ε μ α} (h : ∀ d, Completes (q d)) (ds : List δ) :
    Completes (ds.mapM q) := by
  induction ds with
  | nil => exact ⟨[], [], rfl⟩
  | cons d ds ih =>
      rw [List.mapM_cons]
      exact (h d).bind fun a => ih.bind fun as => ⟨[], a :: as, rfl⟩

namespace Combination

theorem completes_exhaust (e : Combination ε μ γ α) (h : e.PrimitivesReturn) (c : γ) :
    Completes (e.exhaust c) := by
  induction e with
  | primitive read =>
      obtain ⟨value, hvalue⟩ := h c
      exact ⟨[], value, congrArg (fun x => (⟨[], x⟩ : Traced _ _)) hvalue⟩
  | all select e ih | many select e ih | many1 select e ih | any select e ih | one select e ih =>
      exact (completes_mapM (ih h) (select c)).map _
  | check holds => exact ⟨[], _, rfl⟩
  | first e ih => exact (completes_mapM (fun i => ih i (h i) c) (List.finRange _)).map _
  | map e f ih => exact (ih h c).map _
  | orDefault e default ih => exact (ih h c).map _
  | redirect context e ih => exact ih h context
  | andThen e next ih ihNext =>
      simp only [exhaust]
      refine (ih h.1 c).bind fun value => ?_
      cases value with
      | none => exact ⟨[], none, rfl⟩
      | some a => exact ihNext a (h.2 a) c
  | mark label e ih =>
      exact Completes.bind ⟨[label c], (), rfl⟩ fun _ => ih h c

end Combination

namespace Combination

/-- Where the exhaustive run comes to its end, the other run has the same value, and its marks are
those of the part that decides. That is so on every context if no primitive raises. -/
theorem run_returns_of_exhaust (e : Combination ε μ γ α) (c : γ) :
    (∀ marks value, Returns (e.exhaust c) marks value →
      Returns (e.run c) (e.trace c) value ∧ (e.trace c).Sublist marks) ∧
    (e.PrimitivesReturn → ∃ marks value, Returns (e.exhaust c) marks value ∧
      Returns (e.run c) (e.trace c) value ∧ (e.trace c).Sublist marks) := by
  refine ⟨run_shortens_exhaust e c, fun h => ?_⟩
  obtain ⟨marks, value, hfull⟩ := completes_exhaust e h c
  exact ⟨marks, value, hfull, run_shortens_exhaust e c marks value hfull⟩

/-- A number above zero, which leaves a mark wherever it is looked for. -/
def markedPositive : Combination Unit Nat Nat Nat :=
  .mark id (.primitive fun n => .ok (if 0 < n then some n else none))

/-- All numbers, if they are all above zero, and else those that are. -/
def scan : Combination Unit Nat (List Nat) (List Nat) :=
  .first fun i : Fin 2 => if i = 0 then .all id markedPositive else .many id markedPositive

theorem run_returns_of_exhaust_scan :
    Returns (scan.exhaust [1, 0, 2]) [1, 0, 2, 1, 0, 2] (some [1, 2]) ∧
      (Returns (scan.run [1, 0, 2]) [1, 0, 1, 0, 2] (some [1, 2]) ∧
        [1, 0, 1, 0, 2].Sublist [1, 0, 2, 1, 0, 2]) ∧
      scan.PrimitivesReturn ∧ ∃ marks value, Returns (scan.exhaust [3]) marks value ∧
        Returns (scan.run [3]) (scan.trace [3]) value ∧ (scan.trace [3]).Sublist marks := by
  have hfull : Returns (scan.exhaust [1, 0, 2]) [1, 0, 2, 1, 0, 2] (some [1, 2]) := rfl
  have hreturn : scan.PrimitivesReturn := by
    intro i
    show (if i = 0 then Combination.all id markedPositive
      else .many id markedPositive).PrimitivesReturn
    split <;> exact fun n => ⟨_, rfl⟩
  exact ⟨hfull, (run_returns_of_exhaust scan [1, 0, 2]).1 _ _ hfull, hreturn,
    (run_returns_of_exhaust scan [3]).2 hreturn⟩

end Combination

end DeclGraph.Query
