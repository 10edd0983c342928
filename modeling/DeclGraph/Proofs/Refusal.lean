import Mathlib.Data.List.Forall2

/-!
Steps that may fail: what they report, and what a list of them reports.
-/

namespace DeclGraph

variable {ε α β : Type}

/-- What a step reports when it fails. -/
def refusal? : Except ε α → Option ε
  | .error e => some e
  | .ok _ => none

@[simp] theorem refusal?_ok (a : α) : refusal? (.ok a : Except ε α) = none := rfl

@[simp] theorem refusal?_pure (a : α) : refusal? (pure a : Except ε α) = none := rfl

@[simp] theorem refusal?_error (e : ε) : refusal? (.error e : Except ε α) = some e := rfl

theorem refusal?_eq_some_iff {x : Except ε α} {e : ε} : refusal? x = some e ↔ x = .error e := by
  cases x <;> simp

theorem refusal?_eq_none_iff {x : Except ε α} : refusal? x = none ↔ ∃ a, x = .ok a := by
  cases x <;> simp

@[simp] theorem refusal?_map (f : α → β) (x : Except ε α) : refusal? (f <$> x) = refusal? x := by
  cases x <;> rfl

/-- A second step whose report does not depend on the value of the first is heard when the first
step succeeds. -/
theorem refusal?_bind {x : Except ε α} {f : α → Except ε β} {report : Option ε}
    (h : ∀ a, x = .ok a → refusal? (f a) = report) :
    refusal? (x >>= f) = (refusal? x).or report := by
  cases x with
  | error e => rfl
  | ok a => exact h a rfl

theorem refusal?_bind_of_none {x : Except ε α} {f : α → Except ε β}
    (h : ∀ a, refusal? (f a) = none) : refusal? (x >>= f) = refusal? x := by
  cases x with
  | error e => rfl
  | ok a => exact h a

theorem refusal?_mapM (f : α → Except ε β) (as : List α) :
    refusal? (as.mapM f) = as.findSome? fun a => refusal? (f a) := by
  induction as with
  | nil => rfl
  | cons a as ih =>
      have hrest : ∀ b, f a = .ok b →
          refusal? (do let bs ← as.mapM f; pure (b :: bs)) = refusal? (as.mapM f) := by
        intro b _
        exact refusal?_bind_of_none fun _ => rfl
      rw [List.mapM_cons, refusal?_bind hrest, ih, List.findSome?_cons]
      cases refusal? (f a) <;> rfl

theorem bind_eq_ok_iff {x : Except ε α} {f : α → Except ε β} {b : β} :
    (x >>= f) = .ok b ↔ ∃ a, x = .ok a ∧ f a = .ok b := by
  cases x <;> simp [bind, Except.bind]

theorem map_eq_ok_iff {x : Except ε α} {f : α → β} {b : β} :
    f <$> x = .ok b ↔ ∃ a, x = .ok a ∧ f a = b := by
  cases x <;> simp [Functor.map, Except.map]

theorem mapError_eq_ok_iff {δ : Type} {x : Except ε α} {f : ε → δ} {a : α} :
    x.mapError f = .ok a ↔ x = .ok a := by
  cases x <;> simp [Except.mapError]

theorem mapM_eq_ok_iff {f : α → Except ε β} {as : List α} {bs : List β} :
    as.mapM f = .ok bs ↔ List.Forall₂ (fun a b => f a = .ok b) as bs := by
  induction as generalizing bs with
  | nil =>
      constructor
      · rintro ⟨⟩
        exact .nil
      · rintro ⟨⟩
        rfl
  | cons a as ih =>
      rw [List.mapM_cons, bind_eq_ok_iff]
      constructor
      · rintro ⟨b, hhead, htail⟩
        obtain ⟨rest, hrest, hbs⟩ := bind_eq_ok_iff.mp htail
        cases hbs
        exact .cons hhead (ih.mp hrest)
      · rintro (_ | ⟨hhead, htail⟩)
        exact ⟨_, hhead, bind_eq_ok_iff.mpr ⟨_, ih.mpr htail, rfl⟩⟩

theorem mapM_eq_ok_map {f : α → Except ε β} {g : α → β} {as : List α}
    (h : ∀ a ∈ as, f a = .ok (g a)) : as.mapM f = .ok (as.map g) := by
  rw [mapM_eq_ok_iff, List.forall₂_map_right_iff, List.forall₂_same]
  exact h

end DeclGraph
