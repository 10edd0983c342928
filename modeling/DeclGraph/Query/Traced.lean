/-!
Traced runs: a value together with the marks left on the way to it, in order.
-/

namespace DeclGraph

structure Traced (μ α : Type) where
  marks : List μ
  value : α
deriving DecidableEq, Repr

namespace Traced

variable {μ α β : Type}

instance : Monad (Traced μ) where
  pure a := ⟨[], a⟩
  bind x f := ⟨x.marks ++ (f x.value).marks, (f x.value).value⟩

/-- Leaves one mark. -/
def mark (m : μ) : Traced μ Unit := ⟨[m], ()⟩

@[simp] theorem marks_pure (a : α) : (pure a : Traced μ α).marks = [] := rfl

@[simp] theorem value_pure (a : α) : (pure a : Traced μ α).value = a := rfl

@[simp] theorem marks_bind (x : Traced μ α) (f : α → Traced μ β) :
    (x >>= f).marks = x.marks ++ (f x.value).marks := rfl

@[simp] theorem value_bind (x : Traced μ α) (f : α → Traced μ β) :
    (x >>= f).value = (f x.value).value := rfl

theorem ext_iff (x y : Traced μ α) : x = y ↔ x.marks = y.marks ∧ x.value = y.value := by
  cases x
  cases y
  simp

instance : LawfulMonad (Traced μ) := LawfulMonad.mk' _
  (fun x => (ext_iff _ _).mpr ⟨List.append_nil _, rfl⟩)
  (fun _ _ => rfl)
  (fun _ _ _ => (ext_iff _ _).mpr ⟨List.append_assoc _ _ _, rfl⟩)

@[simp] theorem marks_map (f : α → β) (x : Traced μ α) : (f <$> x).marks = x.marks :=
  List.append_nil _

@[simp] theorem value_map (f : α → β) (x : Traced μ α) : (f <$> x).value = f x.value := rfl

end Traced

end DeclGraph
