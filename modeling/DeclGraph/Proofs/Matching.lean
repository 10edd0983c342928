import Mathlib.Data.List.Forall2
import DeclGraph.Proofs.Grammar.Production

/-!
Lists whose elements have partners in one another, and what queries make of such lists.
-/

namespace DeclGraph

variable {α β γ δ : Type}

theorem optionRel_map {R : α → β → Prop} {S : γ → δ → Prop} {f : α → γ} {g : β → δ} {x : Option α}
    {y : Option β} (h : Option.Rel R x y) (hfg : ∀ a b, R a b → S (f a) (g b)) :
    Option.Rel S (x.map f) (y.map g) := by
  cases h with
  | none => exact .none
  | some hab => exact .some (hfg _ _ hab)

theorem optionRel_elim {R : α → β → Prop} {T : γ → δ → Prop} {c : γ} {d : δ} {f : α → γ} {g : β → δ}
    {x : Option α} {y : Option β} (h : Option.Rel R x y) (hcd : T c d)
    (hfg : ∀ a b, R a b → T (f a) (g b)) : T (x.elim c f) (y.elim d g) := by
  cases h with
  | none => exact hcd
  | some hab => exact hfg _ _ hab

theorem Query.theOnly_eq_of_perm {as bs : List α} (h : as.Perm bs) : theOnly as = theOnly bs := by
  rcases as with _ | ⟨a, _ | ⟨b, as⟩⟩
  · rw [← h.nil_eq]
  · rw [← List.singleton_perm.mp h]
  · have hlength := h.length_eq
    rcases bs with _ | ⟨c, _ | ⟨d, bs⟩⟩
    · simp at hlength
    · simp at hlength
    · rfl

/-- Where a partial function has values, these stand beside what they are the values of. -/
theorem forall₂_filterMap {R : α → β → Prop} {f : α → Option β} {keeps : α → Bool} {as : List α}
    (hsome : ∀ a ∈ as, keeps a = true → ∃ b, f a = some b ∧ R a b)
    (hnone : ∀ a ∈ as, keeps a = false → f a = none) :
    List.Forall₂ R (as.filter keeps) (as.filterMap f) := by
  induction as with
  | nil => exact .nil
  | cons a as ih =>
      have hrest := ih (fun b hb => hsome b (.tail _ hb)) fun b hb => hnone b (.tail _ hb)
      by_cases ha : keeps a = true
      · obtain ⟨b, hb, hab⟩ := hsome a List.mem_cons_self ha
        rw [List.filterMap_cons_some hb, List.filter_cons_of_pos ha]
        exact .cons hab hrest
      · have hb := hnone a List.mem_cons_self (Bool.eq_false_iff.mpr ha)
        rw [List.filterMap_cons_none hb, List.filter_cons_of_neg ha]
        exact hrest

/-- Lists that are read as sets. -/
def SameSet (as bs : List α) : Prop := ∀ a, a ∈ as ↔ a ∈ bs

theorem SameSet.refl (as : List α) : SameSet as as := fun _ => Iff.rfl

theorem SameSet.eq_nil_iff {as bs : List α} (h : SameSet as bs) : as = [] ↔ bs = [] := by
  simp only [List.eq_nil_iff_forall_not_mem]
  exact forall_congr' fun a => not_congr (h a)

instance [DecidableEq α] (as bs : List α) : Decidable (SameSet as bs) :=
  decidable_of_iff ((∀ a ∈ as, a ∈ bs) ∧ ∀ b ∈ bs, b ∈ as)
    ⟨fun h a => ⟨h.1 a, h.2 a⟩, fun h => ⟨fun a => (h a).mp, fun b => (h b).mpr⟩⟩

instance decidableForall₂ {R : α → β → Prop} [∀ a b, Decidable (R a b)] :
    ∀ as bs, Decidable (List.Forall₂ R as bs)
  | [], [] => .isTrue .nil
  | [], _ :: _ => .isFalse fun h => nomatch h
  | _ :: _, [] => .isFalse fun h => nomatch h
  | a :: as, b :: bs =>
    have := decidableForall₂ (R := R) as bs
    decidable_of_iff (R a b ∧ List.Forall₂ R as bs) List.forall₂_cons.symm

theorem map_eq_map_of_forall₂ {R : α → β → Prop} {f : α → γ} {g : β → γ} {as : List α} {bs : List β}
    (h : List.Forall₂ R as bs) (hfg : ∀ a b, R a b → f a = g b) : as.map f = bs.map g := by
  rw [← List.forall₂_eq_eq_eq, List.forall₂_map_left_iff, List.forall₂_map_right_iff]
  exact h.imp hfg

theorem map_eq_of_forall₂ {R : α → β → Prop} {f : α → β} {as : List α} {bs : List β}
    (h : List.Forall₂ R as bs) (hf : ∀ a b, R a b → f a = b) : as.map f = bs :=
  List.forall₂_eq_eq_eq ▸ List.forall₂_map_left_iff.mpr (h.imp hf)

/-- Whether partners stand in the same place, or may be moved. -/
inductive Arrangement where
  | fixed
  | free

/-- Each element of either list has a partner of its own in the other. -/
def Arrangement.Match (arrangement : Arrangement) (R : α → β → Prop) (as : List α) (bs : List β) :
    Prop :=
  match arrangement with
  | fixed => List.Forall₂ R as bs
  | free => ∃ moved, List.Forall₂ R as moved ∧ moved.Perm bs

namespace Arrangement

variable {arrangement : Arrangement} {R : α → β → Prop} {S : γ → δ → Prop}

namespace Match

theorem of_forall₂ {as : List α} {bs : List β} (h : List.Forall₂ R as bs) :
    arrangement.Match R as bs := by
  cases arrangement with
  | fixed => exact h
  | free => exact ⟨bs, h, .refl bs⟩

/-- Partners are kept where both have values. -/
theorem filterMap {f : α → Option γ} {g : β → Option δ} {as : List α} {bs : List β}
    (h : arrangement.Match R as bs) (hfg : ∀ a b, R a b → Option.Rel S (f a) (g b)) :
    arrangement.Match S (as.filterMap f) (bs.filterMap g) := by
  have hrel : ∀ {bs : List β}, List.Forall₂ R as bs →
      List.Forall₂ S (as.filterMap f) (bs.filterMap g) :=
    fun h => List.rel_filterMap (fun a b => hfg a b) h
  cases arrangement with
  | fixed => exact hrel h
  | free =>
      obtain ⟨moved, hmoved, hperm⟩ := h
      exact ⟨moved.filterMap g, hrel hmoved, hperm.filterMap g⟩

theorem map {f : α → γ} {g : β → δ} {as : List α} {bs : List β} (h : arrangement.Match R as bs)
    (hfg : ∀ a b, R a b → S (f a) (g b)) : arrangement.Match S (as.map f) (bs.map g) := by
  rw [← List.filterMap_eq_map, ← List.filterMap_eq_map]
  exact h.filterMap fun a b hab => .some (hfg a b hab)

theorem imp {R' : α → β → Prop} {as : List α} {bs : List β} (h : arrangement.Match R as bs)
    (hR : ∀ a b, R a b → R' a b) : arrangement.Match R' as bs := by
  simpa using h.map (f := id) (g := id) hR

theorem length_eq {as : List α} {bs : List β} (h : arrangement.Match R as bs) :
    as.length = bs.length := by
  cases arrangement with
  | fixed => exact h.length_eq
  | free =>
      obtain ⟨moved, hmoved, hperm⟩ := h
      exact hmoved.length_eq.trans hperm.length_eq

theorem isEmpty_eq {as : List α} {bs : List β} (h : arrangement.Match R as bs) :
    as.isEmpty = bs.isEmpty := by
  rw [Bool.eq_iff_iff, List.isEmpty_iff_length_eq_zero, List.isEmpty_iff_length_eq_zero,
    h.length_eq]

theorem theOnly {as : List α} {bs : List β} (h : arrangement.Match R as bs) :
    Option.Rel R (Query.theOnly as) (Query.theOnly bs) := by
  have hrel : ∀ {bs : List β}, List.Forall₂ R as bs →
      Option.Rel R (Query.theOnly as) (Query.theOnly bs) := by
    rintro _ (_ | ⟨hab, _ | _⟩)
    · exact .none
    · exact .some hab
    · exact .none
  cases arrangement with
  | fixed => exact hrel h
  | free =>
      obtain ⟨moved, hmoved, hperm⟩ := h
      rw [← Query.theOnly_eq_of_perm hperm]
      exact hrel hmoved

end Match

end Arrangement

end DeclGraph
