import Mathlib.Data.List.Basic
import DeclGraph.Text.Split

/-!
Texts that are split at a mark, and texts that a mark cuts in two.
-/

namespace DeclGraph.Text

variable {mark : Char}

section Parts

variable {part rest cs : List Char} {parts : List (List Char)}

theorem splitAt_append (hpart : mark ∉ part) :
    splitAt mark (part ++ mark :: rest) = part :: splitAt mark rest := by
  induction part with
  | nil => simp [splitAt_cons]
  | cons c part ih =>
    rw [List.mem_cons, not_or] at hpart
    have hc : c ≠ mark := Ne.symm hpart.1
    simp [splitAt_cons, hc, ih hpart.2]

theorem splitAt_replicate_append (n : Nat) (cs : List Char) :
    splitAt mark (List.replicate n mark ++ cs) = List.replicate n [] ++ splitAt mark cs := by
  induction n with
  | zero => rfl
  | succ n ih => simp [List.replicate_succ, splitAt_cons, ih]

theorem splitAt_intercalate (hparts : ∀ part ∈ parts, mark ∉ part) (hne : parts ≠ []) :
    splitAt mark ([mark].intercalate parts) = parts := by
  induction parts with
  | nil => exact absurd rfl hne
  | cons part parts ih =>
    rw [List.forall_mem_cons] at hparts
    cases parts with
    | nil => simpa using splitAt_of_notMem hparts.1
    | cons next parts =>
      rw [List.intercalate_cons_cons, List.append_assoc, List.singleton_append,
        splitAt_append hparts.1, ih hparts.2 (by simp)]

theorem notMem_of_mem_splitAt (h : part ∈ splitAt mark cs) : mark ∉ part := by
  induction cs generalizing part with
  | nil =>
    obtain rfl : part = [] := by simpa [splitAt] using h
    simp
  | cons c cs ih =>
    rw [splitAt_cons] at h
    split at h
    · rcases List.mem_cons.mp h with rfl | h
      · simp
      · exact ih h
    · next hc =>
      rcases List.mem_cons.mp h with rfl | h
      · have hhead : mark ∉ (splitAt mark cs).headD [] := by
          cases hsplit : splitAt mark cs with
          | nil => simp
          | cons first parts =>
            apply ih
            simp [hsplit]
        simpa [Ne.symm hc] using hhead
      · exact ih (List.mem_of_mem_tail h)

end Parts

section Cut

variable {as as' bs bs' : List Char}

/-- Texts that are cut at the last occurrence of a mark. -/
theorem cut_at_last (hbs : mark ∉ bs) (hbs' : mark ∉ bs')
    (h : as ++ mark :: bs = as' ++ mark :: bs') : as = as' ∧ bs = bs' := by
  rcases List.append_eq_append_iff.mp h with ⟨cs, rfl, hcs⟩ | ⟨cs, rfl, hcs⟩
  · cases cs with
    | nil => simpa using hcs
    | cons c cs => simp [(List.cons.inj hcs).2] at hbs
  · cases cs with
    | nil => simpa [eq_comm] using hcs
    | cons c cs => simp [(List.cons.inj hcs).2] at hbs'

/-- Texts that are cut at the first occurrence of a mark. -/
theorem cut_at_first (has : mark ∉ as) (has' : mark ∉ as')
    (h : as ++ mark :: bs = as' ++ mark :: bs') : as = as' ∧ bs = bs' := by
  have hreverse : bs.reverse ++ mark :: as.reverse = bs'.reverse ++ mark :: as'.reverse := by
    simpa using congrArg List.reverse h
  obtain ⟨hbs, has⟩ := cut_at_last (by simpa using has) (by simpa using has') hreverse
  exact ⟨List.reverse_injective has, List.reverse_injective hbs⟩

/-- A text that holds the mark once is cut in one way. -/
theorem cut_at_only (has' : mark ∉ as') (hbs' : mark ∉ bs')
    (h : as ++ mark :: bs = as' ++ mark :: bs') : as = as' ∧ bs = bs' := by
  have hcount : as.count mark + (bs.count mark + 1) = 1 := by
    have hmarks := congrArg (List.count mark) h
    rwa [List.count_append, List.count_append, List.count_cons_self, List.count_cons_self,
      List.count_eq_zero.mpr has', List.count_eq_zero.mpr hbs'] at hmarks
  have has : mark ∉ as := List.count_eq_zero.mp (by omega)
  exact cut_at_first has has' h

end Cut

end DeclGraph.Text
