import DeclGraph.Text.Markup

/-!
Tags and other text in labels.

Whether a bracket of an escaped text starts a tag could depend on what follows the text in a label
too. It does not, as long as the rest of the label closes no tag.
-/

namespace DeclGraph.Text

/-- A text without backslashes and without the control characters that come before the space. -/
def IsPlain (s : String) : Prop := ∀ c ∈ s.toList, ' ' ≤ c ∧ c ≠ '\\'

/-- A plain text without square brackets. -/
def IsLiteral (s : String) : Prop := ∀ c ∈ s.toList, ' ' ≤ c ∧ c ≠ '\\' ∧ c ≠ '[' ∧ c ≠ ']'

theorem IsPlain.append {s t : String} (hs : IsPlain s) (ht : IsPlain t) : IsPlain (s ++ t) := by
  intro c hc
  rw [String.toList_append, List.mem_append] at hc
  exact hc.elim (hs c) (ht c)

theorem IsLiteral.append {s t : String} (hs : IsLiteral s) (ht : IsLiteral t) :
    IsLiteral (s ++ t) := by
  intro c hc
  rw [String.toList_append, List.mem_append] at hc
  exact hc.elim (hs c) (ht c)

theorem IsLiteral.isPlain {s : String} (hs : IsLiteral s) : IsPlain s := by
  intro c hc
  exact ⟨(hs c hc).1, (hs c hc).2.1⟩

section Brackets

variable {cs rest : List Char}

/-- A letter or sign that can start a tag is passed over in the search for the end of one. -/
theorem opensTag_eq_false (hrest : closesTag rest = false) : opensTag rest = false := by
  cases rest with
  | nil => rfl
  | cons c cs =>
    by_cases hstart : isTagStart c
    · have hne : c ≠ '[' := by
        rintro rfl
        exact absurd hstart (by decide)
      have hcs : closesTag cs = false := by
        simp [closesTag, hne] at hrest
        exact hrest.2
      simp [opensTag, hcs]
    · simp [opensTag, hstart]

theorem closesTag_append_of_notMem (hcs : ']' ∉ cs) (hrest : closesTag rest = false) :
    closesTag (cs ++ rest) = false := by
  induction cs with
  | nil => exact hrest
  | cons c cs ih =>
    rw [List.mem_cons, not_or] at hcs
    have hc : c ≠ ']' := Ne.symm hcs.1
    simp [closesTag, hc, ih hcs.2]

theorem closesTag_append_of_mem (hopen : '[' ∉ cs) : closesTag (cs ++ ']' :: rest) = true := by
  induction cs with
  | nil => simp [closesTag]
  | cons c cs ih =>
    rw [List.mem_cons, not_or] at hopen
    have hc : c ≠ '[' := Ne.symm hopen.1
    simp [closesTag, hc, ih hopen.2]

theorem closesTag_backslashes (n : Nat) (cs : List Char) :
    closesTag (List.replicate n '\\' ++ cs) = closesTag cs := by
  induction n with
  | zero => rfl
  | succ n ih => simpa [List.replicate_succ, closesTag] using ih

/-- Escaping neither adds a closing bracket nor moves one before an opening one. -/
theorem closesTag_escapeTags (pending : Nat) (hrest : closesTag rest = false) :
    closesTag (escapeTags pending cs ++ rest) = closesTag cs := by
  induction cs generalizing pending with
  | nil => simpa [escapeTags, closesTag] using hrest
  | cons c cs ih =>
    rw [escapeTags]
    split
    · next hc => simpa [hc, closesTag] using ih (pending + 1)
    · split
      · next htag =>
        rw [List.append_assoc, closesTag_backslashes, htag.1]
        simp [closesTag]
      · simp only [List.cons_append, closesTag, ih 0]

theorem opensTag_escapeTags (pending : Nat) (hrest : closesTag rest = false) :
    opensTag (escapeTags pending cs ++ rest) = opensTag cs := by
  cases cs with
  | nil => simpa [escapeTags, opensTag] using opensTag_eq_false hrest
  | cons c cs =>
    rw [escapeTags]
    split
    · next hc => simp [hc, opensTag, isTagStart]
    · split
      · next htag => simp [htag.1, List.replicate_succ, opensTag, isTagStart]
      · simp only [List.cons_append, opensTag, closesTag_escapeTags 0 hrest]

end Brackets

section Shown

variable {cs rest : List Char}

theorem visibleChars_append_of_unmarked (hcs : ∀ c ∈ cs, c ≠ '\\' ∧ c ≠ '[') :
    visibleChars false 0 (cs ++ rest) = cs ++ visibleChars false 0 rest := by
  induction cs with
  | nil => rfl
  | cons c cs ih =>
    rw [List.forall_mem_cons] at hcs
    simp [visibleChars, hcs.1.1, hcs.1.2, ih hcs.2]

theorem IsLiteral.visibleChars_append {t : String} (ht : IsLiteral t) (rest : List Char) :
    visibleChars false 0 (t.toList ++ rest) = t.toList ++ visibleChars false 0 rest :=
  visibleChars_append_of_unmarked fun c hc => ⟨(ht c hc).2.1, (ht c hc).2.2.1⟩

theorem IsLiteral.visibleChars_eq {t : String} (ht : IsLiteral t) :
    visibleChars false 0 t.toList = t.toList := by
  simpa [visibleChars] using ht.visibleChars_append []

theorem visibleChars_inTag (hcs : ']' ∉ cs) :
    visibleChars true 0 (cs ++ ']' :: rest) = visibleChars false 0 rest := by
  induction cs with
  | nil => simp [visibleChars]
  | cons c cs ih =>
    rw [List.mem_cons, not_or] at hcs
    have hc : c ≠ ']' := Ne.symm hcs.1
    have hinside : (c != ']') = true := by simpa using hc
    simpa [visibleChars, hinside] using ih hcs.2

/-- Nothing is shown of a tag. -/
theorem visibleChars_tag (c : Char) (cs rest : List Char) (hstart : isTagStart c = true)
    (hcs : ∀ d ∈ c :: cs, d ≠ '[' ∧ d ≠ ']') :
    visibleChars false 0 ('[' :: c :: cs ++ ']' :: rest) = visibleChars false 0 rest := by
  have hopen : '[' ∉ cs := fun h => (hcs _ (List.mem_cons_of_mem _ h)).1 rfl
  have hclose : ']' ∉ c :: cs := fun h => (hcs _ h).2 rfl
  have htag : opensTag (c :: (cs ++ ']' :: rest)) = true := by
    simp [opensTag, hstart, closesTag_append_of_mem hopen]
  have hskip : visibleChars true 0 (c :: cs ++ ']' :: rest) = visibleChars false 0 rest :=
    visibleChars_inTag hclose
  simpa [visibleChars, htag] using hskip

end Shown

section Labels

/-- A label is shown on one line if no control characters are shown of it. -/
theorem labelLines_of_visibleChars {label text : String} (htext : IsPlain text)
    (h : visibleChars false 0 label.toList = text.toList) : labelLines label = [text] := by
  have hcontrol : ∀ d : Char, d < ' ' → d ∉ text.toList := by
    intro d hd hmem
    exact absurd (htext d hmem).1 (Char.not_le.mpr hd)
  have hfilter : text.toList.filter (!isDeviceControl ·) = text.toList := by
    rw [List.filter_eq_self]
    intro c hc
    have hne : ∀ d : Char, d < ' ' → c ≠ d := fun d hd hcd => hcontrol d hd (hcd ▸ hc)
    simp [isDeviceControl, hne]
  have hshown : visibleText label = text := by
    rw [visibleText, h, hfilter, String.ofList_toList]
  have htabs : expandTabs text.toList = text.toList := by
    rw [expandTabs, splitAt_of_notMem (hcontrol _ (by decide)), joinAtTabs]
  rw [labelLines, hshown, splitAt_of_notMem (hcontrol _ (by decide)), List.map_singleton, htabs,
    String.ofList_toList]

theorem IsLiteral.closesTag_eq_false {t : String} (ht : IsLiteral t) :
    closesTag t.toList = false := by
  have hclose : ']' ∉ t.toList := fun h => (ht _ h).2.2.2 rfl
  simpa using closesTag_append_of_notMem hclose (rfl : closesTag [] = false)

theorem IsLiteral.labelLines_eq {t : String} (ht : IsLiteral t) : labelLines t = [t] :=
  labelLines_of_visibleChars ht.isPlain ht.visibleChars_eq

end Labels

end DeclGraph.Text
