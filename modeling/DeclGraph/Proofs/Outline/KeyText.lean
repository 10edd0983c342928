import Mathlib
import DeclGraph.Proofs.Text.Markup
import DeclGraph.Proofs.Text.Split
import DeclGraph.Symbol

/-!
The texts of keys and of lists of keys are read back from the end of a line, whatever stands before.
-/

namespace DeclGraph

namespace SymbolKey

/-- The characters that keys are written with. -/
def isKeyChar (c : Char) : Bool := c == '#' || c == '-' || c.isDigit

/-- The characters that lists of keys are written with. -/
def isListChar (c : Char) : Bool := isKeyChar c || c == ',' || c == ' '

theorem isKeyChar_of_mem_text {key : SymbolKey} {c : Char} (h : c ∈ key.text.toList) :
    isKeyChar c = true := by
  have hdigit : ∀ n : Nat, c ∈ n.repr.toList → c.isDigit = true := by
    intro n hn
    rw [Nat.toList_repr] at hn
    exact Nat.isDigit_of_mem_toDigits (by decide) (by decide) hn
  have hnumber : c ∈ key.unique.repr.toList → c = '-' ∨ c.isDigit = true := by
    intro hc
    cases hunique : key.unique with
    | ofNat n =>
      rw [hunique] at hc
      exact .inr (hdigit n hc)
    | negSucc n =>
      rw [hunique] at hc
      have hsigned : c ∈ '-' :: n.succ.repr.toList := by simpa [Int.repr] using hc
      exact (List.mem_cons.mp hsigned).imp_right (hdigit n.succ)
  have hchars : c = '#' ∨ c ∈ key.unique.repr.toList := by simpa [text] using h
  rcases hchars with rfl | hc
  · rfl
  · rcases hnumber hc with rfl | hd
    · rfl
    · simp [isKeyChar, hd]

theorem text_inj {key key' : SymbolKey} (h : key.text = key'.text) : key = key' := by
  have hunique : key.unique = key'.unique := Int.repr_inj.mp ((String.append_right_inj "#").mp h)
  obtain ⟨unique⟩ := key
  obtain ⟨unique'⟩ := key'
  rw [mk.injEq]
  exact hunique

/-- What stands after the first key of a list. -/
def furtherText (keys : List SymbolKey) : List Char :=
  keys.flatMap fun key => ',' :: ' ' :: key.text.toList

theorem furtherText_cons (key : SymbolKey) (keys : List SymbolKey) :
    furtherText (key :: keys) = ',' :: ' ' :: (key.text.toList ++ furtherText keys) := by
  simp [furtherText]

theorem toList_listText_cons (key : SymbolKey) (keys : List SymbolKey) :
    (listText (key :: keys)).toList = key.text.toList ++ furtherText keys := by
  have hjoin : ∀ (t : List Char) (ks : List SymbolKey),
      List.intercalate [',', ' '] (t :: ks.map fun k => k.text.toList) = t ++ furtherText ks := by
    intro t ks
    induction ks generalizing t with
    | nil => simp [furtherText]
    | cons k ks ih => simp [furtherText, List.intercalate_cons_cons, ih]
  simpa [listText, String.toList_intercalate, Function.comp_def] using hjoin key.text.toList keys

theorem takeWhile_isKeyChar (key : SymbolKey) (keys : List SymbolKey) :
    (key.text.toList ++ furtherText keys).takeWhile isKeyChar = key.text.toList := by
  have hend : (furtherText keys).takeWhile isKeyChar = [] := by
    cases keys with
    | nil => rfl
    | cons k ks => simp [furtherText, isKeyChar]
  rw [List.takeWhile_append_of_pos fun c => isKeyChar_of_mem_text, hend, List.append_nil]

theorem eq_of_texts_eq {key key' : SymbolKey} {keys keys' : List SymbolKey}
    (h : key.text.toList ++ furtherText keys = key'.text.toList ++ furtherText keys') :
    key = key' := by
  have htext : key.text.toList = key'.text.toList := by
    rw [← takeWhile_isKeyChar key keys, h, takeWhile_isKeyChar]
  exact text_inj (String.toList_inj.mp htext)

theorem text_append_furtherText_inj {key key' : SymbolKey} {keys keys' : List SymbolKey}
    (h : key.text.toList ++ furtherText keys = key'.text.toList ++ furtherText keys') :
    key :: keys = key' :: keys' := by
  induction keys generalizing key key' keys' with
  | nil =>
    have hkey : key = key' := eq_of_texts_eq h
    subst hkey
    have hrest : furtherText [] = furtherText keys' := List.append_cancel_left h
    cases keys' with
    | nil => rfl
    | cons k' ks' => simp [furtherText] at hrest
  | cons k ks ih =>
    have hkey : key = key' := eq_of_texts_eq h
    subst hkey
    have hrest : furtherText (k :: ks) = furtherText keys' := List.append_cancel_left h
    cases keys' with
    | nil => simp [furtherText] at hrest
    | cons k' ks' =>
      rw [furtherText_cons, furtherText_cons] at hrest
      rw [ih (List.cons.inj (List.cons.inj hrest).2).2]

theorem listText_inj {keys keys' : List SymbolKey} (h : listText keys = listText keys') :
    keys = keys' := by
  have hchars := congrArg String.toList h
  cases keys with
  | nil =>
    cases keys' with
    | nil => rfl
    | cons key' keys' =>
      rw [toList_listText_cons] at hchars
      simp [listText, text] at hchars
  | cons key keys =>
    cases keys' with
    | nil =>
      rw [toList_listText_cons] at hchars
      simp [listText, text] at hchars
    | cons key' keys' =>
      rw [toList_listText_cons, toList_listText_cons] at hchars
      exact text_append_furtherText_inj hchars

theorem isListChar_of_mem_listText {keys : List SymbolKey} {c : Char}
    (h : c ∈ (listText keys).toList) : isListChar c = true := by
  have hkey : ∀ key : SymbolKey, c ∈ key.text.toList → isListChar c = true := by
    intro key hc
    simp [isListChar, isKeyChar_of_mem_text hc]
  cases keys with
  | nil =>
    have hdash : c = '-' := by simpa [listText] using h
    rw [hdash]
    rfl
  | cons key keys =>
    rw [toList_listText_cons, List.mem_append] at h
    rcases h with hc | hc
    · exact hkey key hc
    · obtain ⟨k, -, hmem⟩ := List.mem_flatMap.mp hc
      rcases List.mem_cons.mp hmem with rfl | hmem
      · rfl
      rcases List.mem_cons.mp hmem with rfl | hmem
      · rfl
      exact hkey k hmem

theorem notMem_text {c : Char} (hc : isKeyChar c = false) (key : SymbolKey) :
    c ∉ key.text.toList := by
  intro h
  simp [isKeyChar_of_mem_text h] at hc

theorem notMem_listText {c : Char} (hc : isListChar c = false) (keys : List SymbolKey) :
    c ∉ (listText keys).toList := by
  intro h
  simp [isListChar_of_mem_listText h] at hc

theorem space_le_of_isListChar {c : Char} (h : isListChar c = true) : ' ' ≤ c := by
  have hcases : (((c = '#' ∨ c = '-') ∨ c.isDigit = true) ∨ c = ',') ∨ c = ' ' := by
    simpa [isListChar, isKeyChar] using h
  rcases hcases with (((rfl | rfl) | hdigit) | rfl) | rfl
  · decide
  · decide
  · have hzero : '0' ≤ c := by
      simp only [Char.isDigit, Bool.and_eq_true, decide_eq_true_eq] at hdigit
      exact hdigit.1
    exact Char.le_trans (by decide) hzero
  · decide
  · decide

/-- Keys and their lists hold nothing that is read as markup. -/
theorem isLiteral_of_isListChar {s : String} (hs : ∀ c ∈ s.toList, isListChar c = true) :
    Text.IsLiteral s := by
  intro c hc
  have hlist := hs c hc
  have hne : ∀ d : Char, isListChar d = false → c ≠ d := by
    rintro d hd rfl
    exact absurd hlist (by simp [hd])
  exact ⟨space_le_of_isListChar hlist, hne _ (by decide), hne _ (by decide), hne _ (by decide)⟩

theorem isLiteral_listText (keys : List SymbolKey) : Text.IsLiteral (listText keys) :=
  isLiteral_of_isListChar fun _ => isListChar_of_mem_listText

theorem isLiteral_text (key : SymbolKey) : Text.IsLiteral key.text := by
  refine isLiteral_of_isListChar fun c hc => ?_
  simp [isListChar, isKeyChar_of_mem_text hc]

end SymbolKey

end DeclGraph
