import DeclGraph.Proofs.Json.Number
import DeclGraph.Proofs.Json.String

/-!
JSON text is ASCII, so it never holds half a surrogate pair and any file takes it.
-/

namespace DeclGraph

def IsAscii (cs : List Char) : Prop := ∀ c ∈ cs, c.toNat < 0x80

instance (cs : List Char) : Decidable (IsAscii cs) :=
  List.decidableBAll (fun c : Char => c.toNat < 0x80) cs

namespace IsAscii

variable {cs ds : List Char}

theorem nil : IsAscii [] := List.forall_mem_nil _

theorem append (hcs : IsAscii cs) (hds : IsAscii ds) : IsAscii (cs ++ ds) :=
  List.forall_mem_append.mpr ⟨hcs, hds⟩

theorem cons {c : Char} (hc : c.toNat < 0x80) (hcs : IsAscii cs) : IsAscii (c :: cs) :=
  List.forall_mem_cons.mpr ⟨hc, hcs⟩

theorem subset (hds : IsAscii ds) (h : cs ⊆ ds) : IsAscii cs := fun c hc => hds c (h hc)

theorem flatMap {write : Char → List Char} (h : ∀ c ∈ cs, IsAscii (write c)) :
    IsAscii (cs.flatMap write) := by
  intro c hc
  obtain ⟨d, hd, hcd⟩ := List.mem_flatMap.mp hc
  exact h d hd c hcd

theorem intercalate {separator : String} {texts : List String} (hseparator : IsAscii separator.toList)
    (h : ∀ text ∈ texts, IsAscii text.toList) : IsAscii (separator.intercalate texts).toList := by
  induction texts with
  | nil => simpa using nil
  | cons text texts ih =>
      obtain ⟨htext, htexts⟩ := List.forall_mem_cons.mp h
      cases texts with
      | nil => rwa [String.intercalate_singleton]
      | cons next texts =>
          rw [String.intercalate_cons_cons, String.toList_append, String.toList_append]
          exact (htext.append hseparator).append (ih htexts)

end IsAscii

theorem toNat_lt_of_isDigit {c : Char} (h : c.isDigit = true) : c.toNat < 0x80 := by
  rw [Char.isDigit, Bool.and_eq_true, decide_eq_true_iff, decide_eq_true_iff] at h
  have hle : c.toNat ≤ 57 := h.2
  omega

theorem isAscii_toDigits (n : Nat) : IsAscii (Nat.toDigits 10 n) :=
  fun _ hc => toNat_lt_of_isDigit (Json.isDigit_of_mem_toDigits hc)

theorem isAscii_zeros (n : Nat) : IsAscii (List.replicate n '0') :=
  fun _ hc => toNat_lt_of_isDigit (Json.isDigit_of_mem_zeros hc)

theorem isAscii_toString_nat (n : Nat) : IsAscii (toString n).toList := by
  rw [Nat.toString_eq_repr, Nat.toList_repr]
  exact isAscii_toDigits n

theorem isAscii_toString_int (n : Int) : IsAscii (toString n).toList := by
  rw [Int.toString_eq_repr, Int.repr_eq_if]
  split
  · rw [Nat.toList_repr]
    exact isAscii_toDigits _
  · rw [String.toList_append, Nat.toList_repr]
    exact IsAscii.append (by decide) (isAscii_toDigits _)

namespace Binary64

variable {digits : List Char}

theorem isAscii_significant (n : Nat) : IsAscii (significant n) := by
  refine (isAscii_toString_nat n).subset fun c hc => ?_
  have hdropped := List.dropWhile_subset _ (List.mem_reverse.mp hc)
  exact List.mem_reverse.mp hdropped

theorem isAscii_positional (h : IsAscii digits) (point : Int) : IsAscii (positional digits point) := by
  unfold positional
  split
  · exact .cons (by decide) (.cons (by decide) ((isAscii_zeros _).append h))
  · refine ((h.subset (List.take_subset _ _)).append (isAscii_zeros _)).append ?_
    refine .cons (by decide) ?_
    split
    · decide
    · exact h.subset (List.drop_subset _ _)

theorem isAscii_withExponent (h : IsAscii digits) (power : Int) :
    IsAscii (withExponent digits power) := by
  have hfraction := h.subset (List.drop_subset 1 digits)
  refine ((h.subset (List.take_subset 1 digits)).append ?_).append ?_
  · split
    · exact .nil
    · exact .cons (by decide) hfraction
  · refine .cons (by decide) (.cons ?_ ((isAscii_zeros _).append (isAscii_toString_nat _)))
    split <;> decide

theorem isAscii_unsignedText (form : Spelling) (units : Nat) : IsAscii (unsignedText form units) := by
  have hzero : IsAscii ['0'] := isAscii_zeros 1
  unfold unsignedText zeroText decimalText
  split
  · split
    · exact isAscii_positional hzero _
    · exact isAscii_withExponent hzero _
  · dsimp only
    split
    · exact isAscii_positional (isAscii_significant _) _
    · exact isAscii_withExponent (isAscii_significant _) _

end Binary64

namespace Json

theorem isAscii_textAs (x : Binary64) : IsAscii (x.textAs numberWords).toList := by
  cases x with
  | nan => decide
  | infinite negative => cases negative <;> decide
  | finite negative units =>
      rw [Binary64.textAs, String.toList_append, String.toList_ofList]
      refine IsAscii.append ?_ (Binary64.isAscii_unsignedText _ _)
      cases negative <;> decide

theorem isAscii_unitEscape (unit : Nat) : IsAscii (unitEscape unit) := by
  have hdigit : ∀ n < 16, (Nat.digitChar n).toNat < 0x80 := by decide
  refine .cons (by decide) (.cons (by decide) fun c hc => ?_)
  obtain ⟨i, -, rfl⟩ := List.mem_map.mp hc
  exact hdigit _ (Nat.mod_lt _ (by decide))

theorem isAscii_escape (c : Char) : IsAscii (escape c) := by
  have hform := escaped_escape c
  generalize escape c = written at hform ⊢
  cases hform with
  | plain _ _ _ hascii => exact .cons hascii .nil
  | marked hmark _ => exact .cons (by decide) (.cons hmark.2 .nil)
  | half _ => exact isAscii_unitEscape _
  | unit _ _ => exact isAscii_unitEscape _
  | pair _ _ => exact (isAscii_unitEscape _).append (isAscii_unitEscape _)

theorem isAscii_quoted (s : String) : IsAscii (quoted s).toList := by
  rw [toList_quoted]
  exact .cons (by decide) ((IsAscii.flatMap fun c _ => isAscii_escape c).append (by decide))

theorem isAscii_scalarText (v : Scalar) : IsAscii (scalarText v).toList := by
  cases v with
  | null => decide
  | bool b => cases b <;> decide
  | int n => exact isAscii_toString_int n
  | float x => exact isAscii_textAs x
  | str s => exact isAscii_quoted s
  | bytes b => exact isAscii_quoted _
  | date d => exact isAscii_quoted _
  | instant i => exact isAscii_quoted _

mutual

theorem isAscii_text : ∀ d : Datum, IsAscii (text d).toList
  | .scalar v => isAscii_scalarText v
  | .sequence _ items => by
      rw [text, String.toList_append, String.toList_append]
      have hitems : IsAscii (", ".intercalate (texts items)).toList :=
        .intercalate (by decide) (isAscii_texts items)
      exact (IsAscii.append (by decide) hitems).append (by decide)
  | .map entries => by
      rw [text, String.toList_append, String.toList_append]
      have hentries : IsAscii (", ".intercalate (memberTexts entries)).toList :=
        .intercalate (by decide) (isAscii_memberTexts entries)
      exact (IsAscii.append (by decide) hentries).append (by decide)
  | .knot _ value => isAscii_text value
  | .loop .. => isAscii_scalarText .null

theorem isAscii_texts : ∀ items : List Datum, ∀ t ∈ texts items, IsAscii t.toList
  | [] => List.forall_mem_nil _
  | item :: items => List.forall_mem_cons.mpr ⟨isAscii_text item, isAscii_texts items⟩

theorem isAscii_memberTexts : ∀ entries : List (Scalar × Datum),
    ∀ t ∈ memberTexts entries, IsAscii t.toList
  | [] => List.forall_mem_nil _
  | (key, value) :: entries => by
      refine List.forall_mem_cons.mpr ⟨?_, isAscii_memberTexts entries⟩
      rw [String.toList_append, String.toList_append]
      exact ((isAscii_quoted (keyString key)).append (by decide)).append (isAscii_text value)

end

/-- No JSON text holds half a surrogate pair. -/
theorem hasHalf_text (d : Datum) : Text.hasHalf (text d) = false := by
  rw [Text.hasHalf, List.any_eq_false]
  intro c hc
  have hascii := isAscii_text d c hc
  have hbase : Text.halfBase = 0x10F000 := rfl
  rw [Text.halfUnit?, if_neg (by omega)]
  exact Bool.false_ne_true

end Json

end DeclGraph
