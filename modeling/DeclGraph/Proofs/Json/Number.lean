import DeclGraph.Json.Printer
import DeclGraph.Json.Reader
import DeclGraph.Proofs.Decimal

/-!
Numbers, read back as they were written. A whole number comes back as it was, and any other as the
one nearest to the decimal that it is written as.
-/

namespace DeclGraph.Json

/-! Digits -/

@[simp] theorem digitsValue_toDigits (n : Nat) : digitsValue (Nat.toDigits 10 n) = n :=
  Nat.ofDigitChars_ten_toDigits

theorem digitsValue_append (xs ys : List Char) :
    digitsValue (xs ++ ys) = digitsValue xs * 10 ^ ys.length + digitsValue ys := by
  rw [digitsValue, List.foldl_append]
  refine Eq.trans Nat.ofDigitChars_eq_ofDigitChars_zero ?_
  rw [Nat.mul_comm]
  rfl

@[simp] theorem digitsValue_zeros (k : Nat) : digitsValue (List.replicate k '0') = 0 := by
  induction k with
  | zero => rfl
  | succ k ih => exact ih

theorem isDigit_of_mem_zeros {k : Nat} {c : Char} (h : c ∈ List.replicate k '0') :
    c.isDigit = true := by
  rw [List.eq_of_mem_replicate h]
  rfl

theorem isDigit_of_mem_toDigits {n : Nat} {c : Char} (h : c ∈ Nat.toDigits 10 n) :
    c.isDigit = true :=
  Nat.isDigit_of_mem_toDigits (by decide) (by decide) h

theorem head?_toDigits_ne {n : Nat} (h : 0 < n) : (Nat.toDigits 10 n).head? ≠ some '0' := by
  induction n using Nat.strongRecOn with
  | ind n ih =>
      rw [Nat.toDigits_eq_if (by decide)]
      split
      · simpa using Nat.ne_of_gt h
      · have htop := ih (n / 10) (by omega) (by omega)
        cases hdigits : Nat.toDigits 10 (n / 10) with
        | nil => exact absurd hdigits Nat.toDigits_ne_nil
        | cons c cs =>
            rw [hdigits] at htop
            exact htop

/-- The digits of a number without the zeros at their end are those of a number ten, a hundred and
so on times smaller. -/
theorem exists_significant {n : Nat} (h : 0 < n) :
    ∃ s k, 0 < s ∧ n = s * 10 ^ k ∧ Binary64.significant n = Nat.toDigits 10 s := by
  induction n using Nat.strongRecOn with
  | ind n ih =>
      by_cases hzero : n % 10 = 0
      · obtain ⟨s, k, hs, hn, hdigits⟩ := ih (n / 10) (by omega) (by omega)
        refine ⟨s, k + 1, hs, by rw [Nat.pow_succ, ← Nat.mul_assoc, ← hn]; omega, ?_⟩
        rw [← hdigits, Binary64.significant, Binary64.significant]
        simp [Nat.toDigits_of_base_le (show 1 < 10 by decide) (show 10 ≤ n by omega), hzero]
      · refine ⟨n, 0, h, by simp, ?_⟩
        have hlast : ∃ front, Nat.toDigits 10 n = front ++ [Nat.digitChar (n % 10)] := by
          rw [Nat.toDigits_eq_if (by decide)]
          split
          · exact ⟨[], by rw [Nat.mod_eq_of_lt ‹_›, List.nil_append]⟩
          · exact ⟨_, rfl⟩
        obtain ⟨front, hfront⟩ := hlast
        simp [Binary64.significant, hfront, hzero]

/-! Parts of a number -/

/-- No digit follows. -/
def EndsDigits (rest : List Char) : Prop := ∀ c ∈ rest.head?, c.isDigit = false

/-- Nothing follows that a number could go on with. -/
def EndsNumber (rest : List Char) : Prop :=
  ∀ c ∈ rest.head?, c.isDigit = false ∧ c ≠ '.' ∧ c ≠ 'e' ∧ c ≠ 'E'

theorem EndsNumber.digits {rest : List Char} (h : EndsNumber rest) : EndsDigits rest :=
  fun c hc => (h c hc).1

variable {digits rest : List Char}

theorem endsDigits_cons {c : Char} (h : c.isDigit = false) : EndsDigits (c :: rest) := by
  rintro _ ⟨⟩
  exact h

theorem takeWhile_digits (hdigits : ∀ c ∈ digits, c.isDigit = true) (hrest : EndsDigits rest) :
    (digits ++ rest).takeWhile Char.isDigit = digits := by
  rw [List.takeWhile_append_of_pos hdigits]
  cases rest with
  | nil => simp
  | cons c rest => simp [hrest c rfl]

theorem dropWhile_digits (hdigits : ∀ c ∈ digits, c.isDigit = true) (hrest : EndsDigits rest) :
    (digits ++ rest).dropWhile Char.isDigit = rest := by
  rw [List.dropWhile_append_of_pos hdigits]
  cases rest with
  | nil => rfl
  | cons c rest => simp [hrest c rfl]

theorem fraction_none (h : rest.head? ≠ some '.') : fraction rest = ([], rest) := by
  unfold fraction
  split
  · exact absurd rfl h
  · rfl

theorem fraction_point (hne : digits ≠ []) (hdigits : ∀ c ∈ digits, c.isDigit = true)
    (hrest : EndsDigits rest) : fraction ('.' :: (digits ++ rest)) = (digits, rest) := by
  rw [fraction, takeWhile_digits hdigits hrest, dropWhile_digits hdigits hrest]
  cases digits with
  | nil => exact absurd rfl hne
  | cons c digits => rfl

theorem exponentDigits_append (negative : Bool) (cs : List Char) (hne : digits ≠ [])
    (hdigits : ∀ c ∈ digits, c.isDigit = true) (hrest : EndsDigits rest) :
    exponentDigits negative cs (digits ++ rest) =
      (some (if negative then -(digitsValue digits : Int) else digitsValue digits), rest) := by
  rw [exponentDigits, takeWhile_digits hdigits hrest, dropWhile_digits hdigits hrest]
  cases digits with
  | nil => exact absurd rfl hne
  | cons c digits => rfl

theorem exponent_none (h : EndsNumber rest) : exponent rest = (none, rest) := by
  unfold exponent
  split
  · exact absurd rfl (h _ rfl).2.2.1
  · exact absurd rfl (h _ rfl).2.2.2
  · exact absurd rfl (h _ rfl).2.2.1
  · exact absurd rfl (h _ rfl).2.2.2
  · exact absurd rfl (h _ rfl).2.2.1
  · exact absurd rfl (h _ rfl).2.2.2
  · rfl

/-- What may stand before a point: no zero in front of further digits. -/
structure IsWhole (digits : List Char) : Prop where
  ne_nil : digits ≠ []
  isDigit : ∀ c ∈ digits, c.isDigit = true
  zero : digits.head? = some '0' → digits = ['0']

theorem isWhole_toDigits (n : Nat) : IsWhole (Nat.toDigits 10 n) := by
  refine ⟨Nat.toDigits_ne_nil, fun c => isDigit_of_mem_toDigits, fun hhead => ?_⟩
  by_cases hn : 0 < n
  · exact absurd hhead (head?_toDigits_ne hn)
  · rw [Nat.eq_zero_of_not_pos hn, Nat.toDigits_zero]

theorem wholeDigits_append (h : IsWhole digits) (hrest : EndsDigits rest) :
    wholeDigits (digits ++ rest) = digits := by
  have htake := takeWhile_digits h.isDigit hrest
  cases digits with
  | nil => exact absurd rfl h.ne_nil
  | cons c digits =>
      unfold wholeDigits
      split
      · next heq =>
        cases heq
        exact (h.zero rfl).symm
      · exact htake

theorem unsignedNumber_int (negative : Bool) (h : IsWhole digits)
    (hlimit : digits.length ≤ Text.digitLimit) (hrest : EndsNumber rest) :
    unsignedNumber negative (digits ++ rest) =
      some (.int (if negative then -(digitsValue digits : Int) else digitsValue digits), rest) := by
  have hpoint : rest.head? ≠ some '.' := fun hhead => (hrest _ hhead).2.1 rfl
  simp [unsignedNumber, wholeDigits_append h hrest.digits, h.ne_nil, fraction_none hpoint,
    exponent_none hrest, Nat.not_lt.mpr hlimit]

/-- A number with a fraction or an exponent. -/
theorem unsignedNumber_float (negative : Bool) {tail afterPoint decimals : List Char}
    {power : Option Int} (h : IsWhole digits) (htail : EndsDigits tail)
    (hfraction : fraction tail = (decimals, afterPoint))
    (hexponent : exponent afterPoint = (power, rest)) (hpart : decimals ≠ [] ∨ power ≠ none) :
    unsignedNumber negative (digits ++ tail) =
      some (.float (Binary64.ofDecimal negative (digitsValue (digits ++ decimals))
        (power.getD 0 - decimals.length)), rest) := by
  have hwhole : ¬ (decimals.isEmpty ∧ power.isNone) := by
    simpa [imp_iff_not_or] using hpart
  simp only [unsignedNumber, wholeDigits_append h htail, List.isEmpty_eq_false_iff.mpr h.ne_nil,
    List.drop_left, hfraction, hexponent, if_neg hwhole, Bool.false_eq_true, if_false]

theorem unsignedNumber_point (negative : Bool) {decimals : List Char} (h : IsWhole digits)
    (hne : decimals ≠ []) (hdecimals : ∀ c ∈ decimals, c.isDigit = true) (hrest : EndsNumber rest) :
    unsignedNumber negative (digits ++ '.' :: (decimals ++ rest)) =
      some (.float (Binary64.ofDecimal negative (digitsValue (digits ++ decimals))
        (-decimals.length)), rest) := by
  have hpoint : ('.').isDigit = false := rfl
  rw [unsignedNumber_float negative h (endsDigits_cons hpoint)
    (fraction_point hne hdecimals hrest.digits) (exponent_none hrest) (.inl hne)]
  simp

/-! The layouts of a decimal -/

variable {s : Nat}

theorem isWhole_take (hs : 0 < s) {n : Nat} (hn : 0 < n) :
    IsWhole ((Nat.toDigits 10 s).take n) where
  ne_nil := by simp [Nat.toDigits_ne_nil, Nat.ne_of_gt hn]
  isDigit c hc := isDigit_of_mem_toDigits (List.mem_of_mem_take hc)
  zero hhead := by
    rw [List.head?_take, if_neg (Nat.ne_of_gt hn)] at hhead
    exact absurd hhead (head?_toDigits_ne hs)

theorem isWhole_append_zeros (hs : 0 < s) (n : Nat) :
    IsWhole (Nat.toDigits 10 s ++ List.replicate n '0') where
  ne_nil := by simp [Nat.toDigits_ne_nil]
  isDigit c hc := (List.mem_append.mp hc).elim isDigit_of_mem_toDigits isDigit_of_mem_zeros
  zero hhead := by
    rw [← toDigits_mul_pow hs] at hhead
    exact absurd hhead (head?_toDigits_ne (Nat.mul_pos hs (Nat.pow_pos (by decide))))

/-- Zeros between the point and the digits. -/
theorem unsignedNumber_small (negative : Bool) {point : Int} (hpoint : point ≤ 0)
    (hrest : EndsNumber rest) :
    unsignedNumber negative (Binary64.positional (Nat.toDigits 10 s) point ++ rest) =
      some (.float (Binary64.ofDecimal negative s (point - (Nat.toDigits 10 s).length)), rest) := by
  have hzero : IsWhole ['0'] := isWhole_toDigits 0
  have hdecimals : ∀ c ∈ List.replicate (-point).toNat '0' ++ Nat.toDigits 10 s,
      c.isDigit = true := fun c hc =>
    (List.mem_append.mp hc).elim isDigit_of_mem_zeros isDigit_of_mem_toDigits
  have hread := unsignedNumber_point negative hzero (by simp [Nat.toDigits_ne_nil]) hdecimals hrest
  have hvalue : digitsValue (['0'] ++ (List.replicate (-point).toNat '0' ++ Nat.toDigits 10 s)) =
      s := by
    rw [digitsValue_append, digitsValue_append, digitsValue_zeros, digitsValue_toDigits]
    simp [digitsValue]
  have hexponent : -((List.replicate (-point).toNat '0' ++ Nat.toDigits 10 s).length : Int) =
      point - (Nat.toDigits 10 s).length := by
    rw [List.length_append, List.length_replicate]
    omega
  rw [hvalue, hexponent] at hread
  rw [Binary64.positional, if_pos hpoint]
  simpa using hread

/-- Digits on both sides of the point. -/
theorem unsignedNumber_split (negative : Bool) (hs : 0 < s) {n : Nat} (hn : 0 < n)
    (hlength : n < (Nat.toDigits 10 s).length) (hrest : EndsNumber rest) :
    unsignedNumber negative
        ((Nat.toDigits 10 s).take n ++ '.' :: ((Nat.toDigits 10 s).drop n ++ rest)) =
      some (.float (Binary64.ofDecimal negative s (n - (Nat.toDigits 10 s).length)), rest) := by
  have hne : (Nat.toDigits 10 s).drop n ≠ [] := by simpa using hlength
  have hexponent : -(((Nat.toDigits 10 s).drop n).length : Int) =
      n - (Nat.toDigits 10 s).length := by
    rw [List.length_drop]
    omega
  rw [unsignedNumber_point negative (isWhole_take hs hn) hne
    (fun c hc => isDigit_of_mem_toDigits (List.mem_of_mem_drop hc)) hrest, List.take_append_drop,
    digitsValue_toDigits, hexponent]

/-- Zeros between the digits and the point. -/
theorem unsignedNumber_large (negative : Bool) (hs : 0 < s) {n : Nat}
    (hlength : (Nat.toDigits 10 s).length ≤ n) (hrest : EndsNumber rest) :
    unsignedNumber negative
        (Nat.toDigits 10 s ++ List.replicate (n - (Nat.toDigits 10 s).length) '0' ++
          '.' :: (['0'] ++ rest)) =
      some (.float (Binary64.ofDecimal negative s (n - (Nat.toDigits 10 s).length)), rest) := by
  have hvalue : digitsValue
      (Nat.toDigits 10 s ++ List.replicate (n - (Nat.toDigits 10 s).length) '0' ++ ['0']) =
        s * 10 ^ (n - (Nat.toDigits 10 s).length + 1) := by
    rw [List.append_assoc, ← List.replicate_succ', digitsValue_append, digitsValue_zeros,
      digitsValue_toDigits, List.length_replicate, Nat.add_zero]
  have hexponent : -((['0'] : List Char).length : Int) +
      (n - (Nat.toDigits 10 s).length + 1 : Nat) = n - (Nat.toDigits 10 s).length := by
    rw [List.length_singleton]
    omega
  rw [unsignedNumber_point negative (isWhole_append_zeros hs _) (by simp) (by simp) hrest, hvalue,
    Binary64.ofDecimal_mul_pow hs, hexponent]

theorem unsignedNumber_positional (negative : Bool) (hs : 0 < s) (point : Int)
    (hrest : EndsNumber rest) :
    unsignedNumber negative (Binary64.positional (Nat.toDigits 10 s) point ++ rest) =
      some (.float (Binary64.ofDecimal negative s (point - (Nat.toDigits 10 s).length)), rest) := by
  by_cases hpoint : point ≤ 0
  · exact unsignedNumber_small negative hpoint hrest
  · obtain ⟨n, rfl⟩ := Int.eq_ofNat_of_zero_le (show 0 ≤ point by omega)
    rw [Binary64.positional, if_neg hpoint, Int.toNat_natCast]
    by_cases hlength : n < (Nat.toDigits 10 s).length
    · have hread := unsignedNumber_split negative hs (show 0 < n by omega) hlength hrest
      have hne : (Nat.toDigits 10 s).drop n ≠ [] := by simpa using hlength
      simpa [hne, Nat.min_eq_left (Nat.le_of_lt hlength)] using hread
    · have hall := Nat.not_lt.mp hlength
      have hread := unsignedNumber_large negative hs hall hrest
      simpa [List.take_of_length_le hall, List.drop_of_length_le hall] using hread

theorem exponent_exponentText (power : Int) (hrest : EndsDigits rest) :
    exponent (Binary64.exponentText power ++ rest) = (some power, rest) := by
  have hsize : (toString power.natAbs).toList = Nat.toDigits 10 power.natAbs := by
    rw [Nat.toString_eq_repr, Nat.toList_repr]
  have hdigits : ∀ c ∈ List.replicate (2 - (Nat.toDigits 10 power.natAbs).length) '0' ++
      Nat.toDigits 10 power.natAbs, c.isDigit = true := fun c hc =>
    (List.mem_append.mp hc).elim isDigit_of_mem_zeros isDigit_of_mem_toDigits
  have hread (negative : Bool) (cs : List Char) := exponentDigits_append negative cs
    (by simp [Nat.toDigits_ne_nil]) hdigits hrest
  rw [digitsValue_append, digitsValue_zeros, digitsValue_toDigits, Nat.zero_mul,
    Nat.zero_add] at hread
  rw [Binary64.exponentText, hsize]
  by_cases hpower : power < 0
  · rw [if_pos hpower]
    refine (hread true _).trans ?_
    rw [if_pos rfl, Int.ofNat_natAbs_of_nonpos (by omega), Int.neg_neg]
  · rw [if_neg hpower]
    refine (hread false _).trans ?_
    rw [if_neg Bool.false_ne_true, Int.natAbs_of_nonneg (by omega)]

theorem endsDigits_exponentText (power : Int) (rest : List Char) :
    EndsDigits (Binary64.exponentText power ++ rest) :=
  endsDigits_cons rfl

/-- One digit before the point, and an exponent. -/
theorem unsignedNumber_withExponent (negative : Bool) (hs : 0 < s) (power : Int)
    (hrest : EndsNumber rest) :
    unsignedNumber negative (Binary64.withExponent (Nat.toDigits 10 s) power ++ rest) =
      some (.float (Binary64.ofDecimal negative s (power + 1 - (Nat.toDigits 10 s).length)),
        rest) := by
  have hpower := exponent_exponentText power hrest.digits
  have hends := endsDigits_exponentText power rest
  have hlength : 0 < (Nat.toDigits 10 s).length := Nat.length_toDigits_pos
  have hexponent : power - (((Nat.toDigits 10 s).drop 1).length : Int) =
      power + 1 - (Nat.toDigits 10 s).length := by
    rw [List.length_drop]
    omega
  rw [Binary64.withExponent, List.append_assoc, List.append_assoc]
  by_cases hone : (Nat.toDigits 10 s).drop 1 = []
  · have hhead : (Binary64.exponentText power ++ rest).head? ≠ some '.' := nofun
    have hnone := fraction_none hhead
    have hread := unsignedNumber_float negative (isWhole_take hs Nat.one_pos) hends hnone hpower
      (.inr nofun)
    have hall : (Nat.toDigits 10 s).take 1 = Nat.toDigits 10 s :=
      List.take_of_length_le (List.drop_eq_nil_iff.mp hone)
    rw [hone] at hexponent
    rw [hone, List.isEmpty_nil, if_pos rfl, List.nil_append, hread, List.append_nil, hall,
      digitsValue_toDigits, Option.getD_some, hexponent]
  · have hdecimals : ∀ c ∈ (Nat.toDigits 10 s).drop 1, c.isDigit = true :=
      fun c hc => isDigit_of_mem_toDigits (List.mem_of_mem_drop hc)
    have hpoint : ('.').isDigit = false := rfl
    have hread := unsignedNumber_float negative (isWhole_take hs Nat.one_pos)
      (endsDigits_cons hpoint) (fraction_point hone hdecimals hends) hpower (.inr nofun)
    rw [List.take_append_drop, digitsValue_toDigits, Option.getD_some, hexponent] at hread
    rw [List.isEmpty_eq_false_iff.mpr hone, if_neg Bool.false_ne_true]
    exact hread

/-! Numbers as they are written -/

open Binary64 in
theorem unsignedNumber_decimalText (negative : Bool) {d : Decimal} (hd : 0 < d.digits)
    (form : Spelling) (hrest : EndsNumber rest) :
    unsignedNumber negative (decimalText form d ++ rest) =
      some (.float (ofDecimal negative d.digits d.exponent), rest) := by
  obtain ⟨s, k, hs, hdigits, htext⟩ := exists_significant hd
  have hlength : (toString d.digits).toList.length = (Nat.toDigits 10 s).length + k := by
    rw [String.length_toList, length_toString, hdigits, toDigits_mul_pow hs, List.length_append,
      List.length_replicate]
  have hvalue : ofDecimal negative d.digits d.exponent = ofDecimal negative s (d.exponent + k) := by
    rw [hdigits, ofDecimal_mul_pow hs]
  rw [hvalue, decimalText, htext, hlength]
  split
  · rw [unsignedNumber_positional negative hs _ hrest]
    congr 4
    omega
  · rw [unsignedNumber_withExponent negative hs _ hrest]
    congr 4
    omega

open Binary64 in
theorem unsignedNumber_unsignedText (negative : Bool) (units : Nat) (hrest : EndsNumber rest) :
    unsignedNumber negative (unsignedText numberWords units ++ rest) =
      some (.float (finite negative units).reread, rest) := by
  by_cases hunits : units = 0
  · subst hunits
    have hdecimals : ∀ c ∈ ['0'], c.isDigit = true := List.forall_mem_singleton.mpr rfl
    exact unsignedNumber_point negative (isWhole_toDigits 0) nofun hdecimals hrest
  · rw [unsignedText, if_neg hunits, reread, if_neg hunits]
    exact unsignedNumber_decimalText negative (digits_shortest_pos (Nat.pos_of_ne_zero hunits)) _
      hrest

end DeclGraph.Json
