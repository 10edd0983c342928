import Mathlib.Data.Nat.Init
import DeclGraph.Json.Printer
import DeclGraph.Json.Reader

/-!
Strings between quotes, read back as they were written. Only two halves of a surrogate pair that
stand one after the other come back as the character that they make up.
-/

namespace DeclGraph

namespace Text

theorem hexValue?_digitChar : ∀ n < 16, hexValue? (Nat.digitChar n) = some n := by decide

theorem hexDigits_succ (count n : Nat) :
    hexDigits (count + 1) n = Nat.digitChar (n / Nat.pow 16 count % 16) :: hexDigits count n := by
  simp [hexDigits, List.range_succ]

/-- Digits read back as the number they were written for, as far as they go. -/
theorem hexNumber_hexDigits (count n : Nat) (cs : List Char) :
    hexNumber count (hexDigits count n ++ cs) = some (n % Nat.pow 16 count, cs) := by
  induction count with
  | zero => simp [hexNumber, hexDigits, Nat.mod_one]
  | succ count ih =>
      have hdigit := hexValue?_digitChar (n / Nat.pow 16 count % 16) (Nat.mod_lt _ (by decide))
      rw [hexDigits_succ, List.cons_append, hexNumber, hdigit]
      show (hexNumber count (hexDigits count n ++ cs)).bind _ = _
      rw [ih]
      refine congrArg (fun value => some (value, cs)) ?_
      rw [Nat.mul_comm, Nat.add_comm]
      exact Nat.mod_pow_succ.symm

end Text

namespace Json

open Text

/-- How a character is written between quotes. -/
inductive Escaped (c : Char) : List Char → Prop where
  | plain (hquote : c ≠ '"') (hslash : c ≠ '\\') (hvisible : ¬ c.toNat < 0x20)
      (hascii : c.toNat < 0x80) : Escaped c [c]
  | marked {mark : Char} (hmark : mark ≠ 'u' ∧ mark.toNat < 0x80)
      (hread : ∀ cs, escaped (mark :: cs) = some (c, cs)) : Escaped c ['\\', mark]
  | half {unit : Nat} (hunit : halfUnit? c = some unit) : Escaped c (unitEscape unit)
  | unit (hwhole : halfUnit? c = none) (hsmall : c.toNat < 0x10000) :
      Escaped c (unitEscape c.toNat)
  | pair (hwhole : halfUnit? c = none) (hlarge : 0x10000 ≤ c.toNat) :
      Escaped c (unitEscape (0xD800 + (c.toNat - 0x10000) / 0x400) ++
        unitEscape (0xDC00 + (c.toNat - 0x10000) % 0x400))

/-- A mark is read as the character that it stands for. -/
theorem escaped_mark {c mark : Char} (h : mark? c = some mark) :
    (mark ≠ 'u' ∧ mark.toNat < 0x80) ∧ ∀ cs, escaped (mark :: cs) = some (c, cs) := by
  unfold mark? at h
  split at h
  case h_8 => cases h
  all_goals
    cases h
    exact ⟨by decide, fun _ => rfl⟩

theorem escaped_escape (c : Char) : Escaped c (escape c) := by
  unfold escape
  split
  · next mark hmark =>
    exact .marked (escaped_mark hmark).1 (escaped_mark hmark).2
  next hmark =>
  split
  · next hvisible =>
    have hplain : c ≠ '"' ∧ c ≠ '\\' := by
      constructor <;>
        · rintro rfl
          exact hmark _ rfl
    exact .plain hplain.1 hplain.2 (by omega) (by omega)
  split
  · next unit hunit => exact .half hunit
  next hhalf =>
  have hwhole : halfUnit? c = none := Option.eq_none_iff_forall_ne_some.mpr hhalf
  split
  · next hsmall => exact .unit hwhole hsmall
  · next hlarge => exact .pair hwhole (by omega)

theorem halfUnit?_eq_some_iff {c : Char} {unit : Nat} :
    halfUnit? c = some unit ↔
      (halfBase ≤ c.toNat ∧ c.toNat < halfBase + 0x800) ∧ 0xD800 + (c.toNat - halfBase) = unit := by
  rw [halfUnit?, Option.ite_none_right_eq_some, Option.some.injEq]

theorem bounds_of_halfUnit? {c : Char} {unit : Nat} (h : halfUnit? c = some unit) :
    0xD800 ≤ unit ∧ unit < 0xE000 := by
  obtain ⟨hrange, rfl⟩ := halfUnit?_eq_some_iff.mp h
  omega

theorem halfChar_of_halfUnit? {c : Char} {unit : Nat} (h : halfUnit? c = some unit) :
    halfChar unit = c := by
  obtain ⟨hrange, rfl⟩ := halfUnit?_eq_some_iff.mp h
  have hback : halfBase + (0xD800 + (c.toNat - halfBase) - 0xD800) = c.toNat := by omega
  rw [halfChar, hback, Char.ofNat_toNat]

theorem escape_of_halfUnit? {c : Char} {unit : Nat} (h : halfUnit? c = some unit) :
    escape c = unitEscape unit := by
  obtain ⟨⟨hlarge, -⟩, -⟩ := halfUnit?_eq_some_iff.mp h
  have hbase : halfBase = 0x10F000 := rfl
  have hmark : mark? c = none := by
    unfold mark?
    split
    case h_8 => rfl
    all_goals exact absurd hlarge (by decide)
  rw [escape, if_neg (by omega)]
  simp only [hmark, h]

theorem isHalfUnit_toNat (c : Char) : isHalfUnit c.toNat = false := by
  have hvalid : c.toNat < 0xD800 ∨ 0xDFFF < c.toNat ∧ c.toNat < 0x110000 := c.valid
  rw [isHalfUnit, Bool.and_eq_false_iff, decide_eq_false_iff_not, decide_eq_false_iff_not]
  omega

theorem hexNumber_unit {unit : Nat} (h : unit < 0x10000) (cs : List Char) :
    hexNumber 4 (hexDigits 4 unit ++ cs) = some (unit, cs) := by
  have hsmall : unit < Nat.pow 16 4 := h
  rw [hexNumber_hexDigits, Nat.mod_eq_of_lt hsmall]

/-- No low half follows that would make up a pair with a high one. -/
def LeavesHigh (rest : List Char) : Prop :=
  ∀ cs, rest = '\\' :: 'u' :: cs →
    ∃ unit more, hexNumber 4 cs = some (unit, more) ∧ ¬ (0xDC00 ≤ unit ∧ unit < 0xE000)

theorem escaped_whole {unit : Nat} (hsmall : unit < 0x10000) (hunit : isHalfUnit unit = false)
    (rest : List Char) :
    escaped ('u' :: (hexDigits 4 unit ++ rest)) = some (Char.ofNat unit, rest) := by
  have hhigh : ¬ (0xD800 ≤ unit ∧ unit < 0xDC00) := by
    rw [isHalfUnit, Bool.and_eq_false_iff, decide_eq_false_iff_not, decide_eq_false_iff_not] at hunit
    omega
  simp [escaped, hexNumber_unit hsmall, hhigh, hunit]

theorem escaped_half {unit : Nat} (hunit : 0xD800 ≤ unit ∧ unit < 0xE000) {rest : List Char}
    (hrest : unit < 0xDC00 → LeavesHigh rest) :
    escaped ('u' :: (hexDigits 4 unit ++ rest)) = some (halfChar unit, rest) := by
  have hhalf : isHalfUnit unit = true := by
    rw [isHalfUnit, Bool.and_eq_true, decide_eq_true_iff, decide_eq_true_iff]
    exact hunit
  by_cases hhigh : 0xD800 ≤ unit ∧ unit < 0xDC00
  · simp only [escaped, hexNumber_unit (show unit < 0x10000 by omega), Option.bind_eq_bind,
      Option.bind_some, if_pos hhigh]
    split
    · next cs =>
      obtain ⟨low, more, hlow, hrange⟩ := hrest hhigh.2 cs rfl
      simp only [hlow, if_neg hrange]
    · rfl
  · simp [escaped, hexNumber_unit (show unit < 0x10000 by omega), hhigh, hhalf]

theorem escaped_pair {high low : Nat} (hhigh : 0xD800 ≤ high ∧ high < 0xDC00)
    (hlow : 0xDC00 ≤ low ∧ low < 0xE000) (rest : List Char) :
    escaped ('u' :: (hexDigits 4 high ++ (unitEscape low ++ rest))) =
      some (Char.ofNat (0x10000 + (high - 0xD800) * 0x400 + (low - 0xDC00)), rest) := by
  simp [escaped, unitEscape, hexNumber_unit (show high < 0x10000 by omega),
    hexNumber_unit (show low < 0x10000 by omega), hhigh, hlow]

/-! One character after the other -/

variable {c d : Char} {rest more read : List Char} {fuel : Nat}

theorem stringBody_escaped {cs : List Char} (h : escaped cs = some (c, rest)) :
    stringBody (fuel + 1) read ('\\' :: cs) = stringBody fuel (c :: read) rest := by
  simp [stringBody, h]

theorem stringBody_unitEscape {unit : Nat}
    (h : escaped ('u' :: (hexDigits 4 unit ++ rest)) = some (c, more)) :
    stringBody (fuel + 1) read (unitEscape unit ++ rest) = stringBody fuel (c :: read) more :=
  stringBody_escaped h

/-- Each character is read back, unless it is the first half of a pair. -/
theorem stringBody_escape
    (hrest : ∀ unit, halfUnit? c = some unit → unit < 0xDC00 → LeavesHigh rest) :
    stringBody (fuel + 1) read (escape c ++ rest) = stringBody fuel (c :: read) rest := by
  have hform := escaped_escape c
  generalize escape c = written at hform ⊢
  cases hform with
  | plain hquote hslash hvisible _ => simp [stringBody, hquote, hslash, hvisible]
  | marked hmark hread => exact stringBody_escaped (hread rest)
  | half hunit =>
      refine stringBody_unitEscape ?_
      rw [escaped_half (bounds_of_halfUnit? hunit) (hrest _ hunit), halfChar_of_halfUnit? hunit]
  | unit hwhole hsmall =>
      refine stringBody_unitEscape ?_
      rw [escaped_whole hsmall (isHalfUnit_toNat c), Char.ofNat_toNat]
  | pair hwhole hlarge =>
      have hvalid : c.toNat < 0x110000 := by
        have hvalid : c.toNat < 0xD800 ∨ 0xDFFF < c.toNat ∧ c.toNat < 0x110000 := c.valid
        omega
      rw [List.append_assoc]
      refine stringBody_unitEscape ?_
      rw [escaped_pair (by omega) (by omega)]
      have hback : 0x10000 + (0xD800 + (c.toNat - 0x10000) / 0x400 - 0xD800) * 0x400 +
          (0xDC00 + (c.toNat - 0x10000) % 0x400 - 0xDC00) = c.toNat := by
        omega
      rw [hback, Char.ofNat_toNat]

/-- Two halves that make up a pair are read back as one character. -/
theorem stringBody_escape_pair {high low : Nat} (hc : halfUnit? c = some high)
    (hd : halfUnit? d = some low) (hhigh : high < 0xDC00) (hlow : 0xDC00 ≤ low) :
    stringBody (fuel + 1) read (escape c ++ (escape d ++ rest)) =
      stringBody fuel
        (Char.ofNat (0x10000 + (high - 0xD800) * 0x400 + (low - 0xDC00)) :: read) rest := by
  rw [escape_of_halfUnit? hc, escape_of_halfUnit? hd]
  refine stringBody_unitEscape ?_
  exact escaped_pair ⟨(bounds_of_halfUnit? hc).1, hhigh⟩ ⟨hlow, (bounds_of_halfUnit? hd).2⟩ rest

theorem leavesHigh_quote (rest : List Char) : LeavesHigh ('"' :: rest) := nofun

theorem leavesHigh_unitEscape {unit : Nat} (hsmall : unit < 0x10000)
    (hlow : ¬ (0xDC00 ≤ unit ∧ unit < 0xE000)) (rest : List Char) :
    LeavesHigh (unitEscape unit ++ rest) := by
  intro cs hcs
  injection hcs with _ hmark
  injection hmark with _ hdigits
  subst hdigits
  exact ⟨unit, rest, hexNumber_unit hsmall rest, hlow⟩

theorem leavesHigh_escape (hd : ∀ low, halfUnit? d = some low → low < 0xDC00) (rest : List Char) :
    LeavesHigh (escape d ++ rest) := by
  have hvalid : d.toNat < 0xD800 ∨ 0xDFFF < d.toNat ∧ d.toNat < 0x110000 := d.valid
  have hform := escaped_escape d
  generalize escape d = written at hform ⊢
  cases hform with
  | plain hquote hslash hvisible _ =>
      intro cs hcs
      injection hcs with hd'
      exact absurd hd' hslash
  | marked hmark hread =>
      intro cs hcs
      injection hcs with _ hrest
      injection hrest with hmark'
      exact absurd hmark' hmark.1
  | half hunit =>
      have hbounds := bounds_of_halfUnit? hunit
      have hhigh := hd _ hunit
      exact leavesHigh_unitEscape (by omega) (by omega) rest
  | unit hwhole hsmall => exact leavesHigh_unitEscape hsmall (by omega) rest
  | pair hwhole hlarge =>
      rw [List.append_assoc]
      exact leavesHigh_unitEscape (by omega) (by omega) _

/-- A step over a character after which a string goes on as it is read back. -/
theorem stringBody_cons {cs : List Char}
    (hlow : ∀ unit, halfUnit? c = some unit → unit < 0xDC00 → LeavesHigh (cs.flatMap escape ++ rest))
    {joined : List Char}
    (h : ∀ {fuel : Nat} {read : List Char}, cs.length < fuel →
      stringBody fuel read (cs.flatMap escape ++ rest) =
        some (String.ofList (read.reverse ++ joined), more))
    (hfuel : (c :: cs).length < fuel) :
    stringBody fuel read ((c :: cs).flatMap escape ++ rest) =
      some (String.ofList (read.reverse ++ c :: joined), more) := by
  obtain ⟨fuel, rfl⟩ := Nat.exists_eq_succ_of_ne_zero (Nat.ne_of_gt (Nat.zero_lt_of_lt hfuel))
  rw [List.flatMap_cons, List.append_assoc, stringBody_escape hlow,
    h (Nat.lt_of_succ_lt_succ hfuel), List.reverse_cons, List.append_assoc, List.singleton_append]

/-- The body of a string is read back up to its closing quote. -/
theorem stringBody_flatMap_escape (cs rest : List Char) :
    ∀ {fuel : Nat} {read : List Char}, cs.length < fuel →
      stringBody fuel read (cs.flatMap escape ++ '"' :: rest) =
        some (String.ofList (read.reverse ++ joinHalves cs), rest) := by
  induction cs using joinHalves.induct with
  | case1 c d cs high low hd hc hpair ih =>
      intro fuel read hfuel
      obtain ⟨fuel, rfl⟩ := Nat.exists_eq_succ_of_ne_zero (Nat.ne_of_gt (Nat.zero_lt_of_lt hfuel))
      rw [List.flatMap_cons, List.flatMap_cons, List.append_assoc, List.append_assoc,
        stringBody_escape_pair hc hd hpair.1 hpair.2, ih (by simp at hfuel; omega), joinHalves, hc, hd]
      simp [hpair]
  | case2 c d cs high low hd hc hpair ih =>
      intro fuel read hfuel
      rw [stringBody_cons ?_ ih hfuel, joinHalves, hc, hd]
      · simp [hpair]
      · intro unit hunit hhigh
        rw [List.flatMap_cons, List.append_assoc]
        refine leavesHigh_escape (fun low' hlow' => ?_) _
        cases hc.symm.trans hunit
        cases hd.symm.trans hlow'
        omega
  | case3 c d cs hhalves ih =>
      intro fuel read hfuel
      rw [stringBody_cons ?_ ih hfuel, joinHalves]
      · split
        · next high low hc hd => exact (hhalves high low hc hd).elim
        · rfl
      · intro unit hunit _
        rw [List.flatMap_cons, List.append_assoc]
        exact leavesHigh_escape (fun low hlow => (hhalves unit low hunit hlow).elim) _
  | case4 cs hshort =>
      intro fuel read hfuel
      have hend {fuel : Nat} {read : List Char} (hfuel : 0 < fuel) :
          stringBody fuel read ('"' :: rest) = some (String.ofList (read.reverse ++ []), rest) := by
        obtain ⟨fuel, rfl⟩ := Nat.exists_eq_succ_of_ne_zero (Nat.ne_of_gt hfuel)
        simp [stringBody]
      rcases cs with _ | ⟨c, _ | ⟨d, cs⟩⟩
      · exact hend hfuel
      · exact stringBody_cons (fun _ _ _ => leavesHigh_quote rest) hend hfuel
      · exact (hshort c d cs rfl).elim

/-- The text as it is read back. -/
def rejoin (s : String) : String := String.ofList (joinHalves s.toList)

theorem length_le_length_flatMap_escape (cs : List Char) :
    cs.length ≤ (cs.flatMap escape).length := by
  induction cs with
  | nil => exact Nat.le_refl _
  | cons c cs ih =>
      have hform := escaped_escape c
      have hone : 1 ≤ (escape c).length := by
        generalize escape c = written at hform ⊢
        cases hform <;> simp [unitEscape]
      rw [List.flatMap_cons, List.length_append, List.length_cons]
      omega

theorem string_flatMap_escape (cs rest : List Char) :
    string (cs.flatMap escape ++ '"' :: rest) = some (String.ofList (joinHalves cs), rest) := by
  have hlength := length_le_length_flatMap_escape cs
  rw [string, stringBody_flatMap_escape cs rest]
  · rfl
  · simp only [List.length_append, List.length_cons]
    omega

theorem toList_quoted (s : String) :
    (quoted s).toList = '"' :: (s.toList.flatMap escape ++ ['"']) := by
  simp [quoted]

end Json

end DeclGraph
