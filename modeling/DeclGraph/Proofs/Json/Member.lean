import DeclGraph.Proofs.Datum.Entries
import DeclGraph.Proofs.Json.RoundTrip

/-!
Members of an object that has been written and read back, by their names.
-/

namespace DeclGraph

namespace Text

/-- All characters lie below those that take two halves, and below those that stand for one. -/
def IsBasic (cs : List Char) : Prop := ∀ c ∈ cs, c.toNat < 0x10000

variable {cs ds : List Char}

theorem halfUnit?_of_lt {c : Char} (h : c.toNat < 0x10000) : halfUnit? c = none := by
  have hbase : halfBase = 0x10F000 := rfl
  rw [halfUnit?, if_neg (by omega)]

theorem le_toNat_pair {high low : Nat} (hhigh : high < 0xDC00) (hlow : low < 0xE000) :
    0x10000 ≤ (Char.ofNat (0x10000 + (high - 0xD800) * 0x400 + (low - 0xDC00))).toNat := by
  have hvalid : (0x10000 + (high - 0xD800) * 0x400 + (low - 0xDC00)).isValidChar :=
    .inr ⟨by omega, by omega⟩
  have hnat : (Char.ofNat (0x10000 + (high - 0xD800) * 0x400 + (low - 0xDC00))).toNat =
      0x10000 + (high - 0xD800) * 0x400 + (low - 0xDC00) := by
    rw [Char.ofNat, dif_pos hvalid]
    rfl
  omega

theorem joinHalves_cons_eq_iff {c d : Char}
    (hstep : joinHalves (c :: d :: cs) = c :: joinHalves (d :: cs))
    (ih : ∀ {ds : List Char}, IsBasic ds → (joinHalves (d :: cs) = ds ↔ d :: cs = ds))
    (h : IsBasic ds) : joinHalves (c :: d :: cs) = ds ↔ c :: d :: cs = ds := by
  rw [hstep]
  cases ds with
  | nil => simp
  | cons e ds =>
      have htail : IsBasic ds := (List.forall_mem_cons.mp h).2
      rw [List.cons_eq_cons, List.cons_eq_cons, ih htail]

/-- Joining halves never gives a text without large characters, but for that text itself. -/
theorem joinHalves_eq_iff (h : IsBasic ds) : joinHalves cs = ds ↔ cs = ds := by
  induction cs using joinHalves.induct generalizing ds with
  | case1 c d cs high low hd hc hpair ih =>
      rw [joinHalves, hc, hd]
      simp only [if_pos hpair]
      constructor
      · rintro rfl
        have hlow := (Json.bounds_of_halfUnit? hd).2
        exact absurd (h _ List.mem_cons_self) (Nat.not_lt.mpr (le_toNat_pair hpair.1 hlow))
      · rintro rfl
        cases hc.symm.trans (halfUnit?_of_lt (h _ List.mem_cons_self))
  | case2 c d cs high low hd hc hpair ih =>
      refine joinHalves_cons_eq_iff ?_ ih h
      simp [joinHalves, hc, hd, hpair]
  | case3 c d cs hhalves ih =>
      refine joinHalves_cons_eq_iff ?_ ih h
      rw [joinHalves]
      split
      · next high low hc hd => exact (hhalves high low hc hd).elim
      · rfl
  | case4 cs hshort =>
      rcases cs with _ | ⟨c, _ | ⟨d, cs⟩⟩
      · rfl
      · rfl
      · exact (hshort c d cs rfl).elim

end Text

namespace Json

theorem rejoin_eq_iff {s name : String} (h : Text.IsBasic name.toList) :
    rejoin s = name ↔ s = name := by
  rw [← String.toList_inj, rejoin, String.toList_ofList, Text.joinHalves_eq_iff h, String.toList_inj]

/-- A value of a log record as it is read back from JSON. -/
def valueImage (value : Datum) : Datum := image (spellOut value)

theorem memberImages_spellOutEntries (entries : Entries) :
    memberImages (spellOutEntries entries) =
      entries.map fun entry => (.str (rejoin (keyString entry.1)), valueImage entry.2) := by
  induction entries with
  | nil => rfl
  | cons entry entries ih => rw [spellOutEntries, memberImages, ih, List.map_cons, valueImage]

variable {entries : Entries}

/-- A member that is read back by its name has the value that was written under that name. -/
theorem get?_memberImages (hdistinct : entries.Distinct)
    (hnames : ∀ entry ∈ entries, ∃ name, entry.1 = .str name) {name : String}
    (hbasic : Text.IsBasic name.toList) :
    (Entries.ofList (memberImages (spellOutEntries entries))).get? (.str name) =
      (entries.get? (.str name)).map valueImage := by
  have hkeys : ∀ entry ∈ entries.reverse,
      Scalar.str (rejoin (keyString entry.1)) = .str name ↔ entry.1 = .str name := by
    intro entry hentry
    obtain ⟨other, hother⟩ := hnames entry (List.mem_reverse.mp hentry)
    rw [hother, Scalar.str.injEq, Scalar.str.injEq, keyString, rejoin_eq_iff hbasic]
  rw [memberImages_spellOutEntries, Entries.get?_ofList, ← List.map_reverse,
    Entries.get?_map (fun key => .str (rejoin (keyString key))) valueImage hkeys,
    hdistinct.get?_reverse]

end Json

end DeclGraph
