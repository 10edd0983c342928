import DeclGraph.Proofs.Json.Number
import DeclGraph.Proofs.Json.String

/-!
Documents, read back as they were written. What JSON cannot tell apart comes back in one form: pairs
are lists, keys are strings, and knots that no loop refers to are left out.
-/

namespace DeclGraph.Json

/-- A scalar that has a form, as it is read back. -/
def scalarImage : Scalar → Datum
  | .float x => .float x.reread
  | .str s => .str (rejoin s)
  | value => .scalar value

mutual

/-- A document without obstacles, as it is read back. -/
def image : Datum → Datum
  | .scalar value => scalarImage value
  | .sequence _ items => .list (images items)
  | .map entries => .map (Entries.ofList (memberImages entries))
  | .knot _ value => image value
  | .loop .. => .null

def images : List Datum → List Datum
  | [] => []
  | item :: items => image item :: images items

def memberImages : List (Scalar × Datum) → List (Scalar × Datum)
  | [] => []
  | (key, value) :: entries => (.str (rejoin (keyString key)), image value) :: memberImages entries

end

/-! The first character -/

theorem exists_digit_of_wholeDigits {cs : List Char} (h : wholeDigits cs ≠ []) :
    ∃ c tail, cs = c :: tail ∧ c.isDigit = true := by
  unfold wholeDigits at h
  split at h
  · exact ⟨_, _, rfl, rfl⟩
  · cases cs with
    | nil => exact absurd rfl h
    | cons c tail =>
        refine ⟨c, tail, rfl, ?_⟩
        by_contra hdigit
        exact h (by simp [hdigit])

variable {fuel : Nat} {cs : List Char} {r : Datum × List Char}

theorem exists_digit {negative : Bool} (h : unsignedNumber negative cs = some r) :
    ∃ c tail, cs = c :: tail ∧ c.isDigit = true := by
  refine exists_digit_of_wholeDigits fun hwhole => ?_
  simp [unsignedNumber, hwhole] at h

theorem value_unsigned (h : unsignedNumber false cs = some r) : value (fuel + 1) cs = some r := by
  obtain ⟨c, tail, rfl, hdigit⟩ := exists_digit h
  unfold value
  split
  case h_11 => exact h
  all_goals
    next heq =>
    cases heq
    cases hdigit

theorem value_minus (h : unsignedNumber true cs = some r) :
    value (fuel + 1) ('-' :: cs) = some r := by
  obtain ⟨c, tail, rfl, hdigit⟩ := exists_digit h
  unfold value
  split
  case h_9 heq =>
    cases heq
    cases hdigit
  case h_10 heq =>
    cases heq
    exact h
  case h_11 hminus => exact absurd rfl (hminus _)
  all_goals
    next heq => cases heq

/-- Neither a blank nor the end of a list starts a value. -/
def IsStart (c : Char) : Prop := isSpace c = false ∧ c ≠ ']'

instance (c : Char) : Decidable (IsStart c) :=
  inferInstanceAs (Decidable (isSpace c = false ∧ c ≠ ']'))

theorem isStart_of_isDigit {c : Char} (h : c.isDigit = true) : IsStart c := by
  have hne (d : Char) (hd : d.isDigit = false) : c ≠ d := by
    rintro rfl
    exact Bool.false_ne_true (hd.symm.trans h)
  refine ⟨?_, hne _ rfl⟩
  simp only [isSpace, Bool.or_eq_false_iff, beq_eq_false_iff_ne]
  exact ⟨⟨⟨hne _ rfl, hne _ rfl⟩, hne _ rfl⟩, hne _ rfl⟩

theorem exists_start (h : value fuel cs = some r) : ∃ c tail, cs = c :: tail ∧ IsStart c := by
  cases fuel with
  | zero => simp [value] at h
  | succ fuel =>
      unfold value at h
      split at h
      case h_11 =>
        obtain ⟨c, tail, hcs, hdigit⟩ := exists_digit h
        exact ⟨c, tail, hcs, isStart_of_isDigit hdigit⟩
      all_goals exact ⟨_, _, rfl, by decide⟩

/-! Scalars -/

variable {rest : List Char}

theorem value_quoted (s : String) :
    value (fuel + 1) ((quoted s).toList ++ rest) = some (.str (rejoin s), rest) := by
  rw [toList_quoted, List.cons_append, List.append_assoc, List.singleton_append, value,
    string_flatMap_escape]
  rfl

theorem value_int {n : Int} (h : (toString n.natAbs).length ≤ Text.digitLimit)
    (hrest : EndsNumber rest) :
    value (fuel + 1) ((toString n).toList ++ rest) = some (.int n, rest) := by
  have hread (negative : Bool) := unsignedNumber_int negative (isWhole_toDigits n.natAbs)
    (by rwa [length_toString] at h) hrest
  rw [digitsValue_toDigits] at hread
  rw [Int.toString_eq_repr, Int.repr_eq_if]
  by_cases hn : 0 ≤ n
  · have habs : n.toNat = n.natAbs := by omega
    rw [if_pos hn, Nat.toList_repr, habs, value_unsigned (hread false), if_neg Bool.false_ne_true,
      Int.natAbs_of_nonneg hn]
  · have habs : (-n).toNat = n.natAbs := by omega
    rw [if_neg hn, String.toList_append, Nat.toList_repr, habs]
    refine (value_minus (hread true)).trans ?_
    rw [if_pos rfl, Int.ofNat_natAbs_of_nonpos (by omega), Int.neg_neg]

theorem value_float (x : Binary64) (hrest : EndsNumber rest) :
    value (fuel + 1) ((x.textAs numberWords).toList ++ rest) = some (.float x.reread, rest) := by
  cases x with
  | nan => rfl
  | infinite negative => cases negative <;> rfl
  | finite negative units =>
      have hread := unsignedNumber_unsignedText negative units hrest
      rw [Binary64.textAs, String.toList_append, String.toList_ofList]
      cases negative
      · exact value_unsigned hread
      · exact value_minus hread

theorem value_scalarText {v : Scalar} (h : scalarObstacle? v = none) (hrest : EndsNumber rest) :
    value (fuel + 1) ((scalarText v).toList ++ rest) = some (scalarImage v, rest) := by
  cases v with
  | null => rfl
  | bool b => cases b <;> rfl
  | int n => exact value_int (by simpa [scalarObstacle?, Scalar.isWritable] using h) hrest
  | float x => exact value_float x hrest
  | str s => exact value_quoted s
  | bytes _ => cases h
  | date _ => cases h
  | instant _ => cases h

/-! Lists and objects -/

theorem skipSpace_of_isStart {c : Char} {tail : List Char} (h : IsStart c) :
    skipSpace (c :: tail) = c :: tail := by
  simp [skipSpace, h.1]

theorem skipSpace_blank (cs : List Char) : skipSpace (' ' :: cs) = skipSpace cs := rfl

theorem exists_start_items {xs : List Datum} (h : items fuel cs = some (xs, rest)) :
    ∃ c tail, cs = c :: tail ∧ IsStart c := by
  cases fuel with
  | zero => simp [items] at h
  | succ fuel =>
      cases hvalue : value fuel cs with
      | none => simp [items, hvalue] at h
      | some r => exact exists_start hvalue

theorem value_items {xs : List Datum} (h : items fuel cs = some (xs, rest)) :
    value (fuel + 1) ('[' :: cs) = some (.list xs, rest) := by
  obtain ⟨c, tail, rfl, hstart⟩ := exists_start_items h
  rw [value, skipSpace_of_isStart hstart]
  split
  · next heq =>
    cases heq
    exact absurd rfl hstart.2
  · rw [h]
    rfl

theorem items_last {x : Datum} (h : value fuel cs = some (x, ']' :: rest)) :
    items (fuel + 1) cs = some ([x], rest) := by
  simp [items, h, skipSpace, isSpace]

theorem items_more {x : Datum} {xs : List Datum} {more : List Char}
    (h : value fuel cs = some (x, ',' :: ' ' :: more)) (hmore : items fuel more = some (xs, rest)) :
    items (fuel + 1) cs = some (x :: xs, rest) := by
  obtain ⟨c, tail, rfl, hstart⟩ := exists_start_items hmore
  have hcomma : skipSpace (',' :: ' ' :: c :: tail) = ',' :: ' ' :: c :: tail := rfl
  simp [items, h, hcomma, skipSpace_blank, skipSpace_of_isStart hstart, hmore]

theorem value_members {entries : List (Scalar × Datum)}
    (h : members fuel ('"' :: cs) = some (entries, rest)) :
    value (fuel + 1) ('\x7b' :: '"' :: cs) = some (.map (Entries.ofList entries), rest) := by
  have hquote : skipSpace ('"' :: cs) = '"' :: cs := rfl
  simp [value, hquote, h]

theorem members_last {key : String} {x : Datum} {after : List Char}
    (hkey : string cs = some (key, ':' :: ' ' :: after))
    (h : value fuel after = some (x, '\x7d' :: rest)) :
    members (fuel + 1) ('"' :: cs) = some ([(.str key, x)], rest) := by
  obtain ⟨c, tail, rfl, hstart⟩ := exists_start h
  have hcolon : skipSpace (':' :: ' ' :: c :: tail) = ':' :: ' ' :: c :: tail := rfl
  have hclose : skipSpace ('\x7d' :: rest) = '\x7d' :: rest := rfl
  simp [members, hkey, hcolon, skipSpace_blank, skipSpace_of_isStart hstart, h, hclose]

theorem members_more {key : String} {x : Datum} {entries : List (Scalar × Datum)}
    {after more : List Char} (hkey : string cs = some (key, ':' :: ' ' :: after))
    (h : value fuel after = some (x, ',' :: ' ' :: '"' :: more))
    (hmore : members fuel ('"' :: more) = some (entries, rest)) :
    members (fuel + 1) ('"' :: cs) = some ((.str key, x) :: entries, rest) := by
  obtain ⟨c, tail, rfl, hstart⟩ := exists_start h
  have hcolon : skipSpace (':' :: ' ' :: c :: tail) = ':' :: ' ' :: c :: tail := rfl
  have hcomma : skipSpace (',' :: ' ' :: '"' :: more) = ',' :: ' ' :: '"' :: more := rfl
  have hquote : skipSpace ('"' :: more) = '"' :: more := rfl
  simp [members, hkey, hcolon, skipSpace_blank, skipSpace_of_isStart hstart, h, hcomma, hquote,
    hmore]

/-! Documents -/

theorem endsNumber_cons {c : Char} (h : c.isDigit = false ∧ c ≠ '.' ∧ c ≠ 'e' ∧ c ≠ 'E') :
    EndsNumber (c :: rest) := by
  rintro _ ⟨⟩
  exact h

/-- A document is read back from its text, whatever comes after it. -/
def ReadsBack (d : Datum) : Prop :=
  obstacle? d = none → ∀ {fuel : Nat} {rest : List Char}, EndsNumber rest →
    (text d).length < fuel → value fuel ((text d).toList ++ rest) = some (image d, rest)

theorem readsBack_scalar (v : Scalar) : ReadsBack (.scalar v) := by
  intro h fuel rest hrest hfuel
  obtain ⟨fuel, rfl⟩ := Nat.exists_eq_succ_of_ne_zero (Nat.ne_zero_of_lt hfuel)
  exact value_scalarText h hrest

theorem items_texts {x : Datum} {xs : List Datum} (hback : ∀ y ∈ x :: xs, ReadsBack y)
    (h : itemsObstacle? (x :: xs) = none)
    (hfuel : (", ".intercalate (texts (x :: xs))).length + 1 < fuel) :
    items fuel ((", ".intercalate (texts (x :: xs))).toList ++ ']' :: rest) =
      some (images (x :: xs), rest) := by
  induction xs generalizing x fuel with
  | nil =>
      obtain ⟨fuel, rfl⟩ := Nat.exists_eq_succ_of_ne_zero (Nat.ne_zero_of_lt hfuel)
      obtain ⟨hx, -⟩ := Option.or_eq_none_iff.mp h
      rw [texts, texts, String.intercalate_singleton] at hfuel ⊢
      exact items_last (hback x List.mem_cons_self hx (endsNumber_cons (by decide)) (by omega))
  | cons y ys ih =>
      obtain ⟨fuel, rfl⟩ := Nat.exists_eq_succ_of_ne_zero (Nat.ne_zero_of_lt hfuel)
      obtain ⟨hx, hxs⟩ := Option.or_eq_none_iff.mp h
      rw [texts, texts, String.intercalate_cons_cons, ← texts] at hfuel ⊢
      have hcomma : (", ").length = 2 := rfl
      simp only [String.length_append] at hfuel
      simp only [String.toList_append, List.append_assoc]
      refine items_more (hback x List.mem_cons_self hx (endsNumber_cons (by decide)) (by omega)) ?_
      exact ih (fun z hz => hback z (.tail _ hz)) hxs (by omega)

/-- What stands before the value of a member. -/
theorem string_keyText (key : Scalar) (rest : List Char) :
    ∃ cs, (keyText key ++ ": ").toList ++ rest = '"' :: cs ∧
      string cs = some (rejoin (keyString key), ':' :: ' ' :: rest) := by
  refine ⟨(keyString key).toList.flatMap escape ++ '"' :: ':' :: ' ' :: rest, ?_, ?_⟩
  · simp [keyText, toList_quoted]
  · exact string_flatMap_escape _ _

theorem members_memberTexts {entry : Scalar × Datum} {entries : List (Scalar × Datum)}
    (hback : ∀ other ∈ entry :: entries, ReadsBack other.2)
    (h : entriesObstacle? (entry :: entries) = none) (rest : List Char)
    (hfuel : (", ".intercalate (memberTexts (entry :: entries))).length + 1 < fuel) :
    ∃ cs, (", ".intercalate (memberTexts (entry :: entries))).toList ++ '\x7d' :: rest =
        '"' :: cs ∧
      members fuel ('"' :: cs) = some (memberImages (entry :: entries), rest) := by
  obtain ⟨key, x⟩ := entry
  induction entries generalizing key x fuel with
  | nil =>
      obtain ⟨fuel, rfl⟩ := Nat.exists_eq_succ_of_ne_zero (Nat.ne_zero_of_lt hfuel)
      obtain ⟨hx, -⟩ := Option.or_eq_none_iff.mp (Option.or_eq_none_iff.mp h).2
      have hvalue : ReadsBack x := hback _ List.mem_cons_self
      obtain ⟨cs, hcs, hkey⟩ := string_keyText key ((text x).toList ++ '\x7d' :: rest)
      rw [memberTexts, memberTexts, String.intercalate_singleton, String.length_append] at hfuel
      refine ⟨cs, ?_, members_last hkey ?_⟩
      · rw [memberTexts, memberTexts, String.intercalate_singleton, String.toList_append,
          List.append_assoc, hcs]
      · exact hvalue hx (endsNumber_cons (by decide)) (by omega)
  | cons entry entries ih =>
      obtain ⟨fuel, rfl⟩ := Nat.exists_eq_succ_of_ne_zero (Nat.ne_zero_of_lt hfuel)
      obtain ⟨hx, hentries⟩ := Option.or_eq_none_iff.mp (Option.or_eq_none_iff.mp h).2
      have hvalue : ReadsBack x := hback _ List.mem_cons_self
      obtain ⟨nextKey, y⟩ := entry
      have htexts : ", ".intercalate (memberTexts ((key, x) :: (nextKey, y) :: entries)) =
          keyText key ++ ": " ++ text x ++ ", " ++
            ", ".intercalate (memberTexts ((nextKey, y) :: entries)) := by
        rw [memberTexts, memberTexts, String.intercalate_cons_cons]
      have hcomma : (", ").length = 2 := rfl
      rw [htexts] at hfuel ⊢
      simp only [String.length_append] at hfuel
      have hshort : (", ".intercalate (memberTexts ((nextKey, y) :: entries))).length + 1 < fuel := by
        omega
      obtain ⟨more, hmore, hread⟩ := ih nextKey y
        (fun other hother => hback other (.tail _ hother)) hentries hshort
      obtain ⟨cs, hcs, hkey⟩ := string_keyText key ((text x).toList ++ ',' :: ' ' :: '"' :: more)
      refine ⟨cs, ?_, members_more hkey ?_ hread⟩
      · rw [← hcs, ← hmore]
        simp
      · exact hvalue hx (endsNumber_cons (by decide)) (by omega)

theorem readsBack_sequence (form : SequenceForm) {xs : List Datum} (hback : ∀ x ∈ xs, ReadsBack x) :
    ReadsBack (.sequence form xs) := by
  intro h fuel rest hrest hfuel
  have hxs : itemsObstacle? xs = none := by cases form <;> first | exact h | cases h
  obtain ⟨fuel, rfl⟩ := Nat.exists_eq_succ_of_ne_zero (Nat.ne_zero_of_lt hfuel)
  cases xs with
  | nil => cases form <;> rfl
  | cons x xs =>
      rw [text, String.toList_append, String.toList_append, List.append_assoc, List.append_assoc]
      simp only [text, String.length_append] at hfuel
      have hopen : ("[").length = 1 := rfl
      have hclose : ("]").length = 1 := rfl
      exact value_items (items_texts hback hxs (by omega))

theorem readsBack_map {entries : List (Scalar × Datum)}
    (hback : ∀ entry ∈ entries, ReadsBack entry.2) : ReadsBack (.map entries) := by
  intro h fuel rest hrest hfuel
  obtain ⟨fuel, rfl⟩ := Nat.exists_eq_succ_of_ne_zero (Nat.ne_zero_of_lt hfuel)
  cases entries with
  | nil => rfl
  | cons entry entries =>
      simp only [text, String.length_append] at hfuel
      have hopen : ("\x7b").length = 1 := rfl
      have hclose : ("\x7d").length = 1 := rfl
      have hshort : (", ".intercalate (memberTexts (entry :: entries))).length + 1 < fuel := by omega
      obtain ⟨cs, hcs, hread⟩ := members_memberTexts hback h rest hshort
      rw [text, String.toList_append, String.toList_append, List.append_assoc, List.append_assoc]
      refine (congrArg (fun cs => value _ ('\x7b' :: cs)) hcs).trans ?_
      exact value_members hread

mutual

theorem readsBack : ∀ d : Datum, ReadsBack d
  | .scalar v => readsBack_scalar v
  | .sequence form items => readsBack_sequence form (readsBack_items items)
  | .map entries => readsBack_map (readsBack_entries entries)
  | .knot _ value => readsBack value
  | .loop .. => nofun

theorem readsBack_items : ∀ items : List Datum, ∀ x ∈ items, ReadsBack x
  | [] => List.forall_mem_nil _
  | item :: items => List.forall_mem_cons.mpr ⟨readsBack item, readsBack_items items⟩

theorem readsBack_entries : ∀ entries : List (Scalar × Datum), ∀ entry ∈ entries, ReadsBack entry.2
  | [] => List.forall_mem_nil _
  | (_, value) :: entries => List.forall_mem_cons.mpr ⟨readsBack value, readsBack_entries entries⟩

end

/-- The text of a document holds all of it that JSON can hold. -/
theorem read?_text {d : Datum} (h : obstacle? d = none) : read? (text d) = some (image d) := by
  have hend : EndsNumber [] := nofun
  have hlength : (text d).length < (text d).toList.length + 1 := by
    rw [String.length_toList]
    exact Nat.lt_succ_self _
  have hread := readsBack d h hend hlength
  rw [List.append_nil] at hread
  obtain ⟨c, tail, hcs, hstart⟩ := exists_start hread
  have hstop : skipSpace (text d).toList = (text d).toList := by
    rw [hcs, skipSpace_of_isStart hstart]
  have hempty : skipSpace [] = [] := rfl
  simp [read?, hstop, hread, hempty]

end DeclGraph.Json
