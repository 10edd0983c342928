import DeclGraph.Config.Check
import DeclGraph.Proofs.Datum.Place
import DeclGraph.Proofs.Refusal

/-!
The form of settings as data: what belongs at each place, in which order places are checked, and
everything that a check finds wrong with a document, of which it reports the first.
-/

namespace DeclGraph

namespace Rejection

/-- The rejection of a document, given that of a part. -/
def under (step : Step) : Rejection → Rejection
  | invalid e => invalid { e with location := step :: e.location }
  | unknownHome => unknownHome

/-- Of several rejections the one that is reported. -/
def first (rejections : List Rejection) : Option Rejection :=
  if unknownHome ∈ rejections then some unknownHome else rejections.head?

variable {rejections : List Rejection} {e : Invalid}

theorem first_eq_none_iff : first rejections = none ↔ rejections = [] := by
  unfold first
  cases rejections with
  | nil => simp
  | cons rejection rest => split <;> simp

theorem first_eq_invalid_iff : first rejections = some (invalid e) ↔
    unknownHome ∉ rejections ∧ ∃ rest, rejections = invalid e :: rest := by
  unfold first
  by_cases h : unknownHome ∈ rejections
  · simp [h]
  · cases rejections with
    | nil => simp
    | cons rejection rest => simp [h]

theorem under_eq_invalid_iff {step : Step} {rejection : Rejection} :
    rejection.under step = invalid e ↔
      ∃ part, rejection = invalid part ∧ e = { part with location := step :: part.location } := by
  cases rejection <;> simp [under, eq_comm]

end Rejection

namespace Config

/-- What a single value may be. -/
inductive Leaf where
  | level
  | outputLevel
  | format
  | destination
  | flag
deriving DecidableEq, Repr

def Leaf.check? (homes : Homes) : Leaf → Datum → Option Rejection
  | level, d => refusal? (checkLevel d)
  | outputLevel, d => refusal? (checkOutputLevel d)
  | format, d => refusal? (checkFormat d)
  | destination, d => refusal? (checkDestination homes d)
  | flag, d => refusal? (checkBoolean d)

/-- What has parts: a mapping with certain keys, in the order in which they are checked, or a
list. -/
inductive Container where
  | mapping (name : String) (keys : List String) (nodup : keys.Nodup)
  | list

/-- The form of a document. -/
inductive Form where
  | value (leaf : Leaf)
  | parts (container : Container) (form : Step → Form)

namespace Container

/-- The steps to the parts that are checked, if a document is such a container at all. -/
def steps? : Container → Datum → Option (List Step)
  | mapping _ keys _, d => d.entries?.map fun _ => keys.map .key
  | list, d => d.items?.map fun items => (List.range items.length).map .index

def mismatch : Container → InvalidReason
  | mapping name _ _ => .notMapping name
  | list => .notList

/-- One step is checked before another. -/
def Before : Container → Step → Step → Prop
  | mapping _ keys _, .key first, .key second => keys.idxOf first < keys.idxOf second
  | list, .index i, .index j => i < j
  | _, _, _ => False

end Container

namespace Form

/-- All that is wrong with a document, in the order in which it is checked. -/
def rejections (homes : Homes) : Form → Datum → List Rejection
  | value leaf, d => (leaf.check? homes d).toList
  | parts container form, d =>
    match container.steps? d with
    | some steps => steps.flatMap fun step =>
        (d.part? step).elim [] fun part => ((form step).rejections homes part).map (.under step)
    | none => [.invalid ⟨[], d, container.mismatch⟩]

/-- The form of what stands at a location. -/
def at? : Form → Location → Option Form
  | form, [] => some form
  | parts _ form, step :: location => (form step).at? location
  | value _, _ :: _ => none

/-- One location is checked before another: where they part, its step comes first. -/
def Precedes : Form → Location → Location → Prop
  | parts container form, step :: first, other :: second =>
    container.Before step other ∨ step = other ∧ (form step).Precedes first second
  | _, _, _ => False

end Form

variable {homes : Homes} {d other new : Datum} {e : Invalid} {rest : List Rejection}

/-! Single values -/

/-- Nothing but the whole value is reported. -/
def IsOwn {α : Type} (d : Datum) (x : Checked α) : Prop :=
  ∀ e, x = .error (.invalid e) → e.location = [] ∧ e.value = d

section IsOwn

variable {α : Type}

theorem isOwn_ok (a : α) : IsOwn d (.ok a) := nofun

theorem isOwn_unknownHome : IsOwn d (.error .unknownHome : Checked α) := nofun

theorem isOwn_reject (reason : InvalidReason) : IsOwn d (Checked.reject d reason : Checked α) := by
  rintro e ⟨⟩
  exact ⟨rfl, rfl⟩

theorem isOwn_whole {text : String} {check : String → Checked α} (h : IsOwn d (check text)) :
    IsOwn d (whole d text check) := by
  unfold whole
  split
  · exact isOwn_reject _
  · exact h

theorem isOwn_checkLevel : IsOwn d (checkLevel d) := by
  unfold checkLevel
  split
  · apply isOwn_whole
    split
    · exact isOwn_ok _
    · exact isOwn_reject _
  · exact isOwn_reject _

theorem isOwn_checkOutputLevel : IsOwn d (checkOutputLevel d) := by
  unfold checkOutputLevel
  split
  · exact isOwn_ok _
  · intro e h
    have hlevel : refusal? (some <$> checkLevel d) = some (.invalid e) :=
      refusal?_eq_some_iff.mpr h
    rw [refusal?_map] at hlevel
    exact isOwn_checkLevel e (refusal?_eq_some_iff.mp hlevel)

theorem isOwn_checkFormat : IsOwn d (checkFormat d) := by
  unfold checkFormat
  split
  · apply isOwn_whole
    split
    · exact isOwn_ok _
    · exact isOwn_reject _
  · exact isOwn_reject _

theorem isOwn_checkDestinationText {text : String} :
    IsOwn d (checkDestinationText homes d text) := by
  unfold checkDestinationText
  split
  · exact isOwn_ok _
  · exact isOwn_reject _
  · exact isOwn_reject _
  · exact isOwn_unknownHome

theorem isOwn_checkDestination : IsOwn d (checkDestination homes d) := by
  unfold checkDestination
  split
  · exact isOwn_checkDestinationText
  · split
    · exact isOwn_checkDestinationText
    · exact isOwn_reject _
  · exact isOwn_reject _

theorem isOwn_booleanOfWord {word : String} : IsOwn d (booleanOfWord d word) := by
  unfold booleanOfWord
  split
  · exact isOwn_ok _
  · exact isOwn_reject _

theorem isOwn_booleanOfInt {least n : Int} : IsOwn d (booleanOfInt d least n) := by
  unfold booleanOfInt
  repeat' split
  · exact isOwn_ok _
  · exact isOwn_ok _
  · exact isOwn_reject _
  · exact isOwn_reject _

theorem isOwn_checkBoolean : IsOwn d (checkBoolean d) := by
  unfold checkBoolean
  split
  · exact isOwn_ok _
  · exact isOwn_whole isOwn_booleanOfWord
  · split
    · exact isOwn_booleanOfWord
    · exact isOwn_reject _
  · exact isOwn_booleanOfInt
  · split
    · exact isOwn_booleanOfInt
    · exact isOwn_reject _
  · exact isOwn_reject _

end IsOwn

theorem Leaf.own {leaf : Leaf} (h : leaf.check? homes d = some (.invalid e)) :
    e.location = [] ∧ e.value = d := by
  cases leaf with
  | level => exact isOwn_checkLevel e (refusal?_eq_some_iff.mp h)
  | outputLevel => exact isOwn_checkOutputLevel e (refusal?_eq_some_iff.mp h)
  | format => exact isOwn_checkFormat e (refusal?_eq_some_iff.mp h)
  | destination => exact isOwn_checkDestination e (refusal?_eq_some_iff.mp h)
  | flag => exact isOwn_checkBoolean e (refusal?_eq_some_iff.mp h)

/-! Steps -/

namespace Container

variable {container : Container} {step : Step} {steps before after : List Step} {f : Datum → Datum}

theorem Before.ne {first second : Step} (h : container.Before first second) : first ≠ second := by
  rintro rfl
  cases container <;> cases first <;> simp [Before] at h

theorem pairwise_steps (h : container.steps? d = some steps) : steps.Pairwise container.Before := by
  cases container with
  | mapping name keys nodup =>
      obtain ⟨entries, -, rfl⟩ := Option.map_eq_some_iff.mp h
      rw [List.pairwise_map, List.pairwise_iff_getElem]
      intro i j hi hj hij
      show keys.idxOf keys[i] < keys.idxOf keys[j]
      rwa [nodup.idxOf_getElem, nodup.idxOf_getElem]
  | list =>
      obtain ⟨items, -, rfl⟩ := Option.map_eq_some_iff.mp h
      rw [List.pairwise_map]
      exact List.pairwise_lt_range

theorem steps?_change (d : Datum) (step : Step) (f : Datum → Datum) :
    container.steps? (d.change step f) = container.steps? d := by
  cases container with
  | mapping name keys nodup =>
      cases step with
      | key key =>
          rw [steps?, steps?, Datum.entries?_change_key]
          cases d.entries? <;> rfl
      | index i => rw [steps?, steps?, Datum.entries?_change_index]
  | list =>
      cases step with
      | key key => rw [steps?, steps?, Datum.items?_change_key]
      | index i =>
          rw [steps?, steps?, Datum.items?_change_index]
          cases d.items? <;> simp

theorem exists_key_of_steps? {name : String} {keys : List String} {nodup : keys.Nodup}
    (h : (mapping name keys nodup).steps? d = some (before ++ step :: after)) :
    ∃ key ∈ keys, step = .key key := by
  obtain ⟨entries, -, hsteps⟩ := Option.map_eq_some_iff.mp h
  have hmem : step ∈ keys.map Step.key := by
    rw [hsteps]
    exact List.mem_append_right _ List.mem_cons_self
  obtain ⟨key, hkey, rfl⟩ := List.mem_map.mp hmem
  exact ⟨key, hkey, rfl⟩

theorem exists_index_of_steps? (h : list.steps? d = some (before ++ step :: after)) :
    ∃ i, step = .index i := by
  obtain ⟨items, -, hsteps⟩ := Option.map_eq_some_iff.mp h
  have hmem : step ∈ (List.range items.length).map Step.index := by
    rw [hsteps]
    exact List.mem_append_right _ List.mem_cons_self
  obtain ⟨i, -, rfl⟩ := List.mem_map.mp hmem
  exact ⟨i, rfl⟩

/-- Another container that has a part is checked in the same way up to that part. -/
theorem steps?_of_part? (h : container.steps? d = some (before ++ step :: after)) {part : Datum}
    (hpart : other.part? step = some part) :
    ∃ after', container.steps? other = some (before ++ step :: after') := by
  cases container with
  | mapping name keys nodup =>
      obtain ⟨key, -, rfl⟩ := exists_key_of_steps? h
      obtain ⟨entries, -, hsteps⟩ := Option.map_eq_some_iff.mp h
      obtain ⟨otherEntries, hother, -⟩ := Option.bind_eq_some_iff.mp hpart
      refine ⟨after, ?_⟩
      rw [steps?, hother, ← hsteps]
      rfl
  | list =>
      obtain ⟨items, -, hsteps⟩ := Option.map_eq_some_iff.mp h
      obtain ⟨first, second, hrange, rfl, hsecond⟩ := List.map_eq_append_iff.mp hsteps
      obtain ⟨i, rest, rfl, rfl, rfl⟩ := List.map_eq_cons_iff.mp hsecond
      rw [List.range_eq_range', List.range'_eq_append_iff] at hrange
      obtain ⟨k, -, rfl, hrest⟩ := hrange
      obtain ⟨hk, -, -⟩ := List.range'_eq_cons_iff.mp hrest.symm
      rw [Nat.mul_one, Nat.zero_add] at hk
      subst hk
      obtain ⟨otherItems, hother, hget⟩ := Option.bind_eq_some_iff.mp hpart
      obtain ⟨hlt, -⟩ := List.getElem?_eq_some_iff.mp hget
      have hsplit : List.range otherItems.length = List.range' 0 k ++
          k :: List.range' (k + 1) (otherItems.length - k - 1) := by
        rw [List.range_eq_range', List.range'_eq_append_iff]
        refine ⟨k, Nat.le_of_lt hlt, rfl, Eq.symm ?_⟩
        rw [List.range'_eq_cons_iff, Nat.mul_one, Nat.zero_add]
        exact ⟨rfl, Nat.sub_pos_of_lt hlt, rfl⟩
      refine ⟨(List.range' (k + 1) (otherItems.length - k - 1)).map .index, ?_⟩
      rw [steps?, hother, Option.map_some, hsplit, List.map_append, List.map_cons]

end Container

/-! What is wrong with parts -/

theorem exists_of_flatMap_eq_cons {α β : Type} {f : α → List β} {as : List α} {b : β} {bs : List β}
    (h : as.flatMap f = b :: bs) :
    ∃ before a after more, as = before ++ a :: after ∧ (∀ x ∈ before, f x = []) ∧
      f a = b :: more ∧ bs = more ++ after.flatMap f := by
  induction as with
  | nil => cases h
  | cons a as ih =>
      rw [List.flatMap_cons] at h
      cases ha : f a with
      | nil =>
          rw [ha, List.nil_append] at h
          obtain ⟨before, x, after, more, rfl, hbefore, hx, hbs⟩ := ih h
          exact ⟨a :: before, x, after, more, rfl, List.forall_mem_cons.mpr ⟨ha, hbefore⟩, hx, hbs⟩
      | cons first more =>
          rw [ha] at h
          cases h
          exact ⟨[], a, as, more, rfl, by simp, ha, rfl⟩

namespace Form

variable {container : Container} {form : Step → Form} {whole : Form} {steps : List Step}

/-- All that is wrong with one part of a document. -/
def partRejections (homes : Homes) (form : Step → Form) (d : Datum) (step : Step) :
    List Rejection :=
  (d.part? step).elim [] fun part => ((form step).rejections homes part).map (.under step)

theorem rejections_parts (h : container.steps? d = some steps) :
    (parts container form).rejections homes d =
      steps.flatMap (partRejections homes form d) := by
  rw [rejections, h]
  rfl

theorem rejections_mismatch (h : container.steps? d = none) :
    (parts container form).rejections homes d = [.invalid ⟨[], d, container.mismatch⟩] := by
  rw [rejections, h]

theorem rejections_value_eq_cons {leaf : Leaf}
    (h : (value leaf).rejections homes d = .invalid e :: rest) :
    e.location = [] ∧ e.value = d ∧ rest = [] := by
  rw [rejections] at h
  cases hcheck : leaf.check? homes d with
  | none =>
      rw [hcheck] at h
      cases h
  | some rejection =>
      rw [hcheck] at h
      cases h
      obtain ⟨hlocation, hvalue⟩ := Leaf.own hcheck
      exact ⟨hlocation, hvalue, rfl⟩

/-- The first rejection of a document with parts is that of its first part with one. -/
theorem rejections_parts_eq_cons
    (h : (parts container form).rejections homes d = .invalid e :: rest) :
    (container.steps? d = none ∧ e = ⟨[], d, container.mismatch⟩ ∧ rest = []) ∨
      ∃ before step after part inner more,
        container.steps? d = some (before ++ step :: after) ∧
        (∀ earlier ∈ before, partRejections homes form d earlier = []) ∧
        d.part? step = some part ∧ (form step).rejections homes part = .invalid inner :: more ∧
        e = { inner with location := step :: inner.location } ∧
        rest = more.map (.under step) ++ after.flatMap (partRejections homes form d) := by
  cases hsteps : container.steps? d with
  | none =>
      rw [rejections_mismatch hsteps] at h
      cases h
      exact .inl ⟨rfl, rfl, rfl⟩
  | some steps =>
      rw [rejections_parts hsteps] at h
      obtain ⟨before, step, after, more, rfl, hbefore, hstep, rfl⟩ := exists_of_flatMap_eq_cons h
      rw [partRejections] at hstep
      cases hpart : d.part? step with
      | none =>
          rw [hpart] at hstep
          cases hstep
      | some part =>
          rw [hpart, Option.elim_some] at hstep
          obtain ⟨first, others, hpartRejections, hfirst, rfl⟩ := List.map_eq_cons_iff.mp hstep
          obtain ⟨inner, rfl, he⟩ := Rejection.under_eq_invalid_iff.mp hfirst
          exact .inr ⟨before, step, after, part, inner, others, rfl, hbefore, hpart,
            hpartRejections, he, rfl⟩

/-- What is reported stands where it is said to stand. -/
theorem at?_of_rejections (h : whole.rejections homes d = .invalid e :: rest) :
    d.at? e.location = some e.value := by
  induction whole generalizing d e rest with
  | value leaf =>
      obtain ⟨hlocation, hvalue, -⟩ := rejections_value_eq_cons h
      rw [hlocation, hvalue, Datum.at?_nil]
  | parts container form ih =>
      rcases rejections_parts_eq_cons h with ⟨-, rfl, -⟩ | ⟨_, step, _, part, inner, _, -, -, hpart,
        hinner, rfl, -⟩
      · rfl
      · rw [Datum.at?_cons, hpart]
        exact ih step hinner

theorem exists_under_of_mem_partRejections {step : Step} {rejection : Rejection}
    (h : rejection ∈ partRejections homes form d step) (he : rejection = .invalid e) :
    ∃ inner : Invalid, e = { inner with location := step :: inner.location } := by
  rw [partRejections] at h
  cases hpart : d.part? step with
  | none =>
      rw [hpart] at h
      cases h
  | some part =>
      rw [hpart, Option.elim_some] at h
      obtain ⟨first, -, hfirst⟩ := List.mem_map.mp h
      obtain ⟨inner, -, hinner⟩ := Rejection.under_eq_invalid_iff.mp (hfirst.trans he)
      exact ⟨inner, hinner⟩

theorem partRejections_change {step earlier : Step} {f : Datum → Datum} (h : earlier ≠ step) :
    partRejections homes form (d.change step f) earlier = partRejections homes form d earlier := by
  rw [partRejections, Datum.part?_change, if_neg h, partRejections]

/-- Once the first rejected value is replaced by one that passes, the others are rejected as they
were, and nothing else is. -/
theorem rejections_put (h : whole.rejections homes d = .invalid e :: rest) {here : Form}
    (hhere : whole.at? e.location = some here) (hnew : here.rejections homes new = []) :
    whole.rejections homes (d.put e.location new) = rest := by
  induction whole generalizing d e rest with
  | value leaf =>
      obtain ⟨hlocation, -, rfl⟩ := rejections_value_eq_cons h
      rw [hlocation] at hhere ⊢
      cases hhere
      exact hnew
  | parts container form ih =>
      rcases rejections_parts_eq_cons h with ⟨-, rfl, rfl⟩ | ⟨before, step, after, part, inner,
        more, hsteps, hbefore, hpart, hinner, rfl, rfl⟩
      · cases hhere
        exact hnew
      · have horder := Container.pairwise_steps hsteps
        rw [List.pairwise_append, List.pairwise_cons] at horder
        obtain ⟨-, ⟨hafter, -⟩, hcross⟩ := horder
        have hsteps' : container.steps? (d.put (step :: inner.location) new) =
            some (before ++ step :: after) := by
          rw [Datum.put, Container.steps?_change, hsteps]
        have hhead : before.flatMap
            (partRejections homes form (d.put (step :: inner.location) new)) = [] := by
          rw [List.flatMap_eq_nil_iff]
          intro earlier hearlier
          rw [Datum.put, partRejections_change (hcross _ hearlier _ List.mem_cons_self).ne]
          exact hbefore earlier hearlier
        have hstep : partRejections homes form (d.put (step :: inner.location) new) step =
            more.map (.under step) := by
          rw [partRejections, Datum.put, Datum.part?_change, if_pos rfl, hpart, Option.map_some,
            Option.elim_some, ih step hinner hhere]
        have htail : after.flatMap
            (partRejections homes form (d.put (step :: inner.location) new)) =
              after.flatMap (partRejections homes form d) := by
          refine List.flatMap_congr fun later hlater => ?_
          rw [Datum.put, partRejections_change (hafter later hlater).ne.symm]
        rw [rejections_parts hsteps', List.flatMap_append, List.flatMap_cons, hhead, hstep, htail,
          List.nil_append]

/-- Locations are rejected in order. -/
theorem pairwise_rejections (whole : Form) (homes : Homes) (d : Datum) :
    (whole.rejections homes d).Pairwise fun first second => ∀ e f,
      first = .invalid e → second = .invalid f → whole.Precedes e.location f.location := by
  induction whole generalizing d with
  | value leaf =>
      rw [rejections]
      cases leaf.check? homes d with
      | none => exact .nil
      | some rejection => exact List.pairwise_singleton _ _
  | parts container form ih =>
      cases hsteps : container.steps? d with
      | none =>
          rw [rejections_mismatch hsteps]
          exact List.pairwise_singleton _ _
      | some steps =>
          rw [rejections_parts hsteps, List.pairwise_flatMap]
          constructor
          · intro step _
            rw [partRejections]
            cases d.part? step with
            | none => exact .nil
            | some part =>
                rw [Option.elim_some, List.pairwise_map]
                refine (ih step part).imp ?_
                intro first second horder e f he hf
                obtain ⟨inner, rfl, rfl⟩ := Rejection.under_eq_invalid_iff.mp he
                obtain ⟨inner', rfl, rfl⟩ := Rejection.under_eq_invalid_iff.mp hf
                exact .inr ⟨rfl, horder inner inner' rfl rfl⟩
          · refine (Container.pairwise_steps hsteps).imp ?_
            intro step later hlater first hfirst second hsecond e f he hf
            obtain ⟨inner, rfl⟩ := exists_under_of_mem_partRejections hfirst he
            obtain ⟨inner', rfl⟩ := exists_under_of_mem_partRejections hsecond hf
            exact .inl hlater

/-- The first rejection is a matter of what stands at its place and before. -/
theorem rejections_of_agree (h : whole.rejections homes d = .invalid e :: rest)
    (hhere : other.at? e.location = d.at? e.location)
    (hbefore : ∀ location, whole.Precedes location e.location →
      other.at? location = d.at? location) :
    ∃ others, whole.rejections homes other = .invalid e :: others := by
  induction whole generalizing d other e rest with
  | value leaf =>
      obtain ⟨hlocation, -, -⟩ := rejections_value_eq_cons h
      rw [hlocation] at hhere
      cases hhere
      exact ⟨rest, h⟩
  | parts container form ih =>
      rcases rejections_parts_eq_cons h with ⟨-, rfl, -⟩ | ⟨before, step, after, part, inner, more,
        hsteps, hbeforeNil, hpart, hinner, rfl, -⟩
      · cases hhere
        exact ⟨rest, h⟩
      · have hvalue := at?_of_rejections hinner
        rw [Datum.at?_cons, Datum.at?_cons, hpart, Option.bind_some, hvalue] at hhere
        obtain ⟨part', hpart', hhere'⟩ := Option.bind_eq_some_iff.mp hhere
        obtain ⟨after', hsteps'⟩ := Container.steps?_of_part? hsteps hpart'
        have horder := Container.pairwise_steps hsteps
        rw [List.pairwise_append] at horder
        obtain ⟨others, hothers⟩ := ih step hinner (hhere'.trans hvalue.symm) (by
          intro location hlocation
          have hagree := hbefore (step :: location) (.inr ⟨rfl, hlocation⟩)
          rw [Datum.at?_cons, Datum.at?_cons, hpart, hpart'] at hagree
          exact hagree)
        have hhead : before.flatMap (partRejections homes form other) = [] := by
          rw [List.flatMap_eq_nil_iff]
          intro earlier hearlier
          have hstep := horder.2.2 _ hearlier _ List.mem_cons_self
          have hagree := hbefore [earlier] (.inl hstep)
          rw [Datum.at?_singleton, Datum.at?_singleton] at hagree
          rw [partRejections, hagree]
          exact hbeforeNil earlier hearlier
        refine ⟨others.map (.under step) ++ after'.flatMap (partRejections homes form other), ?_⟩
        rw [rejections_parts hsteps', List.flatMap_append, List.flatMap_cons, hhead, partRejections,
          hpart', Option.elim_some, hothers]
        rfl

end Form

end Config

end DeclGraph
