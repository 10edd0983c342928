import Mathlib.Data.List.Lex
import Mathlib.Logic.Relation
import Mathlib.Order.Bounds.Basic
import DeclGraph.Proofs.TypeTable.Reference

/-!
Routes through a type table. A route is named by the reference positions that it takes, so that
the routes from one slot are ordered as lists of numbers are.
-/

namespace DeclGraph

/-! Lists that part at a first difference -/

/-- The lists agree up to a position where the first holds the smaller number. Unlike `<`, this
is kept when either list is continued. -/
def Forks (xs ys : List Nat) : Prop :=
  ∃ stem x y xs' ys', x < y ∧ xs = stem ++ x :: xs' ∧ ys = stem ++ y :: ys'

theorem Forks.append {xs ys : List Nat} (h : Forks xs ys) (us vs : List Nat) :
    Forks (xs ++ us) (ys ++ vs) := by
  obtain ⟨stem, x, y, xs', ys', hlt, rfl, rfl⟩ := h
  exact ⟨stem, x, y, xs' ++ us, ys' ++ vs, hlt, by simp, by simp⟩

theorem Forks.lt {xs ys : List Nat} (h : Forks xs ys) : xs < ys := by
  obtain ⟨stem, x, y, xs', ys', hlt, rfl, rfl⟩ := h
  exact List.append_left_lt (List.Lex.rel hlt)

theorem forks_of_lt {xs ys : List Nat} (hlt : xs < ys) (hpre : ¬ xs <+: ys) : Forks xs ys := by
  induction xs generalizing ys with
  | nil => exact absurd List.nil_prefix hpre
  | cons x xs ih =>
      rcases ys with _ | ⟨y, ys⟩
      · cases hlt
      · rcases hlt with _ | hxy | hrest
        · exact ⟨[], x, y, xs, ys, hxy, rfl, rfl⟩
        · have hpre' : ¬ xs <+: ys := fun h => hpre ((List.prefix_cons_inj x).mpr h)
          obtain ⟨stem, u, v, us, vs, huv, rfl, rfl⟩ := ih hrest hpre'
          exact ⟨x :: stem, u, v, us, vs, huv, rfl, rfl⟩

theorem le_of_isPrefix {xs ys : List Nat} (h : xs <+: ys) : xs ≤ ys := by
  obtain ⟨rest, rfl⟩ := h
  exact not_lt.mp (List.le_append_left (α := Nat))

namespace TypeTable

def Leads (table : TypeTable) (slot next : Nat) : Prop :=
  ∃ position, table.Refers slot position (next : Int)

/-- Slots that references lead to, the start itself included. -/
def Reachable (table : TypeTable) : Nat → Nat → Prop := Relation.ReflTransGen table.Leads

/-- A route along references: the positions it takes and the slots it meets, from the first to the
last. -/
inductive Route (table : TypeTable) : Nat → List Nat → List Nat → Nat → Prop where
  | stay (slot : Nat) : Route table slot [] [slot] slot
  | step {slot position next last : Nat} {path slots : List Nat}
      (refers : table.Refers slot position (next : Int)) (rest : Route table next path slots last) :
      Route table slot (position :: path) (slot :: slots) last

/-- The positions of those routes from `start` to `slot` that meet no slot twice. -/
def simplePaths (table : TypeTable) (start slot : Nat) : Set (List Nat) :=
  {path | ∃ slots, Route table start path slots slot ∧ slots.Nodup}

variable {table : TypeTable}

namespace Route

variable {start slot last : Nat} {path slots : List Nat}

theorem last_mem (h : Route table start path slots last) : last ∈ slots := by
  induction h with
  | stay => simp
  | step _ _ ih => exact List.mem_cons_of_mem _ ih

theorem reachable (h : Route table start path slots last) : table.Reachable start last := by
  induction h with
  | stay => exact .refl
  | step refers _ ih => exact .head ⟨_, refers⟩ ih

theorem isStruct_first (h : Route table start path slots last) (hlast : table.IsStruct last) :
    table.IsStruct start := by
  cases h with
  | stay => exact hlast
  | step refers _ => exact refers.isStruct

theorem snoc {position next : Nat} (h : Route table start path slots last)
    (refers : table.Refers last position (next : Int)) :
    Route table start (path ++ [position]) (slots ++ [next]) next := by
  induction h with
  | stay => exact .step refers (.stay next)
  | step refers' _ ih => exact .step refers' (ih refers)

theorem eq_of_path {slots' : List Nat} {last' : Nat} (h : Route table start path slots last)
    (h' : Route table start path slots' last') : slots = slots' ∧ last = last' := by
  induction h generalizing slots' last' with
  | stay =>
      cases h'
      exact ⟨rfl, rfl⟩
  | step refers _ ih =>
      cases h' with
      | step refers' rest' =>
          have hnext := Int.ofNat_inj.mp (refers.index_unique refers')
          subst hnext
          obtain ⟨rfl, rfl⟩ := ih rest'
          exact ⟨rfl, rfl⟩

theorem split {path' : List Nat} (h : Route table start (path ++ path') slots last) :
    ∃ mid before after, Route table start path before mid ∧ Route table mid path' after last ∧
      slots = before ++ after.tail := by
  induction path generalizing start slots with
  | nil => exact ⟨start, [start], slots, .stay start, h, by cases h <;> rfl⟩
  | cons position path ih =>
      cases h with
      | step refers rest =>
          obtain ⟨mid, before, after, hbefore, hafter, rfl⟩ := ih rest
          exact ⟨mid, start :: before, after, .step refers hbefore, hafter, rfl⟩

/-- A route that starts in a set of slots and ends outside of it steps out of the set once for the
first time. -/
theorem exit {visited : List Nat} (h : Route table start path slots last)
    (hstart : start ∈ visited) (hlast : last ∉ visited) :
    ∃ front position back frontSlots slot, ∃ next : Nat, ∃ backSlots,
      path = front ++ position :: back ∧ Route table start front frontSlots slot ∧
      frontSlots <+: slots ∧ slot ∈ visited ∧ table.Refers slot position (next : Int) ∧
      next ∉ visited ∧ Route table next back backSlots last := by
  induction h with
  | stay => exact absurd hstart hlast
  | @step slot position next last path slots refers rest ih =>
      by_cases hnext : next ∈ visited
      · obtain ⟨front, position', back, frontSlots, slot', next', backSlots, rfl, hfront, hpre,
          hrest⟩ := ih hnext hlast
        exact ⟨position :: front, position', back, slot :: frontSlots, slot', next', backSlots, rfl,
          .step refers hfront, (List.prefix_cons_inj slot).mpr hpre, hrest⟩
      · exact ⟨[], position, path, [slot], slot, next, slots, rfl, .stay slot,
          (List.prefix_cons_inj slot).mpr List.nil_prefix, hstart, refers, hnext, rest⟩

end Route

theorem Reachable.exists_route {start slot : Nat} (h : table.Reachable start slot) :
    ∃ path slots, Route table start path slots slot := by
  induction h using Relation.ReflTransGen.head_induction_on with
  | refl => exact ⟨[], [slot], .stay slot⟩
  | head hleads _ ih =>
      obtain ⟨position, hrefers⟩ := hleads
      obtain ⟨path, slots, hroute⟩ := ih
      exact ⟨_, _, .step hrefers hroute⟩

/-- A route that meets no slot twice meets its last slot at its end only. -/
theorem eq_of_prefix_of_mem_simplePaths {start slot : Nat} {path longer : List Nat}
    (h : path ∈ table.simplePaths start slot) (hlonger : longer ∈ table.simplePaths start slot)
    (hpre : path <+: longer) : path = longer := by
  obtain ⟨rest, rfl⟩ := hpre
  obtain ⟨slots, hroute, -⟩ := h
  obtain ⟨slots', hroute', hnodup⟩ := hlonger
  obtain ⟨mid, before, after, hbefore, hafter, rfl⟩ := hroute'.split
  obtain ⟨rfl, rfl⟩ := hroute.eq_of_path hbefore
  cases hafter with
  | stay => simp
  | step _ hback =>
      have hdisjoint := (List.nodup_append.mp hnodup).2.2
      exact absurd rfl (hdisjoint _ hroute.last_mem _ hback.last_mem)

theorem reachable_of_mem_simplePaths {start slot : Nat} {path : List Nat}
    (h : path ∈ table.simplePaths start slot) : table.Reachable start slot := by
  obtain ⟨slots, hroute, -⟩ := h
  exact hroute.reachable

end TypeTable

end DeclGraph
