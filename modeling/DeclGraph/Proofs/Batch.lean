import Mathlib.Algebra.GroupWithZero.Nat
import DeclGraph.Proofs.Refusal
import DeclGraph.Session

/-!
The course of a batch. It goes through its dumps in order, with one event for each, and ends at the
first dump that stops it or after the last one.
-/

namespace DeclGraph

namespace Interface

/-- A bad type index stops every batch, a dump without a module only a strict one. -/
def Stops (strict : Bool) (dump : Interface) : Prop :=
  (∃ bad, dump.parse = .error bad) ∨ strict = true ∧ dump.parse = .ok none

/-- The module that is read from a dump, if there is one. -/
def module? (dump : Interface) : Option Module :=
  match dump.parse with
  | .ok found => found
  | .error _ => none

/-- Reading the dump ends without a module, and without a bad index. -/
def isUnmatched (dump : Interface) : Bool :=
  match dump.parse with
  | .ok none => true
  | _ => false

end Interface

namespace Batch

open Interface

/-- The event of a dump that does not stop the batch. -/
def outcomeEvent (dump : Interface) : LogEvent :=
  match dump.module? with
  | some module =>
    event .debug "module_parsed"
      [("module", .str module.name),
        ("imports", .int module.imports.length),
        ("decls", .int module.decls.length),
        ("constructors",
          .int ((module.dataTypes.map fun type => type.constructors.length).sum : Nat))]
  | none =>
    event .warning "module_skipped"
      [("module", .str dump.moduleName), ("path", .str dump.path)]

/-- What is read from `dumps`, before what a batch holds already. -/
def precede (dumps : List Interface) (batch : Batch) : Batch where
  modules := dumps.filterMap module? ++ batch.modules
  failed := (dumps.filter isUnmatched).map moduleName ++ batch.failed

variable {strict : Bool} {dump : Interface} {dumps : List Interface}

theorem parsedEvent_eq {module : Module} (h : dump.parse = .ok (some module)) :
    parsedEvent module = outcomeEvent dump := by
  simp [outcomeEvent, module?, h, parsedEvent, Module.constructorCount, List.length_flatMap]

theorem skippedEvent_eq (h : dump.parse = .ok none) : skippedEvent dump = outcomeEvent dump := by
  simp [outcomeEvent, module?, h, skippedEvent, origin]

theorem precede_append (before after : List Interface) (batch : Batch) :
    precede (before ++ after) batch = precede before (precede after batch) := by
  simp [precede]

theorem mark_then_map {μ α β : Type} (mark : μ) (run : Traced μ α) (f : α → β) :
    (do Traced.mark mark; return f (← run)) = (⟨mark :: run.marks, f run.value⟩ : Traced μ β) :=
  (Traced.ext_iff _ _).mpr ⟨by simp [Traced.mark], rfl⟩

/-- A dump that does not stop the batch leaves its event and what is read from it. -/
theorem collect_cons (h : ¬ dump.Stops strict) (dumps : List Interface) :
    collect strict (dump :: dumps) =
      ⟨outcomeEvent dump :: (collect strict dumps).marks,
        (collect strict dumps).value.map (precede [dump])⟩ := by
  cases hparse : dump.parse with
  | error bad => exact absurd (.inl ⟨bad, hparse⟩) h
  | ok found =>
      cases found with
      | some module =>
          have hprecede : precede [dump] = consModule module := by
            funext batch
            simp [precede, module?, isUnmatched, hparse, consModule]
          rw [collect, hparse, ← parsedEvent_eq hparse, hprecede]
          exact mark_then_map _ _ _
      | none =>
          have hlenient : strict = false := by
            by_contra hstrict
            exact h (.inr ⟨by simpa using hstrict, hparse⟩)
          have hprecede : precede [dump] = consFailed dump.moduleName := by
            funext batch
            simp [precede, module?, isUnmatched, hparse, consFailed]
          rw [collect, hparse, ← skippedEvent_eq hparse, hprecede, hlenient]
          exact mark_then_map _ _ _

theorem collect_append {before : List Interface} (h : ∀ dump ∈ before, ¬ dump.Stops strict)
    (dumps : List Interface) :
    collect strict (before ++ dumps) =
      ⟨before.map outcomeEvent ++ (collect strict dumps).marks,
        (collect strict dumps).value.map (precede before)⟩ := by
  induction before with
  | nil =>
      rw [List.nil_append, show precede [] = id from rfl]
      cases collect strict dumps with
      | mk marks value => cases value <;> rfl
  | cons dump before ih =>
      obtain ⟨hdump, hbefore⟩ := List.forall_mem_cons.mp h
      rw [List.cons_append, collect_cons hdump, ih hbefore]
      cases (collect strict dumps).value with
      | error cause => rfl
      | ok batch =>
          have hprecede := precede_append [dump] before batch
          simpa [Except.map] using hprecede.symm

theorem collect_badIndex {bad : BadIndex} (h : dump.parse = .error bad) (dumps : List Interface) :
    collect strict (dump :: dumps) = ⟨[], .error (.badTypeIndex bad.index bad.size)⟩ := by
  rw [collect, h]
  rfl

theorem collect_unmatched (h : dump.parse = .ok none) (dumps : List Interface) :
    collect true (dump :: dumps) =
      ⟨[unmatchedEvent dump], .error (.unmatchedModule dump.moduleName dump.path)⟩ := by
  rw [collect, h]
  rfl

/-- Without a stop, each dump has a module or is unmatched. -/
theorem length_modules_add_length_failed (h : ∀ dump ∈ dumps, ¬ dump.Stops strict) :
    (dumps.filterMap module?).length + ((dumps.filter isUnmatched).map moduleName).length =
      dumps.length := by
  induction dumps with
  | nil => rfl
  | cons dump dumps ih =>
      obtain ⟨hdump, hdumps⟩ := List.forall_mem_cons.mp h
      have hrest := ih hdumps
      rw [List.length_map] at hrest ⊢
      cases hparse : dump.parse with
      | error bad => exact absurd (.inl ⟨bad, hparse⟩) hdump
      | ok found =>
          cases found with
          | some module =>
              simp [module?, isUnmatched, hparse]
              omega
          | none =>
              simp [module?, isUnmatched, hparse]
              omega

theorem exists_first_stop (h : ∃ dump ∈ dumps, dump.Stops strict) :
    ∃ before dump after, dumps = before ++ dump :: after ∧
      (∀ earlier ∈ before, ¬ earlier.Stops strict) ∧ dump.Stops strict := by
  induction dumps with
  | nil =>
      obtain ⟨dump, hmem, -⟩ := h
      cases hmem
  | cons dump dumps ih =>
      by_cases hdump : dump.Stops strict
      · exact ⟨[], dump, dumps, rfl, List.forall_mem_nil _, hdump⟩
      · obtain ⟨stop, hmem, hstop⟩ := h
        rcases List.mem_cons.mp hmem with rfl | hmem
        · exact absurd hstop hdump
        · obtain ⟨before, first, after, rfl, hbefore, hfirst⟩ := ih ⟨stop, hmem, hstop⟩
          exact ⟨dump :: before, first, after, rfl, List.forall_mem_cons.mpr ⟨hdump, hbefore⟩,
            hfirst⟩

theorem parse_of_error {cause : FaultCause} {marks : List LogEvent}
    (h : collect strict dumps = ⟨marks, .error cause⟩) :
    parse strict dumps = ⟨marks, .error cause⟩ := by
  rw [parse, h]
  exact (Traced.ext_iff _ _).mpr ⟨by simp, rfl⟩

theorem parse_of_ok {batch : Batch} {marks : List LogEvent}
    (h : collect strict dumps = ⟨marks, .ok batch⟩) :
    parse strict dumps = ⟨marks ++ [completeEvent batch], .ok batch⟩ := by
  rw [parse, h]
  exact (Traced.ext_iff _ _).mpr ⟨by simp [Traced.mark], rfl⟩

theorem name_outcomeEvent_ne (dump : Interface) : (outcomeEvent dump).name ≠ "parse_complete" := by
  rw [outcomeEvent]
  cases dump.module? <;> simp [event]

/-- The event that a strict batch ends with. -/
def failedEvent (dump : Interface) : LogEvent :=
  event .error "module_parse_failed"
    [("module", .str dump.moduleName), ("path", .str dump.path)]

/-- The batch ends at its first dump that stops it, and has the events of the dumps before that. A
bad index ends it without an event. -/
structure EndsEarly (strict : Bool) (dumps : List Interface) : Prop where
  course : ∃ before dump after, dumps = before ++ dump :: after ∧
    (∀ earlier ∈ before, ¬ earlier.Stops strict) ∧
    ((∃ bad, dump.parse = .error bad ∧
        parse strict dumps =
          ⟨before.map outcomeEvent, .error (.badTypeIndex bad.index bad.size)⟩) ∨
      strict = true ∧ dump.parse = .ok none ∧
        parse strict dumps =
          ⟨before.map outcomeEvent ++ [failedEvent dump],
            .error (.unmatchedModule dump.moduleName dump.path)⟩)
  incomplete : ∀ event ∈ (parse strict dumps).marks, event.name ≠ "parse_complete"
  /-- Only events are written, also where outlines are asked for. -/
  written : ∀ log clock dumped, (Command.batch clock strict dumped dumps).written log =
    log.writeAll (stamped clock (parse strict dumps).marks)

/-- The batch goes through all its dumps, and tells at the end how many had a module and how many
had none. -/
structure GoesThrough (strict : Bool) (dumps : List Interface) : Prop where
  value : (parse strict dumps).value =
    .ok ⟨dumps.filterMap module?, (dumps.filter isUnmatched).map moduleName⟩
  marks : (parse strict dumps).marks = dumps.map outcomeEvent ++
    [event .info "parse_complete"
      [("parsed", .int (dumps.filterMap module?).length),
        ("skipped", .int ((dumps.filter isUnmatched).map moduleName).length)]]
  counts : (dumps.filterMap module?).length + ((dumps.filter isUnmatched).map moduleName).length =
    dumps.length
  written : ∀ log clock dumped, (Command.batch clock strict dumped dumps).written log =
    log.writeAll (stamped clock (parse strict dumps).marks) ++
      if dumped then
        (Module.dumpLines (dumps.filterMap module?)).map fun line => ⟨.stderr, line⟩
      else []

theorem written_of_error {cause : FaultCause} {marks : List LogEvent}
    (h : parse strict dumps = ⟨marks, .error cause⟩) (log : Log) (clock : Nat → String)
    (dumped : Bool) :
    (Command.batch clock strict dumped dumps).written log = log.writeAll (stamped clock marks) := by
  cases dumped <;> simp [Command.written, Command.events, Command.shown, h, shown]

theorem endsEarly (h : ∃ dump ∈ dumps, dump.Stops strict) : EndsEarly strict dumps := by
  obtain ⟨before, dump, after, rfl, hbefore, hstop⟩ := exists_first_stop h
  have hnames : ∀ event ∈ before.map outcomeEvent, event.name ≠ "parse_complete" := by
    intro event hevent
    obtain ⟨earlier, -, rfl⟩ := List.mem_map.mp hevent
    exact name_outcomeEvent_ne earlier
  rcases hstop with ⟨bad, hbad⟩ | ⟨rfl, hnone⟩
  · have hparse : parse strict (before ++ dump :: after) =
        ⟨before.map outcomeEvent, .error (.badTypeIndex bad.index bad.size)⟩ := by
      apply parse_of_error
      rw [collect_append hbefore, collect_badIndex hbad, List.append_nil]
      rfl
    refine ⟨⟨before, dump, after, rfl, hbefore, .inl ⟨bad, hbad, hparse⟩⟩, ?_, ?_⟩
    · rw [hparse]
      exact hnames
    · rw [hparse]
      exact written_of_error hparse
  · have hparse : parse true (before ++ dump :: after) =
        ⟨before.map outcomeEvent ++ [failedEvent dump],
          .error (.unmatchedModule dump.moduleName dump.path)⟩ := by
      apply parse_of_error
      rw [collect_append hbefore, collect_unmatched hnone]
      rfl
    refine ⟨⟨before, dump, after, rfl, hbefore, .inr ⟨rfl, hnone, hparse⟩⟩, ?_, ?_⟩
    · rw [hparse]
      refine List.forall_mem_append.mpr ⟨hnames, List.forall_mem_singleton.mpr ?_⟩
      simp [failedEvent, event]
    · rw [hparse]
      exact written_of_error hparse

theorem goesThrough (h : ∀ dump ∈ dumps, ¬ dump.Stops strict) : GoesThrough strict dumps := by
  have hcollect : collect strict dumps = ⟨dumps.map outcomeEvent, .ok (precede dumps empty)⟩ := by
    have happend := collect_append h []
    rw [List.append_nil] at happend
    rw [happend, collect]
    exact (Traced.ext_iff _ _).mpr ⟨List.append_nil _, rfl⟩
  have hbatch : precede dumps empty =
      ⟨dumps.filterMap module?, (dumps.filter isUnmatched).map moduleName⟩ := by
    simp [precede, empty]
  have hparse := parse_of_ok hcollect
  rw [hbatch] at hparse
  refine ⟨?_, ?_, length_modules_add_length_failed h, ?_⟩
  · rw [hparse]
  · rw [hparse]
    rfl
  · intro log clock dumped
    cases dumped <;> simp [Command.written, Command.events, Command.shown, hparse, shown]

/-- A dump with a module, one without, and one with a bad index. -/
def mixedDumps : List Interface :=
  [⟨"M", "M.hs", [.mk [.moduleRoot] [] [] []], #[]⟩,
    ⟨"N", "N.hs", [], #[]⟩,
    ⟨"B", "B.hs", [.mk [.moduleRoot] [3] [] []], #[]⟩]

theorem not_stops_false_of_parse_eq {found : Option Module} (h : dump.parse = .ok found) :
    ¬ dump.Stops false := by
  rintro (⟨bad, hbad⟩ | ⟨hstrict, -⟩)
  · rw [h] at hbad
    cases hbad
  · cases hstrict

end Batch

end DeclGraph
