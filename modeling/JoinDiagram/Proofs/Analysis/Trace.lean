import JoinDiagram.Proofs.Analysis.Response
import JoinDiagram.Proofs.Extraction.Registry
import JoinDiagram.Proofs.Extraction.Trace

namespace JoinDiagram

/-- What is plugged into an analyzer leaves the levels of the results to it. -/
structure Analyzer.Silent (a : Analyzer) : Prop where
  checks : ∀ i sql, ∀ n ∈ a.checkNotes i sql, n.level.Quiet
  reader : ∀ sql, ∀ n ∈ (a.reader sql).1, n.level.Quiet
  registry : a.registry.Silent

namespace Analyzer

variable {a : Analyzer} {sql : String}

theorem check_notes_quiet (silent : a.Silent) (sql : String) (i : Nat) (checks : List Check) :
    ∀ n ∈ Check.notes a.checkNotes sql i checks, n.level.Quiet := by
  induction checks generalizing i with
  | nil => exact List.forall_mem_nil _
  | cons check rest ih =>
    rw [Check.notes, List.forall_mem_append]
    refine ⟨silent.checks i sql, ?_⟩
    split
    · exact List.forall_mem_nil _
    · exact ih (i + 1)

theorem check_events (a : Analyzer) (sql : String) :
    (a.check sql).events = (Check.notes a.checkNotes sql 0 a.checks).map .note ++
      match Check.firstFailure a.checks sql with
      | none => []
      | some failure => [.rejectedByCheck failure] := by
  rw [check, Run.report_bind_events]
  cases Check.firstFailure a.checks sql <;> rfl

theorem check_events_of_ok (passed : (a.check sql).result = .ok ()) :
    (a.check sql).events = (Check.notes a.checkNotes sql 0 a.checks).map .note := by
  rw [check_result] at passed
  rw [check_events]
  cases rejected : Check.firstFailure a.checks sql with
  | none => exact List.append_nil _
  | some failure =>
    rw [rejected] at passed
    cases passed

theorem check_subdued (silent : a.Silent) (sql : String) : Subdued (a.check sql).events := by
  rw [check_events]
  apply (Subdued.notes (check_notes_quiet silent sql 0 a.checks)).append
  cases Check.firstFailure a.checks sql with
  | none => exact List.forall_mem_nil _
  | some failure => exact List.forall_mem_singleton.mpr LogLevel.quiet_debug

theorem read_events (a : Analyzer) (sql : String) :
    (a.read sql).events = (a.reader sql).1.map .note ++
      match (a.reader sql).2 with
      | .ok _ => []
      | .error failure => [.rejectedByReader failure] := by
  rw [read]
  obtain ⟨notes, result⟩ := a.reader sql
  rw [Run.report_bind_events]
  cases result <;> rfl

theorem read_subdued (silent : a.Silent) (sql : String) : Subdued (a.read sql).events := by
  rw [read_events]
  apply (Subdued.notes (silent.reader sql)).append
  cases (a.reader sql).2 with
  | ok s => exact List.forall_mem_nil _
  | error failure => exact List.forall_mem_singleton.mpr LogLevel.quiet_debug

theorem graph_draws (silent : a.Silent) {g : Graph} (drawn : (a.graph sql).result = .ok g) :
    Draws (a.graph sql).events g := by
  rw [graph] at drawn ⊢
  obtain ⟨⟨⟩, passed, reading, events⟩ := Run.bind_result_eq_ok drawn
  obtain ⟨s, read, assembled, more⟩ := Run.bind_result_eq_ok reading
  rw [read_result] at read
  rw [events, more, check_events_of_ok passed, read_events, read, List.append_nil]
  have assembly := Registry.assemble_draws silent.registry assembled
  exact (assembly.after_notes (silent.reader sql)).after_notes (check_notes_quiet silent sql 0 _)

theorem graph_subdued (silent : a.Silent) {failure : Failure}
    (failed : (a.graph sql).result = .error failure) : Subdued (a.graph sql).events := by
  rw [graph] at failed ⊢
  apply (check_subdued silent sql).bind
  intro _ passed
  rw [Run.bind_result passed] at failed
  apply (read_subdued silent sql).bind
  intro s read
  rw [Run.bind_result read] at failed
  exact Registry.assemble_subdued silent.registry failed

theorem analyze_of_drawn {g : Graph} (drawn : (a.graph sql).result = .ok g) :
    (a.analyze sql).result = .ok (g, a.warning? g) ∧
      (a.analyze sql).events = (a.graph sql).events ++ .analyzed g.nodes.length g.edges.length ::
        if a.settings.complexityWarningThreshold < g.complexity then
          [.tooComplex g.complexity a.settings.complexityWarningThreshold]
        else [] := by
  rw [analyze, Run.bind_result drawn, Run.bind_events drawn, Run.report_bind_result,
    Run.report_bind_events]
  by_cases complex : a.settings.complexityWarningThreshold < g.complexity
  · have warned : a.isTooComplex g = true := decide_eq_true complex
    rw [if_pos warned, if_pos complex]
    exact ⟨rfl, rfl⟩
  · have unwarned : ¬ a.isTooComplex g = true := by simpa [isTooComplex] using complex
    rw [if_neg unwarned, if_neg complex]
    exact ⟨rfl, rfl⟩

theorem analyze_of_failed {failure : Failure} (failed : (a.graph sql).result = .error failure) :
    (a.analyze sql).result = .error failure ∧ (a.analyze sql).events = (a.graph sql).events :=
  ⟨Run.bind_result_error failed _, Run.bind_events_error failed _⟩

theorem ofSettings_silent (s : Settings) : (ofSettings s).Silent where
  checks := fun _ _ => List.forall_mem_nil _
  reader := by
    intro sql n noted
    change n ∈ (Reader.standard sql).1 at noted
    rw [Reader.standard] at noted
    split at noted <;> simp only [Reader.reject, List.mem_cons, List.not_mem_nil, or_false] at noted
    · rcases noted with rfl | rfl <;> exact LogLevel.quiet_debug
    all_goals
      subst noted
      exact LogLevel.quiet_debug
  registry := Registry.standard_silent

/-- The events of an analysis account for its result: a warning for each dangling edge and one if the
    graph is too complex, one piece of information, and no node that is neither drawn nor reported as
    a duplicate. An analysis that fails reports details only. -/
theorem analyze_accounted (a : Analyzer) (sql : String) :
    (∀ s, (ofSettings s).Silent) ∧
    (a.Silent →
      (∀ g warning, (a.analyze sql).result = .ok (g, warning) →
        ((a.analyze sql).events.countP fun e => e.level = .warn) = g.dangling.length +
          (if a.settings.complexityWarningThreshold < g.complexity then 1 else 0) ∧
        ((a.analyze sql).events.filter fun e => e.level = .info) =
          [.analyzed g.nodes.length g.edges.length] ∧
        ((a.analyze sql).events.map Event.nodesProduced).sum =
          g.nodes.length + (a.analyze sql).events.countP Event.isDuplicate ∧
        ((a.analyze sql).events.map Event.edgesProduced).sum = g.edges.length) ∧
      ∀ failure, (a.analyze sql).result = .error failure →
        ∀ e ∈ (a.analyze sql).events, e.level ≠ .info ∧ e.level ≠ .warn) := by
  refine ⟨ofSettings_silent, fun silent => ?_⟩
  cases drawn : (a.graph sql).result with
  | error failure =>
    obtain ⟨result, events⟩ := analyze_of_failed drawn
    have subdued := graph_subdued silent drawn
    rw [result, events]
    constructor
    · intro g warning succeeds
      cases succeeds
    · exact fun _ _ => subdued
  | ok h =>
    obtain ⟨result, events⟩ := analyze_of_drawn drawn
    have tallies := (graph_draws silent drawn).tallies
    rw [result, events]
    constructor
    · intro g warning succeeds
      cases succeeds
      simp only [List.countP_append, List.filter_append, List.map_append, List.sum_append,
        List.countP_cons, List.filter_cons, List.map_cons, List.sum_cons, tallies.warnings,
        tallies.infos, tallies.nodes, tallies.edges]
      split <;> simp [Event.level, Event.nodesProduced, Event.edgesProduced, Event.isDuplicate]
    · intro _ failed
      cases failed

def withReturns : Analyzer :=
  { plugged ⟨100, 2⟩ Reader.standard (Registry.standard.withNodes Registry.returns) with
    checkNotes := fun i _ => [⟨.trace, s!"Check {i}"⟩] }

def danglingJoin : String := "SELECT * FROM orders o JOIN customers c ON x.id = c.id"

theorem withReturns_silent : withReturns.Silent where
  checks := fun _ _ => List.forall_mem_singleton.mpr ⟨nofun, nofun⟩
  reader := (ofSettings_silent ⟨100, 2⟩).reader
  registry :=
    { nodes := by
        intro e member
        rcases List.mem_append.mp member with standard | added
        · exact Registry.standard_silent.nodes e standard
        · cases List.mem_singleton.mp added
          exact fun _ => List.forall_mem_singleton.mpr ⟨nofun, nofun⟩
      edges := Registry.standard_silent.edges }

theorem analyze_accounted_returns :
    withReturns.Silent ∧
      (withReturns.analyze danglingJoin).events.map Event.line =
        ["TRACE Check 0", "TRACE Check 1", "TRACE Check 2", "DEBUG Parsing 54 bytes of SQL",
          "DEBUG Extracted 2 base table(s)", "DEBUG base-table produced 2 node(s)",
          "ERROR No returns are known", "DEBUG returns produced 2 node(s)",
          "DEBUG Skipping duplicate node id 'c'", "DEBUG INNER JOIN x -> c",
          "DEBUG join-edge produced 1 edge(s)",
          "WARN Edge x -> c references a node that is not in the graph",
          "INFO Analyzed query: 3 node(s), 1 edge(s)",
          "WARN Query complexity 3 exceeds threshold 2"] ∧
      ((withReturns.analyze danglingJoin).events.countP fun e => e.level = .warn) = 2 ∧
      ((withReturns.analyze danglingJoin).events.filter fun e => e.level = .info) =
        [.analyzed 3 1] ∧
      ((withReturns.analyze danglingJoin).events.map Event.nodesProduced).sum =
        3 + (withReturns.analyze danglingJoin).events.countP Event.isDuplicate ∧
      ((withReturns.analyze danglingJoin).events.map Event.edgesProduced).sum = 1 ∧
      ∀ e ∈ (withReturns.analyze "SELECT * FROM").events, e.level ≠ .info ∧ e.level ≠ .warn := by
  refine ⟨withReturns_silent, by decide +kernel, ?_⟩
  have drawn : (withReturns.analyze danglingJoin).result.toOption.any (fun (g, _) =>
      g.dangling.length == 1 && g.nodes.length == 3 && g.edges.length == 1) = true := by
    decide +kernel
  have unread : (withReturns.analyze "SELECT * FROM").result.toOption.isNone = true := by
    decide +kernel
  have accounted := fun sql => (analyze_accounted withReturns sql).2 withReturns_silent
  cases result : (withReturns.analyze danglingJoin).result with
  | error failure =>
    rw [result] at drawn
    cases drawn
  | ok answer =>
    obtain ⟨g, warning⟩ := answer
    rw [result] at drawn
    simp only [Except.toOption, Option.any_some, Bool.and_eq_true, beq_iff_eq] at drawn
    obtain ⟨⟨dangling, nodes⟩, edges⟩ := drawn
    obtain ⟨warnings, infos, produced, joined⟩ := (accounted danglingJoin).1 g warning result
    have complex : withReturns.settings.complexityWarningThreshold < g.complexity := by
      rw [Graph.complexity, nodes]
      decide
    rw [dangling, if_pos complex] at warnings
    rw [nodes, edges] at infos
    rw [nodes] at produced
    rw [edges] at joined
    cases failed : (withReturns.analyze "SELECT * FROM").result with
    | ok answer =>
      rw [failed] at unread
      cases unread
    | error failure =>
      exact ⟨warnings, infos, produced, joined, (accounted "SELECT * FROM").2 failure failed⟩

end Analyzer

end JoinDiagram
