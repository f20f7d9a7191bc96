import JoinDiagram.Proofs.Analysis.Response
import JoinDiagram.Proofs.Wire.Columns

namespace JoinDiagram

namespace Response

def IsTooLong (r : Response) : Prop := ∃ f, r = .failure f ∧ f.kind = .queryTooLong

def warning? : Response → Option String
  | diagram d => d.warning?
  | failure _ => none

def withoutWarning : Response → Response
  | diagram d => .diagram (d.withWarning none)
  | failure f => .failure f

end Response

namespace DiagramView

theorem withWarning_at (d : DiagramView) (warning : Option String) {path : List Nat}
    (within : path ≠ []) : (d.withWarning warning).at? path = d.at? path := by
  cases path with
  | nil => exact absurd rfl within
  | cons i rest => rfl

end DiagramView

namespace Graph

theorem view_unwarned (g : Graph) : g.view.warning? = none := by
  cases g
  rfl

theorem view_size (g : Graph) : g.view.nodes.length = g.complexity := by
  rw [view_nodes, List.length_map]
  rfl

end Graph

namespace Analyzer

section Answer

variable (threshold : Nat) (outcome : Except Failure Graph)

theorem answer_withoutWarning (threshold' : Nat) :
    (answer threshold outcome).withoutWarning = (answer threshold' outcome).withoutWarning := by
  cases outcome <;> rfl

theorem answer_warning_iff (warning : String) :
    (answer threshold outcome).warning? = some warning ↔
      warning = complexityWarning ∧
        ∃ d, answer threshold outcome = .diagram d ∧ threshold < d.nodes.length := by
  cases outcome with
  | error failure =>
    constructor
    · intro warned
      cases warned
    · rintro ⟨-, d, success, -⟩
      cases success
  | ok g =>
    have warned : (answer threshold (.ok g)).warning? =
        if g.complexity > threshold then some complexityWarning else none := rfl
    rw [warned]
    constructor
    · intro present
      split at present
      · rename_i complex
        exact ⟨(Option.some.inj present).symm, _, rfl, g.view_size.symm ▸ complex⟩
      · cases present
    · rintro ⟨rfl, d, success, complex⟩
      cases success
      have size : (g.view.withWarning (if g.complexity > threshold then some complexityWarning
          else none)).nodes.length = g.complexity := g.view_size
      rw [size] at complex
      exact if_pos complex

theorem answer_inner {d inner : DiagramView} {path : List Nat}
    (success : answer threshold outcome = .diagram d) (within : path ≠ [])
    (reached : d.at? path = some inner) : inner.warning? = none := by
  cases outcome with
  | error failure => cases success
  | ok g =>
    cases success
    rw [DiagramView.withWarning_at _ _ within, Graph.view_at] at reached
    obtain ⟨h, -, rfl⟩ := Option.map_eq_some_iff.mp reached
    exact h.view_unwarned

end Answer

section Limits

variable (reader : Reader) (registry : Registry) (sql : String)

def outcome : Except Failure Graph :=
  if Text.isBlankText sql then .error .emptyInput
  else if ¬ Check.BeginsQuery sql then .error .unsupportedStatement
  else match (reader sql).2 with
    | .error failure => .error failure
    | .ok statement => (registry.assemble statement).result

theorem graph_limited (s : Settings) :
    ((plugged s reader registry).graph sql).result =
      if ¬ Text.isBlankText sql ∧ s.maxQueryLength < sql.length then
        .error (.tooLong sql.length s.maxQueryLength)
      else outcome reader registry sql := by
  have screened : Check.firstFailure (plugged s reader registry).checks sql = _ :=
    Check.firstFailure_standard s.maxQueryLength sql
  have read : (plugged s reader registry).reader = reader := rfl
  rw [graph_result, screened, read, outcome]
  by_cases blank : Text.isBlankText sql = true
  · rw [if_pos blank, if_pos blank, if_neg (not_and_of_not_left _ (not_not.mpr blank))]
  · rw [if_neg blank, if_neg blank]
    by_cases long : s.maxQueryLength < sql.length
    · rw [if_pos long, if_pos ⟨blank, long⟩]
    · rw [if_neg long, if_neg (not_and_of_not_right _ long)]
      by_cases query : Check.BeginsQuery sql
      · rw [if_pos query, if_neg (not_not.mpr query)]
        cases (reader sql).2 <;> rfl
      · rw [if_neg query, if_pos query]

theorem respond_limited (s : Settings) :
    (plugged s reader registry).respond sql =
      if ¬ Text.isBlankText sql ∧ s.maxQueryLength < sql.length then
        .failure (.tooLong sql.length s.maxQueryLength)
      else answer s.complexityWarningThreshold (outcome reader registry sql) := by
  rw [respond_eq_answer, graph_limited]
  split <;> rfl

variable {s s' : Settings}

theorem respond_raised (lengths : s.maxQueryLength ≤ s'.maxQueryLength)
    (thresholds : s.complexityWarningThreshold = s'.complexityWarningThreshold) :
    (s.maxQueryLength < sql.length ∧
        (plugged s reader registry).respond sql =
          .failure (.tooLong sql.length s.maxQueryLength)) ∨
      (plugged s reader registry).respond sql = (plugged s' reader registry).respond sql := by
  rw [respond_limited, respond_limited]
  by_cases long : ¬ Text.isBlankText sql ∧ s.maxQueryLength < sql.length
  · exact .inl ⟨long.2, if_pos long⟩
  · have fits : ¬ (¬ Text.isBlankText sql ∧ s'.maxQueryLength < sql.length) :=
      fun longer => long ⟨longer.1, by omega⟩
    rw [if_neg long, if_neg fits, thresholds]
    exact .inr rfl

theorem respond_tooLong_of_raised (lengths : s.maxQueryLength ≤ s'.maxQueryLength)
    (thresholds : s.complexityWarningThreshold = s'.complexityWarningThreshold)
    (tooLong : ((plugged s' reader registry).respond sql).IsTooLong) :
    ((plugged s reader registry).respond sql).IsTooLong := by
  rcases respond_raised reader registry sql lengths thresholds with ⟨-, refused⟩ | same
  · exact ⟨_, refused, rfl⟩
  · rw [same]
    exact tooLong

theorem respond_withoutWarning (lengths : s.maxQueryLength = s'.maxQueryLength) :
    ((plugged s reader registry).respond sql).withoutWarning =
      ((plugged s' reader registry).respond sql).withoutWarning := by
  rw [respond_limited, respond_limited, lengths]
  split
  · rfl
  · exact answer_withoutWarning _ _ _

theorem respond_warning_iff (warning : String) :
    ((plugged s reader registry).respond sql).warning? = some warning ↔
      warning = complexityWarning ∧
        ∃ d, (plugged s reader registry).respond sql = .diagram d ∧
          s.complexityWarningThreshold < d.nodes.length := by
  rw [respond_limited]
  split
  · constructor
    · intro warned
      cases warned
    · rintro ⟨-, d, success, -⟩
      cases success
  · exact answer_warning_iff _ _ warning

theorem respond_warning_lowered (lengths : s.maxQueryLength = s'.maxQueryLength)
    (thresholds : s.complexityWarningThreshold ≤ s'.complexityWarningThreshold) {warning : String}
    (warned : ((plugged s' reader registry).respond sql).warning? = some warning) :
    ((plugged s reader registry).respond sql).warning? = some warning := by
  obtain ⟨rfl, d', success', complex⟩ := (respond_warning_iff reader registry sql warning).mp warned
  have same := respond_withoutWarning reader registry sql lengths
  rw [success'] at same
  cases success : (plugged s reader registry).respond sql with
  | failure f =>
    rw [success] at same
    cases same
  | diagram d =>
    rw [success] at same
    have unwarned : d.withWarning none = d'.withWarning none := Response.diagram.inj same
    have nodes : d.nodes = d'.nodes := (congrArg DiagramView.nodes unwarned :)
    rw [← success, respond_warning_iff]
    exact ⟨rfl, d, success, by rw [nodes]; omega⟩

theorem respond_inner {d inner : DiagramView} {path : List Nat}
    (success : (plugged s reader registry).respond sql = .diagram d) (within : path ≠ [])
    (reached : d.at? path = some inner) : inner.warning? = none := by
  rw [respond_limited] at success
  split at success
  · cases success
  · exact answer_inner _ _ success within reached

end Limits

/-- The settings only gate. A lower limit on the length refuses more texts and changes no other
    answer. The threshold decides about nothing but the warning of the whole diagram, which stands
    there exactly if the diagram has more nodes than the threshold, so that a lower threshold keeps
    every warning. Diagrams within a diagram have none. -/
theorem respond_limits_gate (reader : Reader) (registry : Registry) (sql : String)
    (s s' : Settings) :
    (s.maxQueryLength ≤ s'.maxQueryLength →
      s.complexityWarningThreshold = s'.complexityWarningThreshold →
      ((s.maxQueryLength < sql.length ∧
          (plugged s reader registry).respond sql =
            .failure (.tooLong sql.length s.maxQueryLength)) ∨
        (plugged s reader registry).respond sql = (plugged s' reader registry).respond sql) ∧
      (((plugged s' reader registry).respond sql).IsTooLong →
        ((plugged s reader registry).respond sql).IsTooLong)) ∧
    (s.maxQueryLength = s'.maxQueryLength →
      ((plugged s reader registry).respond sql).withoutWarning =
        ((plugged s' reader registry).respond sql).withoutWarning ∧
      (s.complexityWarningThreshold ≤ s'.complexityWarningThreshold →
        ∀ warning, ((plugged s' reader registry).respond sql).warning? = some warning →
          ((plugged s reader registry).respond sql).warning? = some warning)) ∧
    (∀ warning, ((plugged s reader registry).respond sql).warning? = some warning ↔
      warning = complexityWarning ∧
        ∃ d, (plugged s reader registry).respond sql = .diagram d ∧
          s.complexityWarningThreshold < d.nodes.length) ∧
    ∀ d path inner, (plugged s reader registry).respond sql = .diagram d → path ≠ [] →
      d.at? path = some inner → inner.warning? = none := by
  refine ⟨?_, ?_, respond_warning_iff reader registry sql,
    fun _ _ _ => respond_inner reader registry sql⟩
  · intro lengths thresholds
    exact ⟨respond_raised reader registry sql lengths thresholds,
      respond_tooLong_of_raised reader registry sql lengths thresholds⟩
  · intro lengths
    exact ⟨respond_withoutWarning reader registry sql lengths,
      fun thresholds _ => respond_warning_lowered reader registry sql lengths thresholds⟩

example (s : Settings) : plugged s Reader.standard .standard = ofSettings s := rfl

def commandReader : Reader := fun _ => ([], .ok (.command "SHOW"))

def drawsWithin : Registry where
  nodeExtractors := [⟨"within", fun _ => true, fun _ => ([], .ok customersWithin.nodes)⟩]
  edgeExtractors := []

theorem respond_limits_gate_within :
    ((plugged ⟨7, 1⟩ commandReader drawsWithin).respond "SELECT 1").IsTooLong ∧
      ((plugged ⟨6, 1⟩ commandReader drawsWithin).respond "SELECT 1").IsTooLong ∧
      ((plugged ⟨8, 2⟩ commandReader drawsWithin).respond "SELECT 1").withoutWarning =
        ((plugged ⟨8, 1⟩ commandReader drawsWithin).respond "SELECT 1").withoutWarning ∧
      ((plugged ⟨8, 1⟩ commandReader drawsWithin).respond "SELECT 1").warning? =
        some complexityWarning ∧
      ((plugged ⟨8, 0⟩ commandReader drawsWithin).respond "SELECT 1").warning? =
        some complexityWarning ∧
      ∃ d inner, (plugged ⟨8, 1⟩ commandReader drawsWithin).respond "SELECT 1" = .diagram d ∧
        d.at? [1] = some inner ∧ inner.warning? = none := by
  have refused : ((plugged ⟨7, 1⟩ commandReader drawsWithin).respond "SELECT 1").IsTooLong :=
    ⟨.tooLong 8 7, by rw [respond_limited, if_pos (by decide)]; rfl, rfl⟩
  have drawn : (plugged ⟨8, 1⟩ commandReader drawsWithin).respond "SELECT 1" =
      answer 1 (.ok ⟨customersWithin.nodes, []⟩) := by
    rw [respond_limited, if_neg (by decide), outcome, if_neg (by decide), if_neg (by decide)]
    rfl
  have within : (Graph.mk customersWithin.nodes []).view.at? [1] = some customersJoined.view := by
    rw [Graph.view_at]
    rfl
  have gates := respond_limits_gate commandReader drawsWithin "SELECT 1"
  have warned := ((gates ⟨8, 1⟩ ⟨8, 1⟩).2.2.1 complexityWarning).mpr ⟨rfl, _, drawn, by decide⟩
  refine ⟨refused, ?_, ?_, warned, ?_, _, _, drawn, within, ?_⟩
  · exact ((gates ⟨6, 1⟩ ⟨7, 1⟩).1 (by decide) rfl).2 refused
  · exact ((gates ⟨8, 2⟩ ⟨8, 1⟩).2.1 rfl).1
  · exact ((gates ⟨8, 0⟩ ⟨8, 1⟩).2.1 rfl).2 (by decide) _ warned
  · exact (gates ⟨8, 1⟩ ⟨8, 1⟩).2.2.2 _ [1] _ drawn (by decide) within

end Analyzer

end JoinDiagram
