import JoinDiagram.Analysis.Response
import JoinDiagram.Proofs.Analysis.Check

namespace JoinDiagram.Analyzer

theorem check_result (a : Analyzer) (sql : String) :
    (a.check sql).result =
      match Check.firstFailure a.checks sql with
      | some failure => .error failure
      | none => .ok () := by
  rw [check, Run.report_bind_result]
  cases Check.firstFailure a.checks sql with
  | none => rfl
  | some failure => rw [Run.report_bind_result]; rfl

theorem read_result (a : Analyzer) (sql : String) : (a.read sql).result = (a.reader sql).2 := by
  rw [read]
  obtain ⟨notes, result⟩ := a.reader sql
  rw [Run.report_bind_result]
  cases result with
  | ok statement => rfl
  | error failure => rw [Run.report_bind_result]; rfl

theorem graph_result (a : Analyzer) (sql : String) :
    (a.graph sql).result =
      match Check.firstFailure a.checks sql, (a.reader sql).2 with
      | some failure, _ => .error failure
      | none, .error failure => .error failure
      | none, .ok statement => (a.registry.assemble statement).result := by
  have checked := a.check_result sql
  have read := a.read_result sql
  rw [graph]
  cases rejected : Check.firstFailure a.checks sql with
  | some failure =>
    rw [rejected] at checked
    exact Run.bind_result_error checked _
  | none =>
    rw [rejected] at checked
    rw [Run.bind_result checked]
    cases parsed : (a.reader sql).2 with
    | error failure =>
      rw [parsed] at read
      exact Run.bind_result_error read _
    | ok statement =>
      rw [parsed] at read
      exact Run.bind_result read _

def answer (threshold : Nat) : Except Failure Graph → Response
  | .ok g =>
    .diagram (g.view.withWarning (if g.complexity > threshold then some complexityWarning else none))
  | .error failure => .failure failure

theorem respond_eq_answer (a : Analyzer) (sql : String) :
    a.respond sql = answer a.settings.complexityWarningThreshold (a.graph sql).result := by
  rw [respond, analyze]
  cases assembled : (a.graph sql).result with
  | error failure => rw [Run.bind_result_error assembled]; rfl
  | ok g =>
    have warned : a.warning? g =
        if g.complexity > a.settings.complexityWarningThreshold then some complexityWarning
        else none := by
      simp [warning?, isTooComplex]
    rw [Run.bind_result assembled, Run.report_bind_result]
    by_cases complex : a.isTooComplex g = true
    · rw [if_pos complex, Run.report_bind_result, answer, ← warned]
      rfl
    · rw [if_neg complex, answer, ← warned]
      rfl

def plugged (settings : Settings) (reader : Reader) (registry : Registry) : Analyzer :=
  ((ofSettings settings).withReader reader).withRegistry registry

theorem respond_plugged (settings : Settings) (reader : Reader) (registry : Registry)
    (sql : String) :
    (plugged settings reader registry).respond sql =
      if Text.isBlankText sql then .failure .emptyInput
      else if settings.maxQueryLength < sql.length then
        .failure (.tooLong sql.length settings.maxQueryLength)
      else if ¬ Check.BeginsQuery sql then .failure .unsupportedStatement
      else match (reader sql).2 with
        | .error failure => .failure failure
        | .ok statement =>
          answer settings.complexityWarningThreshold (registry.assemble statement).result := by
  have screened : Check.firstFailure (plugged settings reader registry).checks sql = _ :=
    Check.firstFailure_standard settings.maxQueryLength sql
  have read : (plugged settings reader registry).reader = reader := rfl
  rw [respond_eq_answer, graph_result, screened, read]
  by_cases blank : Text.isBlankText sql = true
  · rw [if_pos blank, if_pos blank]
    rfl
  · rw [if_neg blank, if_neg blank]
    by_cases long : settings.maxQueryLength < sql.length
    · rw [if_pos long, if_pos long]
      rfl
    · rw [if_neg long, if_neg long]
      by_cases query : Check.BeginsQuery sql
      · rw [if_pos query, if_neg (not_not.mpr query)]
        cases (reader sql).2 <;> rfl
      · rw [if_neg query, if_pos query]
        rfl

end JoinDiagram.Analyzer
