import JoinDiagram.Analysis.Check
import JoinDiagram.Analysis.Reader
import JoinDiagram.Analysis.Settings
import JoinDiagram.Extraction.Assembly

namespace JoinDiagram

structure Analyzer where
  settings : Settings
  checks : List Check
  /-- What the check at a position reports on a text, whatever it decides. -/
  checkNotes : Nat → String → List Note
  reader : Reader
  registry : Registry

namespace Analyzer

def ofSettings (s : Settings) : Analyzer :=
  ⟨s, Check.standard s.maxQueryLength, fun _ _ => [], Reader.standard, .standard⟩

def withReader (a : Analyzer) (reader : Reader) : Analyzer := { a with reader }

def withRegistry (a : Analyzer) (registry : Registry) : Analyzer := { a with registry }

def check (a : Analyzer) (sql : String) : Run Unit := do
  .report ((Check.notes a.checkNotes sql 0 a.checks).map .note)
  match Check.firstFailure a.checks sql with
  | some failure =>
    .report [.rejectedByCheck failure]
    .fail failure
  | none => pure ()

def read (a : Analyzer) (sql : String) : Run Sql.Statement := do
  let (notes, result) := a.reader sql
  .report (notes.map .note)
  match result with
  | .ok s => return s
  | .error failure =>
    .report [.rejectedByReader failure]
    .fail failure

def graph (a : Analyzer) (sql : String) : Run Graph := do
  a.check sql
  let s ← a.read sql
  a.registry.assemble s

def complexityWarning : String := "Very complex query detected. Performance may be impacted."

def isTooComplex (a : Analyzer) (g : Graph) : Bool :=
  g.complexity > a.settings.complexityWarningThreshold

def warning? (a : Analyzer) (g : Graph) : Option String :=
  if a.isTooComplex g then some complexityWarning else none

def analyze (a : Analyzer) (sql : String) : Run (Graph × Option String) := do
  let g ← a.graph sql
  .report [.analyzed g.nodes.length g.edges.length]
  if a.isTooComplex g then
    .report [.tooComplex g.complexity a.settings.complexityWarningThreshold]
  return (g, a.warning? g)

def describe (a : Analyzer) : String :=
  let settings := "AnalyzerConfig \x7b max_query_length: " ++ toString a.settings.maxQueryLength ++
    ", complexity_warning_threshold: " ++ toString a.settings.complexityWarningThreshold ++ " \x7d"
  let checks := "ValidatorChain \x7b checks: " ++ toString a.checks.length ++ " \x7d"
  let names := a.registry.names.map fun name => "\"" ++ name ++ "\""
  let registry := "ExtractorRegistry \x7b extractors: [" ++ ", ".intercalate names ++ "] \x7d"
  "QueryAnalyzer \x7b config: " ++ settings ++ ", validators: " ++ checks ++
    ", registry: " ++ registry ++ ", .. \x7d"

end Analyzer

end JoinDiagram
