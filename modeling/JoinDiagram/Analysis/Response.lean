import JoinDiagram.Analysis.Analyzer
import JoinDiagram.Wire.Diagram
import JoinDiagram.Wire.Request

namespace JoinDiagram.Analyzer

def respond (a : Analyzer) (sql : String) : Response :=
  match (a.analyze sql).result with
  | .ok (g, warning) => .diagram (g.view.withWarning warning)
  | .error failure => .failure failure

def handle (a : Analyzer) (r : Request) : Response := a.respond r.query

end JoinDiagram.Analyzer
