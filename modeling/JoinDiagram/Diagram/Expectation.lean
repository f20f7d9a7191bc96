import JoinDiagram.Diagram.Graph

namespace JoinDiagram

inductive Expectation where
  | nodeIds (ids : List String)
  | nodeKind (id : String) (kind : NodeKind)
  | edge (source target : String) (kind : JoinKind)
  | noDangling
deriving DecidableEq, Repr

def Graph.meets (g : Graph) : Expectation → Bool
  | .nodeIds ids => g.ids == ids
  | .nodeKind id kind => (g.node? id).any (·.kind == kind)
  | .edge source target kind =>
    (g.edges.find? fun e => e.source == source && e.target == target).any (·.kind == kind)
  | .noDangling => g.dangling.isEmpty

end JoinDiagram
