import JoinDiagram.Condition.NodeColumns
import JoinDiagram.Diagram.Graph
import JoinDiagram.Failure.Basic

namespace JoinDiagram

structure EdgeView where
  id : String
  source : String
  target : String
  kind : JoinKind
  condition : Option String
deriving DecidableEq, Repr

mutual

inductive NodeView where
  | mk (id : String) (kind : NodeKind) (name : String) (alias? : Option String)
      (columns : List String) (inner : Option DiagramView)

inductive DiagramView where
  | mk (nodes : List NodeView) (edges : List EdgeView) (warning : Option String)

end

namespace NodeView

def id : NodeView → String
  | mk id .. => id

def kind : NodeView → NodeKind
  | mk _ kind .. => kind

def name : NodeView → String
  | mk _ _ name .. => name

def alias? : NodeView → Option String
  | mk _ _ _ alias? .. => alias?

def columns : NodeView → List String
  | mk _ _ _ _ columns _ => columns

def inner? : NodeView → Option DiagramView
  | mk _ _ _ _ _ inner => inner

end NodeView

namespace DiagramView

def nodes : DiagramView → List NodeView
  | mk nodes .. => nodes

def edges : DiagramView → List EdgeView
  | mk _ edges _ => edges

def warning? : DiagramView → Option String
  | mk _ _ warning => warning

def withWarning (d : DiagramView) (warning : Option String) : DiagramView :=
  mk d.nodes d.edges warning

def node? (d : DiagramView) (id : String) : Option NodeView := d.nodes.find? (·.id == id)

end DiagramView

def Edge.view (e : Edge) : EdgeView :=
  ⟨e.source ++ "__" ++ e.target, e.source, e.target, e.kind,
    if e.condition.isEmpty then none else some e.condition⟩

mutual

def Node.view (columns : NodeColumns) : Node → NodeView
  | .base id name alias? => .mk id .table name alias? (columns.get id) none
  | .defined id name _ => .mk id .cte name none (columns.get id) none
  | .derived id name inner =>
    .mk id .subquery (Node.derived id name inner).name (some name) (columns.get id) (some inner.view)

/-- The columns of a graph stay within it: those of an inner graph come from its own edges. -/
def Graph.view : Graph → DiagramView
  | ⟨nodes, edges⟩ => .mk (Node.viewAll (NodeColumns.ofEdges edges) nodes) (edges.map Edge.view) none

def Node.viewAll (columns : NodeColumns) : List Node → List NodeView
  | [] => []
  | n :: ns => n.view columns :: Node.viewAll columns ns

end

inductive Response where
  | diagram (view : DiagramView)
  | failure (failure : Failure)

def Response.isSuccess : Response → Bool
  | diagram _ => true
  | failure _ => false

end JoinDiagram
