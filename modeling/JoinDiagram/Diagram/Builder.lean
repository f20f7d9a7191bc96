import JoinDiagram.Diagram.Graph

namespace JoinDiagram

structure Builder where
  nodes : List Node
  edges : List Edge
  seen : List String

namespace Builder

def empty : Builder := ⟨[], [], []⟩

/-- Of nodes with one id only the first is kept; the result says whether the node is. -/
def pushNode (b : Builder) (n : Node) : Bool × Builder :=
  if b.seen.contains n.id then (false, b)
  else (true, { b with nodes := b.nodes ++ [n], seen := n.id :: b.seen })

def pushEdge (b : Builder) (e : Edge) : Builder := { b with edges := b.edges ++ [e] }

def addNode (b : Builder) (n : Node) : Builder := (b.pushNode n).2

def nodeCount (b : Builder) : Nat := b.nodes.length

def build (b : Builder) : Graph := ⟨b.nodes, b.edges⟩

end Builder

def Graph.ofParts (nodes : List Node) (edges : List Edge) : Graph :=
  (edges.foldl Builder.pushEdge (nodes.foldl Builder.addNode .empty)).build

end JoinDiagram
