import JoinDiagram.Diagram.Join

namespace JoinDiagram

inductive NodeKind where
  | table
  | cte
  | subquery
deriving DecidableEq, Repr

namespace NodeKind

def name : NodeKind → String
  | table => "table"
  | cte => "cte"
  | subquery => "subquery"

def background : NodeKind → String
  | table => "#ffffff"
  | cte => "#cfe2ff"
  | subquery => "#fff3cd"

end NodeKind

mutual

/-- A relation of a query, under the id that edges refer to. -/
inductive Node where
  | base (id name : String) (alias? : Option String)
  | defined (id name : String) (recursive : Bool)
  | derived (id shortName : String) (inner : Graph)

structure Graph where
  nodes : List Node
  edges : List Edge

end

namespace Node

def table (name : String) (alias? : Option String) : Node := base (alias?.getD name) name alias?

def cte (name : String) (recursive : Bool) : Node := defined ("cte_" ++ name) name recursive

def subquery (shortName : String) (inner : Graph) : Node :=
  derived ("subquery_" ++ shortName) shortName inner

def id : Node → String
  | base id .. | defined id .. | derived id .. => id

def name : Node → String
  | base _ name _ | defined _ name _ => name
  | derived .. => "(subquery)"

def alias? : Node → Option String
  | base _ _ alias? => alias?
  | defined .. => none
  | derived _ shortName _ => some shortName

def kind : Node → NodeKind
  | base .. => .table
  | defined .. => .cte
  | derived .. => .subquery

def label (n : Node) : String :=
  match n.alias? with
  | some a => s!"{n.name} ({a})"
  | none => n.name

def background (n : Node) : String := n.kind.background

def inner? : Node → Option Graph
  | derived _ _ inner => some inner
  | _ => none

def isRecursive : Node → Bool
  | defined _ _ recursive => recursive
  | _ => false

end Node

mutual

def Node.same : Node → Node → Bool
  | .base id name a, .base id' name' a' => id == id' && name == name' && a == a'
  | .defined id name recursive, .defined id' name' recursive' =>
    id == id' && name == name' && recursive == recursive'
  | .derived id name inner, .derived id' name' inner' =>
    id == id' && name == name' && inner.same inner'
  | _, _ => false

def Graph.same : Graph → Graph → Bool
  | ⟨nodes, edges⟩, ⟨nodes', edges'⟩ => Node.sameAll nodes nodes' && edges == edges'

def Node.sameAll : List Node → List Node → Bool
  | [], [] => true
  | n :: ns, m :: ms => n.same m && Node.sameAll ns ms
  | _, _ => false

end

instance : BEq Node := ⟨Node.same⟩
instance : BEq Graph := ⟨Graph.same⟩

namespace Graph

def empty : Graph := ⟨[], []⟩

def ids (g : Graph) : List String := g.nodes.map Node.id

def node? (g : Graph) (id : String) : Option Node := g.nodes.find? (·.id == id)

def isEmpty (g : Graph) : Bool := g.nodes.isEmpty && g.edges.isEmpty

def complexity (g : Graph) : Nat := g.nodes.length

def isJoined (g : Graph) (n : Node) : Bool := g.edges.any (·.touches n.id)

def isolated (g : Graph) : List Node := g.nodes.filter fun n => !g.isJoined n

def hasLikelyCartesianProduct (g : Graph) : Bool := g.nodes.any fun n => !g.isJoined n

def dangling (g : Graph) : List Edge :=
  let ids := g.ids
  g.edges.filter fun e => !(ids.contains e.source && ids.contains e.target)

end Graph

end JoinDiagram
