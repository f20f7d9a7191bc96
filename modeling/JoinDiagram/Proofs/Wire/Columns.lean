import JoinDiagram.Proofs.Condition.NodeColumns
import JoinDiagram.Wire.Diagram

namespace JoinDiagram

def Graph.at? (g : Graph) : List Nat → Option Graph
  | [] => some g
  | i :: path => (g.nodes[i]?.bind Node.inner?).bind (·.at? path)

def DiagramView.at? (d : DiagramView) : List Nat → Option DiagramView
  | [] => some d
  | i :: path => (d.nodes[i]?.bind NodeView.inner?).bind (·.at? path)

mutual

def Node.withEdges (edges : List Nat → List Edge → List Edge) : Node → Node
  | .base id name alias? => .base id name alias?
  | .defined id name recursive => .defined id name recursive
  | .derived id name inner => .derived id name (inner.withEdges edges)

def Graph.withEdges (edges : List Nat → List Edge → List Edge) : Graph → Graph
  | ⟨nodes, own⟩ => ⟨Node.allWithEdges edges 0 nodes, edges [] own⟩

def Node.allWithEdges (edges : List Nat → List Edge → List Edge) (position : Nat) :
    List Node → List Node
  | [] => []
  | n :: ns => n.withEdges (fun path => edges (position :: path)) ::
      Node.allWithEdges edges (position + 1) ns

end

namespace Node

theorem view_id (columns : NodeColumns) (n : Node) : (n.view columns).id = n.id := by
  cases n <;> rfl

theorem view_columns (columns : NodeColumns) (n : Node) :
    (n.view columns).columns = columns.get n.id := by
  cases n <;> rfl

theorem view_inner (columns : NodeColumns) (n : Node) :
    (n.view columns).inner? = n.inner?.map Graph.view := by
  cases n <;> rfl

theorem viewAll_eq (columns : NodeColumns) (nodes : List Node) :
    viewAll columns nodes = nodes.map (Node.view columns) := by
  induction nodes with
  | nil => rfl
  | cons n rest ih => rw [viewAll, List.map_cons, ih]

theorem withEdges_id (edges : List Nat → List Edge → List Edge) (n : Node) :
    (n.withEdges edges).id = n.id := by
  cases n <;> rfl

theorem withEdges_inner (edges : List Nat → List Edge → List Edge) (n : Node) :
    (n.withEdges edges).inner? = n.inner?.map (Graph.withEdges edges) := by
  cases n <;> rfl

theorem allWithEdges_ids (edges : List Nat → List Edge → List Edge) (position : Nat)
    (nodes : List Node) : (allWithEdges edges position nodes).map id = nodes.map id := by
  induction nodes generalizing position with
  | nil => rfl
  | cons n rest ih => rw [allWithEdges, List.map_cons, List.map_cons, withEdges_id, ih]

theorem allWithEdges_getElem (edges : List Nat → List Edge → List Edge) (position i : Nat)
    (nodes : List Node) :
    (allWithEdges edges position nodes)[i]? =
      nodes[i]?.map (Node.withEdges fun path => edges ((position + i) :: path)) := by
  induction nodes generalizing position i with
  | nil => rfl
  | cons n rest ih =>
    cases i with
    | zero => rfl
    | succ i =>
      rw [allWithEdges, List.getElem?_cons_succ, List.getElem?_cons_succ, ih]
      simp only [Nat.add_assoc, Nat.add_comm 1 i]

end Node

namespace Graph

def namedColumns (g : Graph) : List (String × String) :=
  g.edges.flatMap fun e => Condition.columns e.condition

theorem view_nodes (g : Graph) :
    g.view.nodes = g.nodes.map (Node.view (NodeColumns.ofEdges g.edges)) := by
  obtain ⟨nodes, edges⟩ := g
  exact Node.viewAll_eq _ nodes

theorem view_edges (g : Graph) : g.view.edges = g.edges.map Edge.view := by
  cases g
  rfl

theorem view_columns (g : Graph) :
    g.view.nodes.map NodeView.columns = g.ids.map (columnsOf g.namedColumns) := by
  rw [view_nodes, ids, List.map_map, List.map_map]
  apply List.map_congr_left
  intro n _
  rw [Function.comp_apply, Node.view_columns, NodeColumns.get_ofEdges]
  rfl

theorem view_node (g : Graph) (id : String) :
    g.view.node? id = (g.node? id).map (Node.view (NodeColumns.ofEdges g.edges)) := by
  rw [DiagramView.node?, view_nodes, List.find?_map, node?]
  simp only [Function.comp_def, Node.view_id]

theorem view_at (g : Graph) (path : List Nat) : g.view.at? path = (g.at? path).map view := by
  induction path generalizing g with
  | nil => rfl
  | cons i rest ih =>
    rw [DiagramView.at?, Graph.at?, view_nodes, List.getElem?_map]
    cases found : g.nodes[i]? with
    | none => rfl
    | some n =>
      rw [Option.map_some, Option.bind_some, Option.bind_some, Node.view_inner]
      cases n.inner? with
      | none => rfl
      | some inner => exact ih inner

theorem withEdges_at (edges : List Nat → List Edge → List Edge) (g : Graph) (path : List Nat) :
    (g.withEdges edges).at? path =
      (g.at? path).map (withEdges fun deeper => edges (path ++ deeper)) := by
  induction path generalizing edges g with
  | nil => rfl
  | cons i rest ih =>
    obtain ⟨nodes, own⟩ := g
    rw [withEdges, Graph.at?, Graph.at?, Node.allWithEdges_getElem, Nat.zero_add]
    cases found : nodes[i]? with
    | none => rfl
    | some n =>
      rw [Option.map_some, Option.bind_some, Option.bind_some, Node.withEdges_inner]
      cases n.inner? with
      | none => rfl
      | some inner => exact ih _ inner

theorem withEdges_ids (edges : List Nat → List Edge → List Edge) (g : Graph) :
    (g.withEdges edges).ids = g.ids := by
  obtain ⟨nodes, own⟩ := g
  exact Node.allWithEdges_ids edges 0 nodes

theorem withEdges_edges (edges : List Nat → List Edge → List Edge) (g : Graph) :
    (g.withEdges edges).edges = edges [] g.edges := by
  cases g
  rfl

theorem withEdges_columns {edges : List Nat → List Edge → List Edge} {g : Graph}
    (kept : edges [] g.edges = g.edges) :
    (g.withEdges edges).view.nodes.map NodeView.columns = g.view.nodes.map NodeView.columns := by
  have named : (g.withEdges edges).namedColumns = g.namedColumns := by
    rw [namedColumns, withEdges_edges, kept, namedColumns]
  rw [view_columns, view_columns, withEdges_ids, named]

end Graph

/-- A diagram shows a graph if it has its nodes and edges in their order and each node with the
    columns that the conditions of the graph's own edges name for it. -/
structure DiagramView.Shows (d : DiagramView) (g : Graph) : Prop where
  nodes : d.nodes = g.nodes.map (Node.view (NodeColumns.ofEdges g.edges))
  edges : d.edges = g.edges.map Edge.view
  columns : d.nodes.map NodeView.columns = g.ids.map (columnsOf g.namedColumns)
  named : ∀ v ∈ d.nodes, v.columns.Nodup ∧
    ∀ field, field ∈ v.columns ↔ ∃ e ∈ g.edges, (v.id, field) ∈ Condition.columns e.condition
  lookup : ∀ id, d.node? id = (g.node? id).map (Node.view (NodeColumns.ofEdges g.edges))

theorem Graph.view_shows (g : Graph) : g.view.Shows g where
  nodes := g.view_nodes
  edges := g.view_edges
  columns := g.view_columns
  lookup := g.view_node
  named := by
    intro v member
    rw [view_nodes, List.mem_map] at member
    obtain ⟨n, -, rfl⟩ := member
    rw [Node.view_columns, Node.view_id, NodeColumns.get_ofEdges]
    refine ⟨columnsOf_nodup _ _, ?_⟩
    intro field
    rw [mem_columnsOf, List.mem_flatMap]

/-- At every depth the columns of a node are those that the edges beside it name for it, each once,
    in the order in which they are first named. Edges at other depths and in other queries play no
    part. -/
theorem Graph.view_columns_scoped {g h : Graph} {path : List Nat} (reached : g.at? path = some h) :
    ∃ d, g.view.at? path = some d ∧ d.Shows h ∧
      ∀ edges : List Nat → List Edge → List Edge, edges path h.edges = h.edges →
        ∃ d', (g.withEdges edges).view.at? path = some d' ∧
          d'.nodes.map NodeView.columns = d.nodes.map NodeView.columns := by
  refine ⟨h.view, by rw [view_at, reached, Option.map_some], h.view_shows, ?_⟩
  intro edges kept
  refine ⟨(h.withEdges fun deeper => edges (path ++ deeper)).view, ?_, ?_⟩
  · rw [view_at, withEdges_at, reached, Option.map_some, Option.map_some]
  · apply withEdges_columns
    rw [List.append_nil, kept]

def customersJoined : Graph :=
  ⟨[.table "orders" (some "o"), .table "customers" (some "c")],
    [⟨"o", "c", .inner, "o.customer_id = c.id and o.owner = c.id", []⟩]⟩

def customersWithin : Graph :=
  ⟨[.table "offers" (some "o"), .subquery "recent" customersJoined],
    [⟨"o", "subquery_recent", .inner, "o.code = c.code", []⟩]⟩

theorem Graph.view_columns_scoped_within :
    customersWithin.at? [1] = some customersJoined ∧
      ∃ d, customersWithin.view.at? [1] = some d ∧
        d.nodes.map NodeView.columns = [["customer_id", "owner"], ["id"]] ∧
        customersWithin.view.nodes.map NodeView.id = ["o", "subquery_recent"] ∧
        customersWithin.view.nodes.map NodeView.name = ["offers", "(subquery)"] ∧
        ∃ d', (customersWithin.withEdges fun path own =>
            if path = [1] then own else []).view.at? [1] = some d' ∧
          d'.nodes.map NodeView.columns = d.nodes.map NodeView.columns := by
  have reached : customersWithin.at? [1] = some customersJoined := rfl
  obtain ⟨d, found, shows, others⟩ := Graph.view_columns_scoped reached
  refine ⟨reached, d, found, ?_, rfl, rfl, others _ rfl⟩
  rw [shows.columns]
  decide +kernel

end JoinDiagram
