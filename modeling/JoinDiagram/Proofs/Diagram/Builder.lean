import JoinDiagram.Diagram.Builder
import JoinDiagram.Proofs.List.Distinct

namespace JoinDiagram

namespace Builder

theorem addNode_eq (b : Builder) (n : Node) :
    b.addNode n =
      if n.id ∈ b.seen then b else { b with nodes := b.nodes ++ [n], seen := n.id :: b.seen } := by
  by_cases known : n.id ∈ b.seen
  · simp [addNode, pushNode, known]
  · simp [addNode, pushNode, known]

theorem addNodes_eq (b : Builder) (nodes : List Node) :
    (nodes.foldl addNode b).nodes =
        b.nodes ++ (firstPer Node.id nodes).filter (fun n => !b.seen.contains n.id) ∧
      (nodes.foldl addNode b).edges = b.edges := by
  induction nodes generalizing b with
  | nil => simp [firstPer]
  | cons n rest ih =>
    have others := firstPer_filter Node.id (fun id => id != n.id) rest
    rw [List.foldl_cons, firstPer_cons, others, addNode_eq]
    by_cases known : n.id ∈ b.seen
    · have later : ∀ m : Node, (!b.seen.contains m.id) =
          (!b.seen.contains m.id && m.id != n.id) := by
        intro m
        by_cases same : m.id = n.id
        · simp [same, known]
        · simp [same]
      rw [if_pos known, List.filter_cons_of_neg (by simpa using known), List.filter_filter]
      simp only [← later]
      exact ih b
    · have later : ∀ m : Node, (!(n.id :: b.seen).contains m.id) =
          (!b.seen.contains m.id && m.id != n.id) := by
        intro m
        rw [Bool.eq_iff_iff]
        simp [and_comm]
      have added := ih { b with nodes := b.nodes ++ [n], seen := n.id :: b.seen }
      rw [if_neg known, added.1, added.2, List.filter_cons_of_pos (by simpa using known),
        List.filter_filter]
      simp only [later, List.append_assoc, List.singleton_append, and_self]

theorem pushEdges_build (b : Builder) (edges : List Edge) :
    (edges.foldl pushEdge b).build = ⟨b.nodes, b.edges ++ edges⟩ := by
  induction edges generalizing b with
  | nil => simp [build]
  | cons e rest ih =>
    rw [List.foldl_cons, ih]
    simp [pushEdge]

end Builder

theorem Graph.ofParts_eq (nodes : List Node) (edges : List Edge) :
    Graph.ofParts nodes edges = ⟨firstPer Node.id nodes, edges⟩ := by
  have added := Builder.empty.addNodes_eq nodes
  rw [Graph.ofParts, Builder.pushEdges_build, added.1, added.2]
  simp [Builder.empty]

theorem Graph.ofParts_distinct (nodes : List Node) (edges : List Edge)
    (distinct : (nodes.map Node.id).Nodup) : Graph.ofParts nodes edges = ⟨nodes, edges⟩ := by
  rw [ofParts_eq, firstPer_eq_self Node.id distinct]

end JoinDiagram
