import JoinDiagram.Proofs.Diagram.Builder
import Mathlib.Data.List.Induction

namespace JoinDiagram

inductive Push where
  | node (node : Node)
  | edge (edge : Edge)

namespace Push

def node? : Push → Option Node
  | node n => some n
  | edge _ => none

def edge? : Push → Option Edge
  | node _ => none
  | edge e => some e

def nodes (pushes : List Push) : List Node := pushes.filterMap node?

def edges (pushes : List Push) : List Edge := pushes.filterMap edge?

structure Interleaves (pushes : List Push) (nodes : List Node) (edges : List Edge) : Prop where
  nodes : Push.nodes pushes = nodes
  edges : Push.edges pushes = edges

theorem nodes_concat (pushes : List Push) (p : Push) :
    nodes (pushes ++ [p]) = nodes pushes ++ p.node?.toList := by
  cases p <;> simp [nodes, node?]

theorem edges_concat (pushes : List Push) (p : Push) :
    edges (pushes ++ [p]) = edges pushes ++ p.edge?.toList := by
  cases p <;> simp [edges, edge?]

end Push

namespace Builder

def push (b : Builder) : Push → Builder
  | .node n => (b.pushNode n).2
  | .edge e => b.pushEdge e

def after (pushes : List Push) : Builder := pushes.foldl push empty

def Reachable (b : Builder) : Prop := ∃ pushes, b = after pushes

structure Follows (b : Builder) (pushes : List Push) : Prop where
  nodes : b.nodes = firstPer Node.id (Push.nodes pushes)
  edges : b.edges = Push.edges pushes
  seen : ∀ id, id ∈ b.seen ↔ id ∈ b.nodes.map Node.id

namespace Follows

variable {b : Builder} {pushes : List Push}

theorem seen_iff_pushed (h : b.Follows pushes) (id : String) :
    id ∈ b.seen ↔ id ∈ (Push.nodes pushes).map Node.id := by
  rw [h.seen, h.nodes, mem_map_firstPer]

theorem pushNode (h : b.Follows pushes) (n : Node) :
    (b.addNode n).Follows (pushes ++ [.node n]) := by
  have nodes : Push.nodes (pushes ++ [.node n]) = Push.nodes pushes ++ [n] :=
    Push.nodes_concat pushes _
  have edges : b.edges = Push.edges (pushes ++ [.node n]) := by
    rw [Push.edges_concat, Push.edge?, Option.toList_none, List.append_nil, h.edges]
  have single : firstPer Node.id [n] = [n] := firstPer_eq_self Node.id (by simp)
  rw [addNode_eq]
  by_cases known : n.id ∈ b.seen
  · have pushed := (h.seen_iff_pushed n.id).mp known
    rw [if_pos known]
    refine ⟨?_, edges, h.seen⟩
    rw [nodes, firstPer_append, single, List.filter_cons_of_neg (by simpa using pushed),
      List.filter_nil, List.append_nil, h.nodes]
  · have fresh : n.id ∉ (Push.nodes pushes).map Node.id :=
      fun pushed => known ((h.seen_iff_pushed n.id).mpr pushed)
    rw [if_neg known]
    refine ⟨?_, edges, ?_⟩
    · rw [nodes, firstPer_append, single, List.filter_cons_of_pos (by simpa using fresh),
        List.filter_nil, h.nodes]
    · intro id
      rw [List.mem_cons, List.map_append, List.mem_append, h.seen, List.map_singleton,
        List.mem_singleton, or_comm]

theorem pushEdge (h : b.Follows pushes) (e : Edge) :
    (b.pushEdge e).Follows (pushes ++ [.edge e]) where
  nodes := by
    rw [Push.nodes_concat, Push.node?, Option.toList_none, List.append_nil]
    exact h.nodes
  edges := by
    rw [Push.edges_concat, ← h.edges]
    rfl
  seen := h.seen

theorem push (h : b.Follows pushes) (p : Push) : (b.push p).Follows (pushes ++ [p]) := by
  cases p with
  | node n => exact h.pushNode n
  | edge e => exact h.pushEdge e

end Follows

theorem after_follows (pushes : List Push) : (after pushes).Follows pushes := by
  induction pushes using List.reverseRecOn with
  | nil => exact ⟨rfl, rfl, fun _ => Iff.rfl⟩
  | append_singleton before p ih =>
    rw [after, List.foldl_concat]
    exact ih.push p

theorem after_build (pushes : List Push) :
    (after pushes).build = Graph.ofParts (Push.nodes pushes) (Push.edges pushes) := by
  have follows := after_follows pushes
  rw [build, follows.nodes, follows.edges, Graph.ofParts_eq]

theorem pushNode_kept_iff {b : Builder} {pushes : List Push} (h : b.Follows pushes) (n : Node) :
    (b.pushNode n).1 = true ↔ ∀ m ∈ Push.nodes pushes, m.id ≠ n.id := by
  have pushed := h.seen_iff_pushed n.id
  rw [List.mem_map] at pushed
  by_cases known : n.id ∈ b.seen
  · obtain ⟨m, member, same⟩ := pushed.mp known
    have dropped : (b.pushNode n).1 = false := by simp [Builder.pushNode, known]
    rw [dropped]
    simpa using ⟨m, member, same⟩
  · have kept : (b.pushNode n).1 = true := by simp [Builder.pushNode, known]
    rw [kept]
    simp only [true_iff]
    intro m member same
    exact known (pushed.mpr ⟨m, member, same⟩)

theorem pushNode_dropped {b : Builder} {n : Node} (dropped : (b.pushNode n).1 = false) :
    (b.pushNode n).2 = b := by
  by_cases known : n.id ∈ b.seen
  · simp [Builder.pushNode, known]
  · simp [Builder.pushNode, known] at dropped

/-- After any pushes the seen ids are those of the kept nodes, which are the first pushed of each
    id. A node is kept exactly if no node with its id was pushed before, and otherwise leaves no
    trace; looking for an id finds the first node that was pushed with it. Nodes and edges may take
    turns in any way. -/
theorem after_first_of_each (pushes : List Push) :
    (∀ id, id ∈ (after pushes).seen ↔ id ∈ (after pushes).nodes.map Node.id) ∧
    ((after pushes).nodes.map Node.id).Nodup ∧
    (∀ n, ((after pushes).pushNode n).1 = true ↔ ∀ m ∈ Push.nodes pushes, m.id ≠ n.id) ∧
    (∀ n, ((after pushes).pushNode n).1 = false → ((after pushes).pushNode n).2 = after pushes) ∧
    (after pushes).nodes = firstPer Node.id (Push.nodes pushes) ∧
    (after pushes).edges = Push.edges pushes ∧
    (∀ id, (after pushes).build.node? id = (Push.nodes pushes).find? fun n => n.id == id) ∧
    ∀ nodes edges other, Push.Interleaves pushes nodes edges → Push.Interleaves other nodes edges →
      (after pushes).build = (after other).build := by
  have follows := after_follows pushes
  refine ⟨follows.seen, ?_, pushNode_kept_iff follows, fun _ => pushNode_dropped, follows.nodes,
    follows.edges, ?_, ?_⟩
  · rw [follows.nodes]
    exact firstPer_nodup Node.id _
  · intro id
    have kept : (after pushes).build.nodes = firstPer Node.id (Push.nodes pushes) := follows.nodes
    rw [Graph.node?, kept, find_firstPer]
  · intro nodes edges other first second
    rw [after_build, after_build, first.nodes, first.edges, second.nodes, second.edges]

def offersSecond : List Push :=
  [.edge ⟨"x", "c", .inner, "x.id = c.id", ["id", "id"]⟩, .node (.table "orders" (some "o")),
    .node (.table "customers" (some "c")), .node (.table "offers" (some "o"))]

def edgeLast : List Push := offersSecond.tail ++ offersSecond.take 1

theorem after_first_of_each_offers :
    ((after offersSecond).pushNode (.cte "o" false)).1 = true ∧
      ((after offersSecond).pushNode (.table "o" none)).2 = after offersSecond ∧
      (after offersSecond).build.node? "o" = some (.table "orders" (some "o")) ∧
      (after offersSecond).build = (after edgeLast).build := by
  obtain ⟨-, -, kept, dropped, -, -, found, interleaved⟩ := after_first_of_each offersSecond
  exact ⟨(kept _).mpr (by decide), dropped _ (by decide), found "o",
    interleaved _ _ edgeLast ⟨rfl, rfl⟩ ⟨rfl, rfl⟩⟩

end Builder

end JoinDiagram
