import JoinDiagram.Proofs.Diagram.Push

namespace JoinDiagram

namespace Edge

def ends (e : Edge) : List String := [e.source, e.target]

theorem touches_iff (e : Edge) (id : String) : e.touches id = true ↔ id ∈ e.ends := by
  rw [touches, Bool.or_eq_true, beq_iff_eq, beq_iff_eq, ends, List.mem_pair, eq_comm,
    eq_comm (b := id)]

end Edge

namespace Graph

def endpoints (g : Graph) : List String := g.edges.flatMap Edge.ends

theorem isJoined_iff (g : Graph) (n : Node) : g.isJoined n = true ↔ n.id ∈ g.endpoints := by
  simp only [isJoined, List.any_eq_true, endpoints, List.mem_flatMap, Edge.touches_iff]

theorem mem_isolated (g : Graph) (n : Node) :
    n ∈ g.isolated ↔ n ∈ g.nodes ∧ n.id ∉ g.endpoints := by
  rw [isolated, List.mem_filter, Bool.not_eq_true', ← Bool.not_eq_true, isJoined_iff]

theorem isolated_eq_nil_iff (g : Graph) : g.isolated = [] ↔ g.ids ⊆ g.endpoints := by
  rw [List.eq_nil_iff_forall_not_mem]
  constructor
  · intro none id member
    obtain ⟨n, present, rfl⟩ := List.mem_map.mp member
    by_contra unjoined
    exact none n ((g.mem_isolated n).mpr ⟨present, unjoined⟩)
  · intro joined n alone
    obtain ⟨present, unjoined⟩ := (g.mem_isolated n).mp alone
    exact unjoined (joined (List.mem_map_of_mem present))

theorem hasLikelyCartesianProduct_iff (g : Graph) :
    g.hasLikelyCartesianProduct = true ↔ g.isolated ≠ [] := by
  rw [hasLikelyCartesianProduct, isolated, ne_eq, List.filter_eq_nil_iff, List.any_eq_true]
  simp only [not_forall, not_not, exists_prop]

theorem dangling_eq (g : Graph) :
    g.dangling = g.edges.filter fun e => ∃ id ∈ e.ends, id ∉ g.ids := by
  apply List.filter_congr
  intro e _
  have missing : (∃ id ∈ e.ends, id ∉ g.ids) ↔ ¬ (e.source ∈ g.ids ∧ e.target ∈ g.ids) := by
    simp [Edge.ends, imp_iff_not_or]
  rw [Bool.eq_iff_iff, decide_eq_true_iff, missing, Bool.not_eq_true', ← Bool.not_eq_true,
    Bool.and_eq_true, List.contains_iff_mem, List.contains_iff_mem]

theorem dangling_eq_nil_iff (g : Graph) : g.dangling = [] ↔ g.endpoints ⊆ g.ids := by
  rw [dangling_eq, List.filter_eq_nil_iff]
  constructor
  · intro none id member
    obtain ⟨e, present, atEnd⟩ := List.mem_flatMap.mp member
    by_contra missing
    exact none e present (decide_eq_true ⟨id, atEnd, missing⟩)
  · intro known e present dangles
    obtain ⟨id, atEnd, missing⟩ := of_decide_eq_true dangles
    exact missing (known (List.mem_flatMap.mpr ⟨e, present, atEnd⟩))

theorem isolated_dangling_eq_nil_iff (g : Graph) :
    g.isolated = [] ∧ g.dangling = [] ↔ ∀ id, id ∈ g.endpoints ↔ id ∈ g.ids := by
  rw [isolated_eq_nil_iff, dangling_eq_nil_iff]
  constructor
  · rintro ⟨joined, known⟩ id
    exact ⟨fun member => known member, fun member => joined member⟩
  · intro same
    exact ⟨fun id member => (same id).mpr member, fun id member => (same id).mp member⟩

section Growth

variable (g : Graph) (e : Edge) (n : Node)

theorem isolated_addEdge :
    (Graph.mk g.nodes (g.edges ++ [e])).isolated = g.isolated.filter fun n => n.id ∉ e.ends := by
  have joined : ∀ n, (Graph.mk g.nodes (g.edges ++ [e])).isJoined n =
      (g.isJoined n || e.touches n.id) := by
    intro n
    simp [isJoined]
  rw [isolated, isolated, List.filter_filter]
  apply List.filter_congr
  intro n _
  rw [joined, Bool.not_or, Bool.and_comm, Bool.eq_iff_iff]
  simp [← Edge.touches_iff]

theorem dangling_addEdge :
    (Graph.mk g.nodes (g.edges ++ [e])).dangling =
      g.dangling ++ if ∀ id ∈ e.ends, id ∈ g.ids then [] else [e] := by
  have same : (Graph.mk g.nodes (g.edges ++ [e])).ids = g.ids := rfl
  rw [dangling_eq, dangling_eq, same, List.filter_append]
  congr 1
  by_cases known : ∀ id ∈ e.ends, id ∈ g.ids
  · rw [if_pos known, List.filter_cons_of_neg (by simpa using known), List.filter_nil]
  · rw [if_neg known, List.filter_cons_of_pos (by simpa using known), List.filter_nil]

theorem isolated_addNode :
    (Graph.mk (g.nodes ++ [n]) g.edges).isolated =
      g.isolated ++ if n.id ∈ g.endpoints then [] else [n] := by
  have same : (Graph.mk (g.nodes ++ [n]) g.edges).isJoined = g.isJoined := rfl
  have joined := g.isJoined_iff n
  rw [isolated, isolated, same, List.filter_append]
  congr 1
  by_cases drawn : n.id ∈ g.endpoints
  · rw [if_pos drawn, List.filter_cons_of_neg (by simpa using joined.mpr drawn), List.filter_nil]
  · rw [if_neg drawn, List.filter_cons_of_pos (by simpa using fun h => drawn (joined.mp h)),
      List.filter_nil]

theorem dangling_addNode :
    (Graph.mk (g.nodes ++ [n]) g.edges).dangling =
      g.dangling.filter fun e => ∃ id ∈ e.ends, id ∉ g.ids ∧ id ≠ n.id := by
  have more : ∀ id, id ∈ (Graph.mk (g.nodes ++ [n]) g.edges).ids ↔ id ∈ g.ids ∨ id = n.id := by
    intro id
    rw [ids, ids, List.map_append, List.mem_append, List.map_singleton, List.mem_singleton]
  rw [dangling_eq, dangling_eq, List.filter_filter]
  apply List.filter_congr
  intro e _
  rw [Bool.eq_iff_iff, Bool.and_eq_true, decide_eq_true_iff, decide_eq_true_iff,
    decide_eq_true_iff]
  simp only [more, not_or]
  constructor
  · rintro ⟨id, atEnd, missing, other⟩
    exact ⟨⟨id, atEnd, missing, other⟩, id, atEnd, missing⟩
  · rintro ⟨lacks, -⟩
    exact lacks

end Growth

end Graph

namespace Builder

theorem Reachable.seen_iff {b : Builder} (reachable : b.Reachable) (id : String) :
    id ∈ b.seen ↔ id ∈ b.build.ids := by
  obtain ⟨pushes, rfl⟩ := reachable
  exact (after_follows pushes).seen id

/-- The diagnostics of a graph under construction, and how every push changes them: an edge takes
    its ends out of the isolated nodes, a node with a new id completes the edges that lacked only
    this id, and a node with a known id changes nothing. -/
theorem diagnostics_exact {b : Builder} (reachable : b.Reachable) :
    (b.build.hasLikelyCartesianProduct = true ↔ b.build.isolated ≠ []) ∧
    (b.build.isolated = [] ∧ b.build.dangling = [] ↔
      ∀ id, id ∈ b.build.endpoints ↔ id ∈ b.build.ids) ∧
    (∀ e, (b.pushEdge e).build.isolated = (b.build.isolated.filter fun n => n.id ∉ e.ends) ∧
      (b.pushEdge e).build.dangling =
        b.build.dangling ++ if ∀ id ∈ e.ends, id ∈ b.build.ids then [] else [e]) ∧
    (∀ n, n.id ∉ b.build.ids →
      (b.pushNode n).2.build.isolated =
        b.build.isolated ++ (if n.id ∈ b.build.endpoints then [] else [n]) ∧
      (b.pushNode n).2.build.dangling =
        b.build.dangling.filter fun e => ∃ id ∈ e.ends, id ∉ b.build.ids ∧ id ≠ n.id) ∧
    ∀ n, n.id ∈ b.build.ids →
      (b.pushNode n).2.build.isolated = b.build.isolated ∧
      (b.pushNode n).2.build.dangling = b.build.dangling := by
  refine ⟨b.build.hasLikelyCartesianProduct_iff, b.build.isolated_dangling_eq_nil_iff, ?_, ?_, ?_⟩
  · intro e
    exact ⟨b.build.isolated_addEdge e, b.build.dangling_addEdge e⟩
  · intro n fresh
    have added : (b.pushNode n).2.build = ⟨b.build.nodes ++ [n], b.build.edges⟩ := by
      have unseen : n.id ∉ b.seen := fun seen => fresh ((reachable.seen_iff n.id).mp seen)
      change (b.addNode n).build = _
      rw [addNode_eq, if_neg unseen]
      rfl
    rw [added]
    exact ⟨b.build.isolated_addNode n, b.build.dangling_addNode n⟩
  · intro n known
    have unchanged : (b.pushNode n).2 = b := by
      change b.addNode n = b
      rw [addNode_eq, if_pos ((reachable.seen_iff n.id).mpr known)]
    rw [unchanged]
    exact ⟨rfl, rfl⟩

def danglingBothWays : List Push :=
  [.node (.table "orders" (some "o")), .edge ⟨"o", "c", .inner, "o.cid = c.id", ["cid", "id"]⟩,
    .edge ⟨"x", "c", .cross, "", []⟩, .edge ⟨"c", "c", .left, "c.id = c.pid", ["id", "pid"]⟩,
    .node (.table "offers" none)]

theorem diagnostics_exact_selfJoin :
    (after danglingBothWays).build.isolated = [.table "offers" none] ∧
      ((after danglingBothWays).pushNode (.table "customers" (some "c"))).2.build.isolated =
        [.table "offers" none] ∧
      ((after danglingBothWays).pushNode (.table "customers" (some "c"))).2.build.dangling =
        [⟨"x", "c", .cross, "", []⟩] ∧
      ((after danglingBothWays).pushNode (.cte "o" false)).2.build.isolated =
        [.table "offers" none, .cte "o" false] ∧
      ((after danglingBothWays).pushNode (.table "x" (some "o"))).2.build.isolated =
        (after danglingBothWays).build.isolated := by
  have alone : (after danglingBothWays).build.isolated = [.table "offers" none] := by rfl
  obtain ⟨-, -, -, new, known⟩ := diagnostics_exact ⟨danglingBothWays, rfl⟩
  have customers := new (.table "customers" (some "c")) (by decide)
  have definition := new (.cte "o" false) (by decide)
  refine ⟨alone, ?_, ?_, ?_, (known (.table "x" (some "o")) (by decide)).1⟩
  · rw [customers.1, alone, if_pos (by decide), List.append_nil]
  · rw [customers.2]
    decide
  · rw [definition.1, alone, if_neg (by decide)]
    rfl

end Builder

end JoinDiagram
