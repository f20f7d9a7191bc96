import JoinDiagram.Proofs.Diagram.Builder
import JoinDiagram.Proofs.Extraction.Assembly
import JoinDiagram.Proofs.Extraction.Scope

namespace JoinDiagram

open Sql (Statement)

namespace Builder

theorem extractNodes_applicable (b : Builder) (s : Statement) (es : List (Extractor Node)) :
    b.extractNodes s (es.filter (·.canHandle s)) = b.extractNodes s es := by
  induction es generalizing b with
  | nil => rfl
  | cons e rest ih =>
    by_cases handled : e.canHandle s = true
    · rw [List.filter_cons, if_pos handled, extractNodes, extractNodes, if_pos handled,
        if_pos handled]
      simp only [ih]
    · rw [List.filter_cons, if_neg handled, ih, extractNodes, if_neg handled]

theorem extractEdges_applicable (b : Builder) (s : Statement) (es : List (Extractor Edge)) :
    b.extractEdges s (es.filter (·.canHandle s)) = b.extractEdges s es := by
  induction es generalizing b with
  | nil => rfl
  | cons e rest ih =>
    by_cases handled : e.canHandle s = true
    · rw [List.filter_cons, if_pos handled, extractEdges, extractEdges, if_pos handled,
        if_pos handled]
      simp only [ih]
    · rw [List.filter_cons, if_neg handled, ih, extractEdges, if_neg handled]

end Builder

namespace Registry

open Extraction (baseTable cte join ordersQuery subquery)

def applicable (r : Registry) (s : Statement) : Registry :=
  ⟨r.nodeExtractors.filter (·.canHandle s), r.edgeExtractors.filter (·.canHandle s)⟩

theorem assemble_applicable (r : Registry) (s : Statement) :
    (r.applicable s).assemble s = r.assemble s := by
  simp only [assemble, applicable, Builder.extractNodes_applicable,
    Builder.extractEdges_applicable]

theorem assemble_ok_iff (r : Registry) (s : Statement) (g : Graph) :
    (r.assemble s).result = .ok g ↔
      r.firstFault? s = none ∧ g = ⟨firstPer Node.id (r.nodes s), r.edges s⟩ := by
  rw [assemble_result, Graph.ofParts_eq]
  cases r.firstFault? s with
  | some fault => simp
  | none => simp [eq_comm]

theorem nodes_withNodes (r : Registry) (e : Extractor Node) (s : Statement) :
    (r.withNodes e).nodes s = r.nodes s ++ e.output s := by
  simp [nodes, withNodes]

theorem firstFault_withNodes (r : Registry) {e : Extractor Node} {s : Statement}
    (succeeds : e.SucceedsOn s) : (r.withNodes e).firstFault? s = r.firstFault? s := by
  have unfaulted := Extractor.fault_eq_none_iff.mpr succeeds
  simp [firstFault?, withNodes, Extractor.firstFault?, List.findSome?_append, unfaulted]

/-- The first fault decides, and nodes come before edges. Without a fault the nodes are the outputs
    one after the other, of which the first of each id is kept, and the edges are the outputs one
    after the other. Extractors that do not handle the statement play no part, and a further
    extractor of nodes only adds nodes at the end. -/
theorem assemble_composed (r : Registry) (s : Statement) :
    ((r.assemble s).result =
      match r.firstFault? s with
      | some fault =>
        .error ⟨.internalError, fault.extractor ++ " cannot extract from a " ++ fault.found ++
          " statement", none, none, none⟩
      | none => .ok ⟨firstPer Node.id (r.nodes s), r.edges s⟩) ∧
    (∀ other : Registry, other.applicable s = r.applicable s → other.assemble s = r.assemble s) ∧
    ∀ (e : Extractor Node) (g : Graph), e.SucceedsOn s → (r.assemble s).result = .ok g →
      ∃ added, ((r.withNodes e).assemble s).result = .ok ⟨g.nodes ++ added, g.edges⟩ := by
  refine ⟨?_, ?_, ?_⟩
  · rw [assemble_result]
    cases r.firstFault? s with
    | some fault => rfl
    | none => exact congrArg Except.ok (Graph.ofParts_eq (r.nodes s) (r.edges s))
  · intro other same
    rw [← assemble_applicable, same, assemble_applicable]
  · intro e g succeeds assembled
    obtain ⟨unfaulted, rfl⟩ := (r.assemble_ok_iff s g).mp assembled
    refine ⟨(firstPer Node.id (e.output s)).filter fun n =>
      !((r.nodes s).map Node.id).contains n.id, ?_⟩
    rw [assemble_ok_iff, firstFault_withNodes r succeeds, nodes_withNodes, firstPer_append]
    exact ⟨unfaulted, rfl⟩

def returns : Extractor Node where
  name := "returns"
  canHandle _ := true
  extract _ :=
    ([⟨.error, "No returns are known"⟩], .ok [.table "customers" (some "c"), .table "returns" none])

def failing (α : Type) (name : String) (canHandle : Bool) : Extractor α where
  name := name
  canHandle _ := canHandle
  extract s := ([], .error ⟨name, s.kind.name⟩)

def failingOrders : Registry :=
  ⟨[baseTable, failing Node "macros" false, failing Node "views" true, failing Node "tables" true],
    [failing Edge "joins" true]⟩

theorem assemble_composed_orders :
    (failingOrders.assemble (.query ordersQuery)).result =
        .error ⟨.internalError, "views cannot extract from a SELECT statement", none, none, none⟩ ∧
      ((standard.withEdges (failing Edge "joins" true)).assemble (.query ordersQuery)).result =
        .error ⟨.internalError, "joins cannot extract from a SELECT statement", none, none, none⟩ ∧
      FailureKind.internalError.code = "INTERNAL_ERROR" ∧
      assemble ⟨[baseTable, subquery, subquery, cte], [join]⟩ (.query ordersQuery) =
        standard.assemble (.query ordersQuery) ∧
      ∃ g added, (standard.assemble (.query ordersQuery)).result = .ok g ∧
        ((standard.withNodes returns).assemble (.query ordersQuery)).result =
          .ok ⟨g.nodes ++ added, g.edges⟩ := by
  have views := (failingOrders.assemble_composed (.query ordersQuery)).1
  have joins :=
    ((standard.withEdges (failing Edge "joins" true)).assemble_composed (.query ordersQuery)).1
  obtain ⟨-, others, more⟩ := standard.assemble_composed (.query ordersQuery)
  have assembled := standard_assemble (s := .query ordersQuery) rfl
  have succeeds : returns.SucceedsOn (.query ordersQuery) := fun _ => ⟨_, rfl⟩
  obtain ⟨added, longer⟩ := more returns _ succeeds assembled
  exact ⟨views, joins, rfl, others _ rfl, _, added, assembled, longer⟩

structure BuiltIn (r : Registry) : Prop where
  nodeExtractors : r.nodeExtractors ⊆ standard.nodeExtractors
  edgeExtractors : r.edgeExtractors ⊆ standard.edgeExtractors

theorem BuiltIn.assembled {r : Registry} (h : r.BuiltIn) (s : Statement) :
    (r.assemble s).result = .ok ⟨firstPer Node.id (r.nodes s), r.edges s⟩ := by
  have nodes := fun e member => standard_nodes_succeed s e (h.nodeExtractors member)
  have edges := fun e member => standard_edges_succeed s e (h.edgeExtractors member)
  rw [r.assemble_succeeds s nodes edges, Graph.ofParts_eq]

theorem firstPer_repeated {before after : List (Extractor Node)} {e : Extractor Node}
    (present : e ∈ before) (s : Statement) :
    firstPer Node.id ((before ++ e :: after).flatMap (·.output s)) =
      firstPer Node.id ((before ++ after).flatMap (·.output s)) := by
  have known : ∀ n ∈ e.output s, n.id ∈ (before.flatMap (·.output s)).map Node.id := by
    intro n found
    exact List.mem_map.mpr ⟨n, List.mem_flatMap.mpr ⟨e, present, found⟩, rfl⟩
  rw [List.flatMap_append, List.flatMap_cons, List.flatMap_append]
  exact firstPer_append_known Node.id known _

theorem subset_repeated {α : Type} {before after all : List α} {x : α}
    (inside : before ++ after ⊆ all) (present : x ∈ before) : before ++ x :: after ⊆ all := by
  rw [List.append_subset] at inside ⊢
  exact ⟨inside.1, List.cons_subset.mpr ⟨inside.1 present, inside.2⟩⟩

/-- No statement makes the standard extractors fail, in whatever registry they stand. Standing there
    twice, an extractor of nodes changes nothing, and one of edges no nodes. -/
theorem builtIn_assemble (s : Statement) :
    (∀ e ∈ standard.nodeExtractors, e.SucceedsOn s) ∧
    (∀ e ∈ standard.edgeExtractors, e.SucceedsOn s) ∧
    ∀ r : Registry, r.BuiltIn → ∃ g, (r.assemble s).result = .ok g ∧
      (∀ before e after, r.nodeExtractors = before ++ after → e ∈ before →
        (assemble ⟨before ++ e :: after, r.edgeExtractors⟩ s).result = .ok g) ∧
      ∀ before e after, r.edgeExtractors = before ++ after → e ∈ before →
        ∃ drawn, (assemble ⟨r.nodeExtractors, before ++ e :: after⟩ s).result =
          .ok ⟨g.nodes, drawn⟩ := by
  refine ⟨standard_nodes_succeed s, standard_edges_succeed s, ?_⟩
  intro r builtIn
  obtain ⟨nodeExtractors, edgeExtractors⟩ := r
  refine ⟨_, builtIn.assembled s, ?_, ?_⟩
  · rintro before e after rfl present
    have repeated : BuiltIn ⟨before ++ e :: after, edgeExtractors⟩ :=
      ⟨subset_repeated builtIn.nodeExtractors present, builtIn.edgeExtractors⟩
    rw [repeated.assembled s]
    simp only [nodes, edges, firstPer_repeated present]
  · rintro before e after rfl present
    have repeated : BuiltIn ⟨nodeExtractors, before ++ e :: after⟩ :=
      ⟨builtIn.nodeExtractors, subset_repeated builtIn.edgeExtractors present⟩
    exact ⟨_, repeated.assembled s⟩

def emptyWith : Statement := .query ⟨some ⟨false, []⟩, .table "orders", ⟨[]⟩⟩

theorem builtIn_assemble_emptyWith :
    BuiltIn ⟨[cte, baseTable], [join]⟩ ∧
      ∃ g, (assemble ⟨[cte, baseTable], [join]⟩ emptyWith).result = .ok g ∧
        (assemble ⟨[cte, baseTable, cte], [join]⟩ emptyWith).result = .ok g ∧
        ∃ drawn, (assemble ⟨[cte, baseTable], [join, join]⟩ emptyWith).result =
          .ok ⟨g.nodes, drawn⟩ := by
  have builtIn : BuiltIn ⟨[cte, baseTable], [join]⟩ := ⟨by simp [standard], by simp [standard]⟩
  obtain ⟨g, assembled, nodeTwice, edgeTwice⟩ := (builtIn_assemble emptyWith).2.2 _ builtIn
  exact ⟨builtIn, g, assembled, nodeTwice [cte, baseTable] cte [] rfl (by simp),
    edgeTwice [join] join [] rfl (by simp)⟩

end Registry

end JoinDiagram
