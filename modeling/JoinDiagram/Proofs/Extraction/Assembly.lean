import JoinDiagram.Extraction.Assembly

namespace JoinDiagram

open Sql (Query Select Statement)

namespace Extractor

variable {α : Type}

def output (e : Extractor α) (s : Statement) : List α :=
  if e.canHandle s then ((e.extract s).2.toOption).getD [] else []

def SucceedsOn (e : Extractor α) (s : Statement) : Prop :=
  e.canHandle s → ∃ found, (e.extract s).2 = .ok found

def fault? (e : Extractor α) (s : Statement) : Option ExtractionFault :=
  if e.canHandle s then
    match (e.extract s).2 with
    | .ok _ => none
    | .error fault => some fault
  else none

theorem output_unhandled {e : Extractor α} {s : Statement} (h : ¬ e.canHandle s) :
    e.output s = [] := by
  simp [output, h]

theorem fault_unhandled {e : Extractor α} {s : Statement} (h : ¬ e.canHandle s) :
    e.fault? s = none := by
  simp [fault?, h]

theorem fault_eq_none_iff {e : Extractor α} {s : Statement} :
    e.fault? s = none ↔ e.SucceedsOn s := by
  rw [fault?, SucceedsOn]
  by_cases handled : e.canHandle s = true
  · cases extracted : (e.extract s).2 with
    | ok found => simp [handled]
    | error fault => simp [handled]
  · simp [handled]

theorem run_result {e : Extractor α} {s : Statement} (handled : e.canHandle s) :
    (e.run s).result =
      match e.fault? s with
      | some fault => .error (.internal fault.message)
      | none => .ok (e.output s) := by
  rw [run, fault?, output, if_pos handled, if_pos handled]
  cases (e.extract s).2 <;> rfl

theorem run_bind_result {β : Type} {e : Extractor α} {s : Statement} (handled : e.canHandle s)
    (next : List α → Run β) :
    (e.run s >>= next).result =
      match e.fault? s with
      | some fault => .error (.internal fault.message)
      | none => (next (e.output s)).result := by
  have ran := e.run_result handled
  cases faulted : e.fault? s with
  | some fault =>
    rw [faulted] at ran
    exact Run.bind_result_error ran next
  | none =>
    rw [faulted] at ran
    exact Run.bind_result ran next

def firstFault? (s : Statement) (es : List (Extractor α)) : Option ExtractionFault :=
  es.findSome? (·.fault? s)

theorem firstFault_eq_none {s : Statement} {es : List (Extractor α)}
    (succeed : ∀ e ∈ es, e.SucceedsOn s) : firstFault? s es = none := by
  rw [firstFault?, List.findSome?_eq_none_iff]
  intro e member
  exact fault_eq_none_iff.mpr (succeed e member)

end Extractor

namespace Builder

theorem insertNodes_result (b : Builder) (nodes : List Node) :
    (b.insertNodes nodes).result = .ok (nodes.foldl addNode b) := by
  induction nodes generalizing b with
  | nil => rfl
  | cons n rest ih =>
    rw [insertNodes, List.foldl_cons, addNode]
    cases pushed : b.pushNode n with
    | mk kept next =>
      cases kept
      · simp only [Run.report_bind_result]
        exact ih next
      · exact ih next

theorem extractNodes_result (b : Builder) (s : Statement) (es : List (Extractor Node)) :
    (b.extractNodes s es).result =
      match Extractor.firstFault? s es with
      | some fault => .error (.internal fault.message)
      | none => .ok ((es.flatMap (·.output s)).foldl addNode b) := by
  induction es generalizing b with
  | nil => rfl
  | cons e rest ih =>
    rw [extractNodes, List.flatMap_cons, List.foldl_append, Extractor.firstFault?,
      List.findSome?_cons]
    by_cases handled : e.canHandle s = true
    · rw [if_pos handled, Extractor.run_bind_result handled]
      cases e.fault? s with
      | some fault => rfl
      | none =>
        simp only [Run.report_bind_result, Run.bind_result (b.insertNodes_result _)]
        exact ih _
    · rw [if_neg handled, Extractor.fault_unhandled handled, Extractor.output_unhandled handled]
      exact ih b

theorem extractEdges_result (b : Builder) (s : Statement) (es : List (Extractor Edge)) :
    (b.extractEdges s es).result =
      match Extractor.firstFault? s es with
      | some fault => .error (.internal fault.message)
      | none => .ok ((es.flatMap (·.output s)).foldl pushEdge b) := by
  induction es generalizing b with
  | nil => rfl
  | cons e rest ih =>
    rw [extractEdges, List.flatMap_cons, List.foldl_append, Extractor.firstFault?,
      List.findSome?_cons]
    by_cases handled : e.canHandle s = true
    · rw [if_pos handled, Extractor.run_bind_result handled]
      cases e.fault? s with
      | some fault => rfl
      | none =>
        simp only [Run.report_bind_result]
        exact ih _
    · rw [if_neg handled, Extractor.fault_unhandled handled, Extractor.output_unhandled handled]
      exact ih b

end Builder

namespace Registry

/-- The extractors of nodes come before those of edges. -/
def firstFault? (r : Registry) (s : Statement) : Option ExtractionFault :=
  (Extractor.firstFault? s r.nodeExtractors).or (Extractor.firstFault? s r.edgeExtractors)

def nodes (r : Registry) (s : Statement) : List Node := r.nodeExtractors.flatMap (·.output s)

def edges (r : Registry) (s : Statement) : List Edge := r.edgeExtractors.flatMap (·.output s)

theorem assemble_result (r : Registry) (s : Statement) :
    (r.assemble s).result =
      match r.firstFault? s with
      | some fault => .error (.internal fault.message)
      | none => .ok (Graph.ofParts (r.nodes s) (r.edges s)) := by
  have added := Builder.empty.extractNodes_result s r.nodeExtractors
  rw [assemble, firstFault?]
  cases nodesFaulted : Extractor.firstFault? s r.nodeExtractors with
  | some fault =>
    rw [nodesFaulted] at added
    exact Run.bind_result_error added _
  | none =>
    rw [nodesFaulted] at added
    have pushed := (((r.nodes s).foldl Builder.addNode .empty)).extractEdges_result s
      r.edgeExtractors
    rw [Run.bind_result added, Option.none_or]
    cases edgesFaulted : Extractor.firstFault? s r.edgeExtractors with
    | some fault =>
      rw [edgesFaulted] at pushed
      exact Run.bind_result_error pushed _
    | none =>
      rw [edgesFaulted] at pushed
      rw [← nodes, Run.bind_result pushed, Run.report_bind_result]
      rfl

theorem assemble_succeeds (r : Registry) (s : Statement)
    (nodesSucceed : ∀ e ∈ r.nodeExtractors, e.SucceedsOn s)
    (edgesSucceed : ∀ e ∈ r.edgeExtractors, e.SucceedsOn s) :
    (r.assemble s).result = .ok (Graph.ofParts (r.nodes s) (r.edges s)) := by
  rw [assemble_result, firstFault?, Extractor.firstFault_eq_none nodesSucceed,
    Extractor.firstFault_eq_none edgesSucceed]
  rfl

end Registry

namespace Extraction

theorem readPart_succeeds {α β : Type} {name : String} {part : Statement → Option α}
    {read : α → List Note × List β} {s : Statement} (h : (part s).isSome) :
    ∃ found, (readPart name part read s).2 = .ok found := by
  obtain ⟨p, found⟩ := Option.isSome_iff_exists.mp h
  exact ⟨(read p).2, by rw [readPart, found]⟩

theorem baseTable_succeeds (s : Statement) : baseTable.SucceedsOn s :=
  fun handled => readPart_succeeds handled

theorem cte_succeeds (s : Statement) : cte.SucceedsOn s := by
  intro handled
  obtain ⟨w, found, -⟩ := (Option.any_eq_true _ _).mp handled
  exact readPart_succeeds (by rw [found]; rfl)

theorem subquery_succeeds (s : Statement) : subquery.SucceedsOn s := fun _ => ⟨[], rfl⟩

theorem join_succeeds (s : Statement) : join.SucceedsOn s := by
  intro handled
  obtain ⟨select, found, -⟩ := (Option.any_eq_true _ _).mp handled
  exact readPart_succeeds (by rw [found]; rfl)

theorem baseTable_output {s : Statement} {select : Select} (h : s.select? = some select) :
    baseTable.output s = tables select := by
  simp [Extractor.output, baseTable, readPart, h, Except.toOption]

theorem cte_output (s : Statement) : cte.output s = (s.with?.map definitions).getD [] := by
  cases found : s.with? with
  | none => simp [Extractor.output, cte, found]
  | some w =>
    by_cases none : w.definitions = []
    · simp [Extractor.output, cte, found, definitions, none]
    · simp [Extractor.output, cte, readPart, found, definitions, none, Except.toOption]

theorem join_output {s : Statement} {select : Select} (h : s.select? = some select) :
    join.output s = edges select := by
  by_cases joined : ∃ source ∈ select.sources, source.joins ≠ []
  · simp [Extractor.output, join, readPart, h, joined, Except.toOption]
  · simp only [not_exists, not_and, ne_eq, Decidable.not_not] at joined
    have unjoined : edges select = [] := by
      rw [edges, List.flatMap_eq_nil_iff]
      intro source member
      rw [sourceEdges, joined source member, joinEdges]
    rw [unjoined]
    apply Extractor.output_unhandled
    simpa [join, h] using joined

end Extraction

namespace Registry

theorem standard_nodes_succeed (s : Statement) : ∀ e ∈ standard.nodeExtractors, e.SucceedsOn s := by
  intro e member
  simp only [standard, List.mem_cons, List.not_mem_nil, or_false] at member
  rcases member with rfl | rfl | rfl
  · exact Extraction.baseTable_succeeds s
  · exact Extraction.cte_succeeds s
  · exact Extraction.subquery_succeeds s

theorem standard_edges_succeed (s : Statement) : ∀ e ∈ standard.edgeExtractors, e.SucceedsOn s := by
  intro e member
  simp only [standard, List.mem_singleton] at member
  subst member
  exact Extraction.join_succeeds s

theorem standard_assemble {s : Statement} {select : Select} (h : s.select? = some select) :
    (standard.assemble s).result =
      .ok (Graph.ofParts
        (Extraction.tables select ++ (s.with?.map Extraction.definitions).getD [])
        (Extraction.edges select)) := by
  rw [standard.assemble_succeeds s (standard_nodes_succeed s) (standard_edges_succeed s)]
  simp [standard, nodes, edges, Extraction.baseTable_output h, Extraction.cte_output,
    Extraction.join_output h, Extractor.output_unhandled, Extraction.subquery]

end Registry

end JoinDiagram
