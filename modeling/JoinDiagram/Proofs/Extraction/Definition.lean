import JoinDiagram.Proofs.Extraction.Registry

namespace JoinDiagram

open Sql (Query Select Statement)

namespace Builder

theorem mem_addNodes_of_mem {b : Builder} {n : Node} (kept : n ∈ b.nodes) (nodes : List Node) :
    n ∈ (nodes.foldl addNode b).nodes := by
  rw [(b.addNodes_eq nodes).1]
  exact List.mem_append_left _ kept

theorem insertNodes_kept_or_reported (b : Builder) {nodes : List Node} {n : Node}
    (member : n ∈ nodes) :
    n ∈ (nodes.foldl addNode b).nodes ∨ Event.duplicate n.id ∈ (b.insertNodes nodes).events := by
  induction nodes generalizing b with
  | nil => cases member
  | cons m rest ih =>
    rw [insertNodes, List.foldl_cons]
    by_cases known : m.id ∈ b.seen
    · have pushed : b.pushNode m = (false, b) := by simp [pushNode, known]
      have added : b.addNode m = b := by rw [addNode, pushed]
      rw [pushed, added]
      simp only [Run.report_bind_events]
      rcases List.mem_cons.mp member with rfl | later
      · exact .inr (by simp)
      · rcases ih b later with kept | reported
        · exact .inl kept
        · exact .inr (List.mem_append_right _ reported)
    · have pushed : b.pushNode m = (true, b.addNode m) := by simp [addNode, pushNode, known]
      rw [pushed]
      rcases List.mem_cons.mp member with rfl | later
      · have kept : n ∈ (b.addNode n).nodes := by simp [addNode_eq, known]
        exact .inl (mem_addNodes_of_mem kept rest)
      · exact ih _ later

theorem extractNodes_kept_or_reported (b : Builder) {s : Statement} {es : List (Extractor Node)}
    (unfaulted : Extractor.firstFault? s es = none) :
    ∀ n ∈ es.flatMap (·.output s),
      n ∈ ((es.flatMap (·.output s)).foldl addNode b).nodes ∨
        Event.duplicate n.id ∈ (b.extractNodes s es).events := by
  induction es generalizing b with
  | nil => simp
  | cons e rest ih =>
    rw [Extractor.firstFault?, List.findSome?_cons] at unfaulted
    cases faulted : e.fault? s with
    | some fault =>
      rw [faulted] at unfaulted
      cases unfaulted
    | none =>
      rw [faulted] at unfaulted
      intro n member
      rw [List.flatMap_cons] at member ⊢
      rw [List.foldl_append, extractNodes]
      by_cases handled : e.canHandle s = true
      · have ran : (e.run s).result = .ok (e.output s) := by
          rw [e.run_result handled, faulted]
        have inserted := b.insertNodes_result (e.output s)
        have events := Run.bind_events inserted fun next => next.extractNodes s rest
        rw [if_pos handled, Run.bind_events ran, Run.report_bind_events, events]
        rcases List.mem_append.mp member with found | later
        · rcases b.insertNodes_kept_or_reported found with kept | reported
          · exact .inl (mem_addNodes_of_mem kept _)
          · exact .inr (by simp [reported])
        · rcases ih _ unfaulted n later with kept | reported
          · exact .inl kept
          · exact .inr (by simp [reported])
      · rw [if_neg handled]
        rw [Extractor.output_unhandled handled] at member ⊢
        exact ih b unfaulted n member

end Builder

theorem Registry.assemble_kept_or_reported (r : Registry) {s : Statement} {g : Graph}
    (assembled : (r.assemble s).result = .ok g) :
    ∀ n ∈ r.nodes s, n ∈ g.nodes ∨ Event.duplicate n.id ∈ (r.assemble s).events := by
  obtain ⟨unfaulted, rfl⟩ := (r.assemble_ok_iff s g).mp assembled
  have nodesUnfaulted := (Option.or_eq_none_iff.mp unfaulted).1
  have extracted := Builder.empty.extractNodes_result s r.nodeExtractors
  rw [nodesUnfaulted] at extracted
  have kept : firstPer Node.id (r.nodes s) = ((r.nodes s).foldl Builder.addNode .empty).nodes := by
    rw [(Builder.empty.addNodes_eq (r.nodes s)).1]
    simp [Builder.empty]
  have found := Builder.empty.extractNodes_kept_or_reported nodesUnfaulted
  intro n member
  rw [assemble, Run.bind_events extracted, kept]
  rcases found n member with inside | reported
  · exact .inl inside
  · exact .inr (List.mem_append_left _ reported)

namespace Extraction

def drawnTables (s : Statement) : List Node := (s.select?.map tables).getD []

theorem baseTable_output_eq (s : Statement) : baseTable.output s = drawnTables s := by
  rw [drawnTables]
  cases found : s.select? with
  | none => simp [Extractor.output, baseTable, found]
  | some select => exact baseTable_output found

theorem standard_nodes (s : Statement) :
    Registry.standard.nodes s = drawnTables s ++ (s.with?.map definitions).getD [] := by
  have inactive : subquery.output s = [] := Extractor.output_unhandled (by simp [subquery])
  simp [Registry.nodes, Registry.standard, baseTable_output_eq, cte_output, inactive]

def fromRelations (q : Query) : List Sql.Relation :=
  match q.body with
  | .select s => relations s
  | _ => []

theorem drawnTables_query (q : Query) :
    drawnTables (.query q) = (fromRelations q).filterMap tableNode? := by
  have selected : (Statement.query q).select? = q.body.select? := rfl
  rw [drawnTables, selected, fromRelations]
  cases q.body <;> rfl

theorem mem_drawnTables {q : Query} {n : Node} :
    n ∈ drawnTables (.query q) ↔ ∃ r ∈ fromRelations q, r.DrawnAs n := by
  simp only [drawnTables_query, List.mem_filterMap, tableNode_eq_some_iff]

theorem taken_iff {q : Query} {id : String} :
    (∃ r ∈ fromRelations q, ∃ t, r.DrawnAs t ∧ t.id = id) ↔
      id ∈ (drawnTables (.query q)).map Node.id := by
  rw [List.mem_map]
  constructor
  · rintro ⟨r, member, t, drawn, named⟩
    exact ⟨t, mem_drawnTables.mpr ⟨r, member, drawn⟩, named⟩
  · rintro ⟨t, member, named⟩
    obtain ⟨r, inside, drawn⟩ := mem_drawnTables.mp member
    exact ⟨r, inside, t, drawn, named⟩

theorem drawnTables_kind {q : Query} {n : Node} (member : n ∈ drawnTables (.query q)) :
    n.kind = .table := by
  obtain ⟨r, -, drawn⟩ := mem_drawnTables.mp member
  obtain ⟨_, _, _, -, kind, -⟩ := drawn
  exact kind

def keptDefinitions (q : Query) : List Node :=
  ((definedNames q).map fun name => Node.cte name false).filter fun n =>
    !((drawnTables (.query q)).map Node.id).contains n.id

theorem mem_keptDefinitions {q : Query} {n : Node} :
    n ∈ keptDefinitions q ↔ ∃ name ∈ definedNames q, n = .cte name false ∧
      "cte_" ++ name ∉ (drawnTables (.query q)).map Node.id := by
  have free : ∀ id, (!((drawnTables (.query q)).map Node.id).contains id) = true ↔
      id ∉ (drawnTables (.query q)).map Node.id := by
    intro id
    rw [Bool.not_eq_true', ← Bool.not_eq_true, List.contains_iff_mem]
  simp only [keptDefinitions, List.mem_filter, free]
  constructor
  · rintro ⟨produced, untaken⟩
    obtain ⟨name, defined, rfl⟩ := List.mem_map.mp produced
    exact ⟨name, defined, rfl, untaken⟩
  · rintro ⟨name, defined, rfl, untaken⟩
    exact ⟨List.mem_map.mpr ⟨name, defined, rfl⟩, untaken⟩

theorem standard_assemble_query {q : Query} (named : ∀ name ∈ definedNames q, name ≠ "")
    (distinct : (definedNames q).Nodup) :
    (Registry.standard.assemble (.query q)).result =
      .ok ⟨firstPer Node.id (drawnTables (.query q)) ++
        keptDefinitions q, Registry.standard.edges (.query q)⟩ := by
  have builtIn : Registry.standard.BuiltIn := ⟨List.Subset.refl _, List.Subset.refl _⟩
  have ids : (((definedNames q).map fun name => Node.cte name false).map Node.id).Nodup := by
    rw [List.map_map]
    apply distinct.map
    intro first second same
    exact (String.append_right_inj _).mp same
  rw [builtIn.assembled, standard_nodes, definitions_of_named named, firstPer_append,
    firstPer_eq_self Node.id ids]
  rfl

theorem definition_kept_iff {q : Query} {name : String} (defined : name ∈ definedNames q) :
    (∃ n ∈ firstPer Node.id (drawnTables (.query q)) ++ keptDefinitions q,
      n.kind = .cte ∧ n.name = name) ↔ "cte_" ++ name ∉ (drawnTables (.query q)).map Node.id := by
  constructor
  · rintro ⟨n, member, isDefinition, rfl⟩
    rcases List.mem_append.mp member with isTable | kept
    · have table := drawnTables_kind (firstPer_subset Node.id _ isTable)
      rw [isDefinition] at table
      cases table
    · obtain ⟨_, -, rfl, untaken⟩ := mem_keptDefinitions.mp kept
      exact untaken
  · intro untaken
    have kept : .cte name false ∈ keptDefinitions q :=
      mem_keptDefinitions.mpr ⟨name, defined, rfl, untaken⟩
    exact ⟨_, List.mem_append_right _ kept, rfl, rfl⟩

theorem table_kept {q : Query} {id : String} (taken : id ∈ (drawnTables (.query q)).map Node.id) :
    ∃ n ∈ firstPer Node.id (drawnTables (.query q)) ++ keptDefinitions q,
      n.kind = .table ∧ n.id = id := by
  rw [← mem_map_firstPer] at taken
  obtain ⟨n, kept, isTaken⟩ := List.mem_map.mp taken
  have table := drawnTables_kind (firstPer_subset Node.id _ kept)
  exact ⟨n, List.mem_append_left _ kept, table, isTaken⟩

/-- A query that the WITH clause defines is missing from the graph exactly if a table goes by its
    id. Then the table keeps the id, and the loss is reported. -/
theorem assemble_definition_iff {q : Query} (named : ∀ name ∈ definedNames q, name ≠ "")
    (distinct : (definedNames q).Nodup) :
    ∃ g, (Registry.standard.assemble (.query q)).result = .ok g ∧
      ∀ name ∈ definedNames q,
        ((∃ n ∈ g.nodes, n.kind = .cte ∧ n.name = name) ↔
          ¬ ∃ r ∈ fromRelations q, ∃ t, r.DrawnAs t ∧ t.id = "cte_" ++ name) ∧
        ((∃ r ∈ fromRelations q, ∃ t, r.DrawnAs t ∧ t.id = "cte_" ++ name) →
          (∃ n ∈ g.nodes, n.kind = .table ∧ n.id = "cte_" ++ name) ∧
          Event.duplicate ("cte_" ++ name) ∈
            (Registry.standard.assemble (.query q)).events) := by
  have assembled := standard_assemble_query named distinct
  have reported := Registry.standard.assemble_kept_or_reported assembled
  refine ⟨_, assembled, ?_⟩
  intro name defined
  rw [taken_iff]
  refine ⟨definition_kept_iff defined, fun taken => ⟨table_kept taken, ?_⟩⟩
  have produced : Node.cte name false ∈ Registry.standard.nodes (.query q) := by
    rw [standard_nodes, definitions_of_named named]
    exact List.mem_append_right _ (List.mem_map.mpr ⟨name, defined, rfl⟩)
  rcases reported _ produced with kept | lost
  · exact absurd taken ((definition_kept_iff defined).mp ⟨_, kept, rfl, rfl⟩)
  · exact lost

def definedAs (name : String) : Sql.Definition :=
  ⟨⟨⟨name, none⟩, []⟩, ⟨none, .table "orders", ⟨[]⟩⟩, none⟩

def recentOrders : Select where
  quantifier := ⟨[]⟩
  projection := []
  target := ⟨[]⟩
  sources := [⟨namedTable "orders" "cte_recent", []⟩, ⟨unnamedTable ["cte_shop", "orders"], []⟩]
  tail := ⟨[]⟩

def recentQuery : Query :=
  ⟨some ⟨false, [definedAs "recent", definedAs "old", definedAs "shop.orders"]⟩,
    .select recentOrders, ⟨[]⟩⟩

theorem assemble_definition_iff_recent :
    (∀ name ∈ definedNames recentQuery, name ≠ "") ∧ (definedNames recentQuery).Nodup ∧
      ∃ g, (Registry.standard.assemble (.query recentQuery)).result = .ok g ∧
        (∃ n ∈ g.nodes, n.kind = .cte ∧ n.name = "old") ∧
        (∃ n ∈ g.nodes, n.kind = .table ∧ n.id = "cte_recent") ∧
        (∃ n ∈ g.nodes, n.kind = .table ∧ n.id = "cte_shop.orders") ∧
        Event.duplicate "cte_recent" ∈
          (Registry.standard.assemble (.query recentQuery)).events ∧
        Event.duplicate "cte_shop.orders" ∈
          (Registry.standard.assemble (.query recentQuery)).events := by
  have named : ∀ name ∈ definedNames recentQuery, name ≠ "" := by decide
  have distinct : (definedNames recentQuery).Nodup := by decide
  obtain ⟨g, assembled, kept⟩ := assemble_definition_iff named distinct
  have old := (kept "old" (by decide)).1.mpr (by rw [taken_iff]; decide +kernel)
  have recent := (kept "recent" (by decide)).2 (by rw [taken_iff]; decide +kernel)
  have shop := (kept "shop.orders" (by decide)).2 (by rw [taken_iff]; decide +kernel)
  exact ⟨named, distinct, g, assembled, old, recent.1, shop.1, recent.2, shop.2⟩

theorem assemble_definition_lost :
    ¬ ∀ q : Query, (∀ name ∈ definedNames q, name ≠ "") → (definedNames q).Nodup →
      ∀ g, (Registry.standard.assemble (.query q)).result = .ok g →
        ∀ name ∈ definedNames q, ∃ n ∈ g.nodes, n.kind = .cte ∧ n.name = name := by
  intro present
  have named : ∀ name ∈ definedNames recentQuery, name ≠ "" := by decide
  have distinct : (definedNames recentQuery).Nodup := by decide
  have defined : "recent" ∈ definedNames recentQuery := by decide
  have assembled := standard_assemble_query named distinct
  have kept := present recentQuery named distinct _ assembled "recent" defined
  exact (definition_kept_iff defined).mp kept (by decide +kernel)

end Extraction

end JoinDiagram
