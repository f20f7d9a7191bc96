import JoinDiagram.Proofs.Extraction.QuotedJoin

namespace JoinDiagram

open Sql (Join Query Relation Select Source Statement)

namespace Extraction

def placedJoins (s : Source) : List (Relation × Join) := (sourceRelations s).zip s.joins

def places (s : Select) : List (Relation × Join) := s.sources.flatMap placedJoins

def namedSource? (j : Join) : Option String :=
  (Condition.references (joinCondition j.operator)).find? (· != relationId j.relation)

/-- An edge stands for a join: it leads to the joined relation from the first other one that the
    condition names, else from the relation directly before the join. A cross join names none. -/
structure StandsFor (e : Edge) (place : Relation × Join) : Prop where
  target : e.target = relationId place.2.relation
  kind : e.kind = joinKind place.2.operator
  condition : e.condition = joinCondition place.2.operator
  columns : e.columns = Condition.edgeColumns e.condition
  source : e.source = (namedSource? place.2).getD (relationId place.1)
  cross : e.kind = .cross →
    e.condition = "" ∧ e.columns = [] ∧ e.source = relationId place.1

theorem placedJoins_joins (s : Source) : (placedJoins s).map (·.2) = s.joins := by
  apply List.map_snd_zip
  simp [sourceRelations]

theorem places_joins (s : Select) : (places s).map (·.2) = s.sources.flatMap (·.joins) := by
  rw [places, List.map_flatMap]
  simp only [placedJoins_joins]

theorem joinCondition_cross {operator : Sql.JoinOperator} (cross : joinKind operator = .cross) :
    joinCondition operator = "" := by
  cases operator with
  | cross => rfl
  | crossApply => rfl
  | _ => cases cross

theorem joinEdge_standsFor (r : Relation) (j : Join) :
    StandsFor (joinEdge (relationId r) j) (r, j) where
  target := rfl
  kind := rfl
  condition := rfl
  columns := rfl
  source := rfl
  cross := by
    intro cross
    have empty : joinCondition j.operator = "" := joinCondition_cross cross
    have unnamed : Condition.references "" = [] := by decide +kernel
    simp [joinEdge, empty, Condition.inferSource, unnamed, Condition.edgeColumns,
      Condition.columns, Text.isBlankText]

theorem joinEdges_standFor (r : Relation) (js : List Join) :
    List.Forall₂ StandsFor (joinEdges (relationId r) js) ((r :: js.map (·.relation)).zip js) := by
  induction js generalizing r with
  | nil => exact .nil
  | cons j rest ih => exact .cons (joinEdge_standsFor r j) (ih j.relation)

theorem edges_standFor (s : Select) : List.Forall₂ StandsFor (edges s) (places s) := by
  rw [edges, places]
  induction s.sources with
  | nil => exact .nil
  | cons source rest ih =>
    exact List.rel_append (joinEdges_standFor source.relation source.joins) ih

theorem relations_of_place {s : Select} {place : Relation × Join} (member : place ∈ places s) :
    place.1 ∈ relations s ∧ place.2.relation ∈ relations s := by
  obtain ⟨source, present, inside⟩ := List.mem_flatMap.mp member
  obtain ⟨before, joined⟩ := List.of_mem_zip inside
  have known : ∀ r ∈ sourceRelations source, r ∈ relations s :=
    fun r inside => List.mem_flatMap.mpr ⟨source, present, inside⟩
  exact ⟨known _ before, known _ (List.mem_cons_of_mem _ (List.mem_map.mpr ⟨_, joined, rfl⟩))⟩

theorem mem_tables_ids {s : Select} {r : Relation} (member : r ∈ relations s)
    (plain : (tableNode? r).isSome) : relationId r ∈ (tables s).map Node.id := by
  obtain ⟨n, found⟩ := Option.isSome_iff_exists.mp plain
  rw [relationId_eq_id found]
  exact List.mem_map.mpr ⟨n, List.mem_filterMap.mpr ⟨r, member, found⟩, rfl⟩

theorem join_extract {s : Statement} {select : Select} (isSelect : s.select? = some select) :
    (join.extract s).2 = .ok (edges select) := by
  simp [join, readPart, isSelect]

/-- Why an edge leads from or to no node: it ends at an item that is no table, or starts from such an
    item or at a name that the condition uses for no relation of the graph. -/
def Unresolved (g : Graph) (e : Edge) (place : Relation × Join) : Prop :=
  tableNode? place.2.relation = none ∨
    (e.source = relationId place.1 ∧ tableNode? place.1 = none) ∨
    (e.source ∈ Condition.references e.condition ∧ e.source ∉ g.ids)

theorem StandsFor.unresolved {g : Graph} {e : Edge} {place : Relation × Join}
    (stands : StandsFor e place) (dangling : e ∈ g.dangling)
    (known : ∀ r, r = place.1 ∨ r = place.2.relation → (tableNode? r).isSome →
      relationId r ∈ g.ids) : Unresolved g e place := by
  by_cases target : tableNode? place.2.relation = none
  · exact .inl target
  · right
    have targetKnown : e.target ∈ g.ids := by
      rw [stands.target]
      exact known _ (.inr rfl) (Option.isSome_iff_ne_none.mpr target)
    have sourceUnknown : e.source ∉ g.ids :=
      fun sourceKnown => Graph.notMem_dangling sourceKnown targetKnown dangling
    have source := stands.source
    cases named : namedSource? place.2 with
    | some reference =>
      right
      rw [named, Option.getD_some] at source
      rw [stands.condition, source]
      exact ⟨List.mem_of_find?_eq_some named, source ▸ sourceUnknown⟩
    | none =>
      left
      rw [named, Option.getD_none] at source
      refine ⟨source, ?_⟩
      by_contra plain
      exact sourceUnknown (source ▸ known _ (.inl rfl) (Option.isSome_iff_ne_none.mpr plain))

/-- A plain SELECT has one edge for each join, in order. With the standard extractors its tables are
    nodes under the ids that the edges use, so an edge without a node at one of its ends leads to or
    from an item that is no table, or from a name in its condition that belongs to no node. -/
theorem assemble_joins {s : Statement} {select : Select} (isSelect : s.select? = some select) :
    (places select).map (·.2) = select.sources.flatMap (·.joins) ∧
      ∃ drawn, (join.extract s).2 = .ok drawn ∧
        List.Forall₂ StandsFor drawn (places select) ∧
        ∃ g, (Registry.standard.assemble s).result = .ok g ∧ g.edges = drawn ∧
          (∀ place ∈ places select,
            ((tableNode? place.2.relation).isSome → relationId place.2.relation ∈ g.ids) ∧
            ((tableNode? place.1).isSome → relationId place.1 ∈ g.ids)) ∧
          ∀ e ∈ g.dangling, ∃ place ∈ places select, StandsFor e place ∧ Unresolved g e place := by
  have assembled := Registry.standard_assemble isSelect
  set g := Graph.ofParts (tables select ++ (s.with?.map definitions).getD []) (edges select) with parts
  have drawn : g.edges = edges select := by rw [parts, Graph.ofParts_eq]
  have known : ∀ r ∈ relations select, (tableNode? r).isSome → relationId r ∈ g.ids := by
    intro r member plain
    rw [parts, Graph.mem_ids_ofParts, List.map_append]
    exact List.mem_append_left _ (mem_tables_ids member plain)
  refine ⟨places_joins select, edges select, join_extract isSelect, edges_standFor select, g,
    assembled, drawn, ?_, ?_⟩
  · intro place member
    obtain ⟨before, joined⟩ := relations_of_place member
    exact ⟨known _ joined, known _ before⟩
  · intro e dangling
    have member : e ∈ edges select := drawn ▸ (List.mem_filter.mp dangling).1
    obtain ⟨place, present, stands⟩ := forall₂_mem_left (edges_standFor select) member
    obtain ⟨before, joined⟩ := relations_of_place present
    refine ⟨place, present, stands, stands.unresolved dangling ?_⟩
    rintro r (rfl | rfl)
    · exact known _ before
    · exact known _ joined

def returnsQuery (shortName : String) : Relation :=
  .derived false ⟨none, .table "returns", ⟨[]⟩⟩ (some ⟨⟨shortName, none⟩, []⟩)

def returnsSelect : Select where
  quantifier := ⟨[]⟩
  projection := []
  target := ⟨[]⟩
  sources := [
    ⟨namedTable "orders" "o", [⟨false, .leftOuter (onSameId "o" "d"), returnsQuery "d"⟩,
      ⟨false, .crossApply, namedTable "colors" "k"⟩]⟩,
    ⟨namedTable "regions" "g", [⟨false, .inner (onSameId "c" "x"), namedTable "countries" "c"⟩]⟩]
  tail := ⟨[]⟩

theorem assemble_joins_returns :
    (Statement.query ⟨none, .select returnsSelect, ⟨[]⟩⟩).select? = some returnsSelect ∧
      ∃ drawn, (join.extract (.query ⟨none, .select returnsSelect, ⟨[]⟩⟩)).2 = .ok drawn ∧
        List.Forall₂ StandsFor drawn (places returnsSelect) ∧
        drawn.map (fun e => (e.source, e.target)) = [("o", "d"), ("d", "k"), ("x", "c")] ∧
        ∃ g, (Registry.standard.assemble (.query ⟨none, .select returnsSelect, ⟨[]⟩⟩)).result =
          .ok g ∧ g.edges = drawn ∧ "k" ∈ g.ids := by
  have select : (Statement.query ⟨none, .select returnsSelect, ⟨[]⟩⟩).select? =
      some returnsSelect := rfl
  obtain ⟨-, drawn, extracted, stand, g, assembled, same, known, -⟩ := assemble_joins select
  have spelled : drawn = edges returnsSelect := by
    rw [join_extract select, Except.ok.injEq] at extracted
    exact extracted.symm
  have colors := (known (returnsQuery "d", ⟨false, .crossApply, namedTable "colors" "k"⟩)
    (by simp [places, placedJoins, sourceRelations, returnsSelect])).1 rfl
  refine ⟨select, drawn, extracted, stand, ?_, g, assembled, same, colors⟩
  rw [spelled]
  decide +kernel

end Extraction

end JoinDiagram
