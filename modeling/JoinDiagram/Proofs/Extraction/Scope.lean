import JoinDiagram.Proofs.Diagram.Builder
import JoinDiagram.Proofs.Extraction.Assembly
import Mathlib.Data.List.Forall2
import Mathlib.Data.List.Pairwise
import Mathlib.Logic.Relation

namespace JoinDiagram

open Sql (Join Query Select Source Statement)

def Graph.Connected (g : Graph) : String → String → Prop :=
  Relation.EqvGen fun a b => ∃ e ∈ g.edges, e.source = a ∧ e.target = b

/-- A table is drawn under its alias, or under the parts of its name joined by dots if it has none.
    An empty alias is none. -/
def Sql.Relation.DrawnAs (r : Sql.Relation) (n : Node) : Prop :=
  ∃ parts extras alias?, r = .table parts extras alias? ∧
    n.kind = .table ∧
    n.name = ".".intercalate (parts.map (·.value)) ∧
    n.alias? = (alias?.map (·.name.value)).filter (· ≠ "") ∧
    n.id = n.alias?.getD n.name

namespace Extraction

theorem aliasName_eq (alias? : Option Sql.Alias) :
    aliasName alias? = (alias?.map (·.name.value)).filter (· ≠ "") := by
  cases alias? with
  | none => rfl
  | some a =>
    by_cases unnamed : a.name.value = "" <;>
      simp [aliasName, nonEmpty, Option.filter, unnamed]

theorem tableNode_eq_some_iff {r : Sql.Relation} {n : Node} :
    tableNode? r = some n ↔ r.DrawnAs n := by
  constructor
  · intro drawn
    cases r <;> simp only [tableNode?, reduceCtorEq, Option.some.injEq] at drawn
    subst drawn
    exact ⟨_, _, _, rfl, rfl, rfl, aliasName_eq _, rfl⟩
  · rintro ⟨parts, extras, alias?, rfl, kind, name, shortName, id⟩
    rw [← aliasName_eq] at shortName
    cases n with
    | base nodeId nodeName nodeAlias? =>
      change nodeName = Sql.dottedValue parts at name
      change nodeAlias? = aliasName alias? at shortName
      change nodeId = nodeAlias?.getD nodeName at id
      subst id name shortName
      rfl
    | defined => cases kind
    | derived => cases kind

def relations (s : Select) : List Sql.Relation := s.sources.flatMap sourceRelations

def sourceIds (s : Source) : List String := (sourceRelations s).map relationId

/-- The joins of a FROM item, each with the ids of the relations that stand before it. -/
def joinsInScope (ids : List String) : List Join → List (List String × Join)
  | [] => []
  | j :: js => (ids, j) :: joinsInScope (ids ++ [relationId j.relation]) js

def scopedJoins (s : Source) : List (List String × Join) :=
  joinsInScope [relationId s.relation] s.joins

def definedNames (q : Query) : List String :=
  ((q.withClause.map (·.definitions)).getD []).map (·.heading.name.value)

/-- The ON condition of a join names no relation that comes later or stands in another FROM item. -/
def LooksBack (scope : List String × Join) : Prop :=
  ∀ reference ∈ Condition.references (joinCondition scope.2.operator),
    reference ∈ scope.1 ∨ reference = relationId scope.2.relation

instance (scope : List String × Join) : Decidable (LooksBack scope) :=
  inferInstanceAs (Decidable (∀ reference ∈ Condition.references (joinCondition scope.2.operator),
    reference ∈ scope.1 ∨ reference = relationId scope.2.relation))

/-- A plain SELECT over tables whose ids differ, whose ON conditions only look back within their
    FROM item, and whose WITH clause takes no id away from a table. -/
structure WellScoped (q : Query) (s : Select) : Prop where
  body : q.body = .select s
  plain : ∀ r ∈ relations s, ∃ parts extras alias?, r = .table parts extras alias?
  distinct : ((relations s).map relationId).Nodup
  looksBack : ∀ source ∈ s.sources, ∀ scope ∈ scopedJoins source, LooksBack scope
  named : ∀ name ∈ definedNames q, name ≠ ""
  namesDistinct : (definedNames q).Nodup
  apart : ∀ name ∈ definedNames q, ∀ r ∈ relations s, relationId r ≠ "cte_" ++ name

def Draws (e : Edge) (scope : List String × Join) : Prop :=
  e.source ∈ scope.1 ∧ e.target = relationId scope.2.relation ∧
    e.kind = joinKind scope.2.operator

theorem inferSource_mem {ids : List String} {condition target preceding : String}
    (member : preceding ∈ ids)
    (looksBack : ∀ reference ∈ Condition.references condition,
      reference ∈ ids ∨ reference = target) :
    Condition.inferSource condition target preceding ∈ ids := by
  rw [Condition.inferSource]
  cases found : (Condition.references condition).find? (· != target) with
  | none => exact member
  | some reference =>
    have other : reference ≠ target := by simpa using List.find?_some found
    rcases looksBack reference (List.mem_of_find?_eq_some found) with inside | same
    · exact inside
    · exact absurd same other

theorem joinEdges_draw (ids : List String) (preceding : String) (js : List Join)
    (member : preceding ∈ ids)
    (looksBack : ∀ scope ∈ joinsInScope ids js, LooksBack scope) :
    List.Forall₂ Draws (joinEdges preceding js) (joinsInScope ids js) := by
  induction js generalizing ids preceding with
  | nil => exact .nil
  | cons j rest ih =>
    have here := looksBack (ids, j) (by simp [joinsInScope])
    have later := ih (ids ++ [relationId j.relation]) (relationId j.relation) (by simp)
      (fun scope inside => looksBack scope (List.mem_cons_of_mem _ inside))
    exact .cons ⟨inferSource_mem member here, rfl, rfl⟩ later

theorem sourceEdges_draw {s : Source}
    (looksBack : ∀ scope ∈ scopedJoins s, LooksBack scope) :
    List.Forall₂ Draws (sourceEdges s) (scopedJoins s) :=
  joinEdges_draw _ _ _ (by simp) looksBack

theorem edges_draw (sources : List Source)
    (looksBack : ∀ source ∈ sources, ∀ scope ∈ scopedJoins source, LooksBack scope) :
    List.Forall₂ Draws (sources.flatMap sourceEdges) (sources.flatMap scopedJoins) := by
  induction sources with
  | nil => exact .nil
  | cons source rest ih =>
    have first := sourceEdges_draw (looksBack source (by simp))
    have later := ih fun other member => looksBack other (List.mem_cons_of_mem _ member)
    exact List.rel_append first later

theorem forall₂_mem_left {α β : Type} {R : α → β → Prop} {xs : List α} {ys : List β}
    (related : List.Forall₂ R xs ys) {x : α} (member : x ∈ xs) : ∃ y ∈ ys, R x y := by
  induction related with
  | nil => cases member
  | cons head _ ih =>
    rcases List.mem_cons.mp member with rfl | inside
    · exact ⟨_, by simp, head⟩
    · obtain ⟨y, present, related⟩ := ih inside
      exact ⟨y, List.mem_cons_of_mem _ present, related⟩

theorem mem_joinsInScope {ids : List String} {js : List Join} {scope : List String × Join}
    (member : scope ∈ joinsInScope ids js) :
    ∃ before after, js = before ++ scope.2 :: after ∧
      scope.1 = ids ++ before.map fun j => relationId j.relation := by
  induction js generalizing ids with
  | nil => cases member
  | cons j rest ih =>
    rcases List.mem_cons.mp member with rfl | inside
    · exact ⟨[], rest, rfl, by simp⟩
    · obtain ⟨before, after, split, reached⟩ := ih inside
      exact ⟨j :: before, after, by rw [split]; rfl, by rw [reached]; simp⟩

theorem sourceIds_eq (s : Source) :
    sourceIds s = relationId s.relation :: s.joins.map fun j => relationId j.relation := by
  simp [sourceIds, sourceRelations, Function.comp_def]

theorem sourceIds_split {s : Source} {scope : List String × Join} (member : scope ∈ scopedJoins s) :
    ∃ later, sourceIds s = scope.1 ++ relationId scope.2.relation :: later := by
  obtain ⟨before, after, split, reached⟩ := mem_joinsInScope member
  refine ⟨after.map fun j => relationId j.relation, ?_⟩
  rw [sourceIds_eq, split, reached]
  simp

theorem sourceEdges_map (s : Source) :
    (sourceEdges s).map (fun e => (e.target, e.kind)) =
      s.joins.map fun j => (relationId j.relation, joinKind j.operator) := by
  rw [sourceEdges]
  generalize relationId s.relation = preceding
  induction s.joins generalizing preceding with
  | nil => rfl
  | cons j rest ih =>
    rw [joinEdges, List.map_cons, List.map_cons, ih]
    rfl

theorem edges_map (sources : List Source) :
    (sources.flatMap sourceEdges).map (fun e => (e.target, e.kind)) =
      (sources.flatMap (·.joins)).map fun j => (relationId j.relation, joinKind j.operator) := by
  rw [List.map_flatMap, List.map_flatMap]
  congr 1
  funext source
  exact sourceEdges_map source

theorem filterMap_drawn {rs : List Sql.Relation}
    (plain : ∀ r ∈ rs, ∃ parts extras alias?, r = .table parts extras alias?) :
    List.Forall₂ (fun r n => r.DrawnAs n ∧ relationId r = n.id) rs (rs.filterMap tableNode?) := by
  induction rs with
  | nil => exact .nil
  | cons r rest ih =>
    obtain ⟨parts, extras, alias?, rfl⟩ := plain r (by simp)
    have later := ih fun other member => plain other (List.mem_cons_of_mem _ member)
    exact .cons ⟨tableNode_eq_some_iff.mp rfl, relationId_eq_id rfl⟩ later

theorem ids_of_drawn {rs : List Sql.Relation} {nodes : List Node}
    (drawn : List.Forall₂ (fun r n => r.DrawnAs n ∧ relationId r = n.id) rs nodes) :
    nodes.map Node.id = rs.map relationId := by
  induction drawn with
  | nil => rfl
  | cons head _ ih => rw [List.map_cons, List.map_cons, head.2, ih]

theorem relations_ids (s : Select) :
    (relations s).map relationId = s.sources.flatMap sourceIds := by
  rw [relations, List.map_flatMap]
  rfl

theorem definitions_of_named {q : Query} (named : ∀ name ∈ definedNames q, name ≠ "") :
    (((Statement.query q).with?).map definitions).getD [] =
      (definedNames q).map fun name => Node.cte name false := by
  have given : (Statement.query q).with? = q.withClause := rfl
  rw [given]
  cases found : q.withClause with
  | none => simp [definedNames, found]
  | some w =>
    have same : definedNames q = w.definitions.map (·.heading.name.value) := by
      simp [definedNames, found]
    rw [same] at named ⊢
    rw [Option.map_some, Option.getD_some, definitions, List.map_map]
    apply List.map_congr_left
    intro d member
    have filled := named d.heading.name.value (List.mem_map.mpr ⟨d, member, rfl⟩)
    have notEmpty : d.heading.name.value.isEmpty = false := by simpa using filled
    simp [definitionName, nonEmpty, notEmpty]

theorem joinEdges_connected (g : Graph) (root : String) (ids : List String) (preceding : String)
    (js : List Join) (drawn : List.Forall₂ Draws (joinEdges preceding js) (joinsInScope ids js))
    (kept : ∀ e ∈ joinEdges preceding js, e ∈ g.edges)
    (reached : ∀ id ∈ ids, g.Connected root id) :
    ∀ id ∈ ids ++ js.map (fun j => relationId j.relation), g.Connected root id := by
  induction js generalizing ids preceding with
  | nil => simpa using reached
  | cons j rest ih =>
    rw [joinEdges, joinsInScope] at drawn
    rw [joinEdges] at kept
    obtain ⟨head, tail⟩ := List.forall₂_cons.mp drawn
    have step : g.Connected root (relationId j.relation) :=
      .trans _ _ _ (reached _ head.1)
        (.rel _ _ ⟨joinEdge preceding j, kept _ (by simp), rfl, head.2.1⟩)
    have extended : ∀ id ∈ ids ++ [relationId j.relation], g.Connected root id := by
      intro id member
      rcases List.mem_append.mp member with old | new
      · exact reached id old
      · rw [List.mem_singleton.mp new]
        exact step
    have later := ih _ _ tail (fun e inside => kept e (List.mem_cons_of_mem _ inside)) extended
    simpa using later

theorem sourceIds_connected {g : Graph} {s : Source}
    (drawn : List.Forall₂ Draws (sourceEdges s) (scopedJoins s))
    (kept : ∀ e ∈ sourceEdges s, e ∈ g.edges) {a b : String}
    (first : a ∈ sourceIds s) (second : b ∈ sourceIds s) : g.Connected a b := by
  have reached := joinEdges_connected g (relationId s.relation) _ _ s.joins drawn kept
    (fun id member => by rw [List.mem_singleton.mp member]; exact .refl _)
  rw [List.singleton_append, ← sourceIds_eq] at reached
  exact .trans _ _ _ (.symm _ _ (reached a first)) (reached b second)

namespace WellScoped

variable {q : Query} {s : Select}

theorem drawn (h : WellScoped q s) :
    List.Forall₂ Draws (edges s) (s.sources.flatMap scopedJoins) :=
  edges_draw s.sources h.looksBack

theorem sources_disjoint (h : WellScoped q s) {first second : Source} {id : String}
    (left : first ∈ s.sources) (right : second ∈ s.sources) (inFirst : id ∈ sourceIds first)
    (inSecond : id ∈ sourceIds second) : first = second := by
  have distinct := h.distinct
  rw [relations_ids, List.nodup_flatMap] at distinct
  have symmetric : Std.Symm (Function.onFun List.Disjoint sourceIds) :=
    ⟨fun _ _ apart _ inRight inLeft => apart inLeft inRight⟩
  by_contra different
  have apart := distinct.2.forall left right different
  exact apart inFirst inSecond

theorem edge_ends (h : WellScoped q s) {e : Edge} (member : e ∈ edges s) :
    ∃ source ∈ s.sources, e.source ∈ sourceIds source ∧ e.target ∈ sourceIds source ∧
      e.source ≠ e.target := by
  obtain ⟨scope, inside, sourceBefore, target, -⟩ := forall₂_mem_left h.drawn member
  obtain ⟨source, present, joined⟩ := List.mem_flatMap.mp inside
  obtain ⟨later, split⟩ := sourceIds_split joined
  have distinct := h.distinct
  rw [relations_ids, List.nodup_flatMap] at distinct
  have apart := distinct.1 source present
  rw [split, List.nodup_append] at apart
  refine ⟨source, present, ?_, ?_, ?_⟩
  · rw [split]
    exact List.mem_append_left _ sourceBefore
  · rw [split, target]
    simp
  · rw [target]
    exact apart.2.2 _ sourceBefore _ (by simp)

theorem tables_ids (h : WellScoped q s) :
    (tables s).map Node.id = (relations s).map relationId :=
  ids_of_drawn (filterMap_drawn h.plain)

theorem nodes_distinct (h : WellScoped q s) :
    ((tables s ++ (definedNames q).map fun name => Node.cte name false).map Node.id).Nodup := by
  rw [List.map_append, h.tables_ids, List.map_map, List.nodup_append]
  refine ⟨h.distinct, ?_, ?_⟩
  · apply h.namesDistinct.map
    intro first second same
    exact (String.append_right_inj _).mp same
  · intro id isTable other isDefinition
    obtain ⟨r, member, rfl⟩ := List.mem_map.mp isTable
    obtain ⟨name, defined, rfl⟩ := List.mem_map.mp isDefinition
    exact h.apart name defined r member

theorem assembled (h : WellScoped q s) :
    (Registry.standard.assemble (.query q)).result =
      .ok ⟨tables s ++ (definedNames q).map fun name => Node.cte name false, edges s⟩ := by
  have select : (Statement.query q).select? = some s := by
    change q.body.select? = some s
    rw [h.body]
    rfl
  rw [Registry.standard_assemble select, definitions_of_named h.named,
    Graph.ofParts_distinct _ _ h.nodes_distinct]

theorem no_dangling (h : WellScoped q s) (definitions : List Node) :
    (Graph.mk (tables s ++ definitions) (edges s)).dangling = [] := by
  have known : ∀ source ∈ s.sources, ∀ id ∈ sourceIds source,
      id ∈ (Graph.mk (tables s ++ definitions) (edges s)).ids := by
    intro source member id inside
    rw [Graph.ids, List.map_append, h.tables_ids, relations_ids]
    exact List.mem_append_left _ (List.mem_flatMap.mpr ⟨source, member, inside⟩)
  rw [Graph.dangling, List.filter_eq_nil_iff]
  intro e member
  obtain ⟨source, present, first, second, -⟩ := h.edge_ends member
  simp [known source present _ first, known source present _ second]

theorem connected_iff (h : WellScoped q s) {g : Graph} (drawn : g.edges = edges s) (a b : String) :
    g.Connected a b ↔
      a = b ∨ ∃ source ∈ s.sources, a ∈ sourceIds source ∧ b ∈ sourceIds source := by
  constructor
  · intro path
    induction path with
    | rel a b step =>
      obtain ⟨e, member, rfl, rfl⟩ := step
      rw [drawn] at member
      obtain ⟨source, present, first, second, -⟩ := h.edge_ends member
      exact .inr ⟨source, present, first, second⟩
    | refl a => exact .inl rfl
    | symm a b _ ih =>
      rcases ih with rfl | ⟨source, present, first, second⟩
      · exact .inl rfl
      · exact .inr ⟨source, present, second, first⟩
    | trans a b c _ _ left right =>
      rcases left with rfl | ⟨source, present, first, second⟩
      · exact right
      · rcases right with rfl | ⟨other, otherPresent, third, fourth⟩
        · exact .inr ⟨source, present, first, second⟩
        · -- Both halves of the path meet in one id, and no id stands in two FROM items.
          have same := h.sources_disjoint present otherPresent second third
          subst other
          exact .inr ⟨source, present, first, fourth⟩
  · rintro (rfl | ⟨source, present, first, second⟩)
    · exact .refl _
    · have kept : ∀ e ∈ sourceEdges source, e ∈ g.edges := by
        intro e member
        rw [drawn]
        exact List.mem_flatMap.mpr ⟨source, present, member⟩
      exact sourceIds_connected (sourceEdges_draw (h.looksBack source present)) kept first second

end WellScoped

/-- The diagram of a well-scoped SELECT: its tables in order and the defined queries after them,
    one edge for each join that leads forward within its FROM item, and the FROM items as connected
    components. Edges refer to the tables by the ids of their nodes. -/
theorem assemble_wellScoped {q : Query} {s : Select} (h : WellScoped q s) :
    ∃ g tables, (Registry.standard.assemble (.query q)).result = .ok g ∧
      g.nodes = tables ++ (definedNames q).map (fun name => .defined ("cte_" ++ name) name false) ∧
      List.Forall₂ (fun r n => r.DrawnAs n ∧ relationId r = n.id) (relations s) tables ∧
      g.edges.map (fun e => (e.target, e.kind)) =
        (s.sources.flatMap (·.joins)).map
          (fun j => (relationId j.relation, joinKind j.operator)) ∧
      List.Forall₂ Draws g.edges (s.sources.flatMap scopedJoins) ∧
      (∀ e ∈ g.edges, e.source ≠ e.target) ∧
      g.dangling = [] ∧
      ∀ a b, g.Connected a b ↔
        a = b ∨ ∃ source ∈ s.sources, a ∈ sourceIds source ∧ b ∈ sourceIds source := by
  refine ⟨_, tables s, h.assembled, rfl, filterMap_drawn h.plain, edges_map s.sources, h.drawn, ?_,
    h.no_dangling _, h.connected_iff rfl⟩
  intro e member
  obtain ⟨_, _, _, _, different⟩ := h.edge_ends member
  exact different

def namedTable (name shortName : String) : Sql.Relation :=
  .table [⟨name, none⟩] .empty (some ⟨⟨shortName, none⟩, []⟩)

def unnamedTable (parts : List String) : Sql.Relation :=
  .table (parts.map fun part => ⟨part, none⟩) .empty none

def onSameId (left right : String) : Sql.JoinConstraint :=
  .condition (.binary (.name [⟨left, none⟩, ⟨"id", none⟩]) "="
    (.name [⟨right, none⟩, ⟨"id", none⟩]))

def ordersOfCustomer : Sql.JoinConstraint :=
  .condition (.binary (.name [⟨"shop", none⟩, ⟨"orders", none⟩, ⟨"owner", none⟩]) "="
    (.name [⟨"c", none⟩, ⟨"id", none⟩]))

def ordersSelect : Select where
  quantifier := ⟨[]⟩
  projection := []
  target := ⟨[]⟩
  sources := [
    ⟨unnamedTable ["shop", "orders"],
      [⟨false, .inner ordersOfCustomer, namedTable "customers" "c"⟩,
        ⟨false, .leftOuter (onSameId "r" "c"), namedTable "recent" "r"⟩]⟩,
    ⟨unnamedTable ["regions"],
      [⟨false, .cross, unnamedTable ["main", "colors"]⟩,
        ⟨false, .rightOuter (onSameId "regions" "s"), namedTable "sizes" "s"⟩,
        ⟨false, .fullOuter .natural, unnamedTable ["shapes"]⟩]⟩]
  tail := ⟨[]⟩

def ordersQuery : Query where
  withClause := some ⟨false,
    [⟨⟨⟨"recent", none⟩, []⟩, ⟨none, .table "orders", ⟨[]⟩⟩, none⟩]⟩
  body := .select ordersSelect
  tail := ⟨[]⟩

theorem assemble_wellScoped_orders :
    WellScoped ordersQuery ordersSelect ∧
      ∃ g, (Registry.standard.assemble (.query ordersQuery)).result = .ok g ∧
        g.ids =
          ["shop.orders", "c", "r", "regions", "main.colors", "s", "shapes", "cte_recent"] ∧
        g.edges.map (fun e => (e.target, e.kind)) = [("c", .inner), ("r", .left),
          ("main.colors", .cross), ("s", .right), ("shapes", .full)] ∧
        g.dangling = [] ∧ g.Connected "shop.orders" "r" ∧
        ¬ g.Connected "shop.orders" "main.colors" := by
  have scope : WellScoped ordersQuery ordersSelect :=
    { body := rfl
      plain := by simp [relations, sourceRelations, ordersSelect, namedTable, unnamedTable]
      distinct := by decide +kernel
      looksBack := by decide +kernel
      named := by decide +kernel
      namesDistinct := by decide +kernel
      apart := by decide +kernel }
  obtain ⟨g, tables, assembled, nodes, drawn, edges, -, -, noneDangling, connected⟩ :=
    assemble_wellScoped scope
  refine ⟨scope, g, assembled, ?_, ?_, noneDangling, ?_, ?_⟩
  · rw [Graph.ids, nodes, List.map_append, ids_of_drawn drawn]
    decide +kernel
  · rw [edges]
    decide +kernel
  · rw [connected]
    decide +kernel
  · rw [connected]
    decide +kernel

end Extraction

end JoinDiagram
