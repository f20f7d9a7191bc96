import JoinDiagram.Proofs.Analysis.Limits
import JoinDiagram.Proofs.Condition.Comparison
import JoinDiagram.Proofs.Diagram.Diagnostics
import JoinDiagram.Proofs.Extraction.Assembly
import JoinDiagram.Proofs.Text.CharClass
import JoinDiagram.Sample.Query

namespace JoinDiagram.Sample

open Condition (ComparisonChain NamePart QualifiedName isNameChar)
open Sql (DottedName Join Relation Source Statement)

def tableName (i : Nat) : String := "t" ++ toString i

def keyName (i : Nat) : String := tableName i ++ "_id"

def chainCondition (i : Nat) : String :=
  tableName i ++ ".id = " ++ tableName (i + 1) ++ "." ++ keyName i

theorem chainJoin_eq (i : Nat) :
    chainJoin i = " JOIN " ++ tableName (i + 1) ++ " ON " ++ chainCondition i := by
  have written : chainJoin i = " JOIN t" ++ toString (i + 1) ++ " ON t" ++ toString i ++
      ".id = t" ++ toString (i + 1) ++ ".t" ++ toString i ++ "_id" := rfl
  rw [written, ← String.toList_inj]
  simp [chainCondition, keyName, tableName]

section Names

theorem tableName_toList (i : Nat) : (tableName i).toList = 't' :: Nat.toDigits 10 i := by
  rw [tableName, String.toList_append, Nat.toString_eq_ofList_toDigits, String.toList_ofList,
    String.toList_ofList, List.singleton_append]

theorem tableName_injective : Function.Injective tableName := by
  intro i j same
  have texts := congrArg String.toList same
  rw [tableName_toList, tableName_toList, List.cons.injEq] at texts
  have numbers := congrArg (fun digits => Nat.ofDigitChars 10 digits 0) texts.2
  simpa only [Nat.ofDigitChars_ten_toDigits] using numbers

theorem keyName_ne_id (i : Nat) : keyName i ≠ "id" := by
  intro same
  have first := congrArg (fun s : String => s.toList.head?) same
  simp [keyName, tableName_toList] at first

theorem named_of_digit {n : Nat} {c : Char} (member : c ∈ Nat.toDigits 10 n) : isNameChar c := by
  have digit := Text.isDecimalDigit_of_isAsciiDigit (Text.isAsciiDigit_of_mem_toDigits member)
  simp [isNameChar, Text.isAlphanumeric, Text.isNumeric, digit]

def tablePart (i : Nat) : NamePart where
  word := 't' :: Nat.toDigits 10 i
  filled := List.cons_ne_nil _ _
  named := by
    intro c member
    rcases List.mem_cons.mp member with rfl | digit
    · decide
    · exact named_of_digit digit

def keyPart (i : Nat) : NamePart where
  word := 't' :: Nat.toDigits 10 i ++ ['_', 'i', 'd']
  filled := List.cons_ne_nil _ _
  named := by
    intro c member
    rcases List.mem_append.mp member with table | ending
    · exact (tablePart i).named c table
    · have letters : ∀ d ∈ ['_', 'i', 'd'], isNameChar d := by decide
      exact letters c ending

def columnName (i : Nat) (field : NamePart) : QualifiedName where
  first := tablePart i
  field := field
  digitless := rfl

theorem columnName_relation (i : Nat) (field : NamePart) :
    (columnName i field).relation = tableName i := by
  rw [QualifiedName.relation, QualifiedName.relationChars, ← String.toList_inj,
    String.toList_ofList, tableName_toList]
  exact List.append_nil _

theorem keyPart_name (i : Nat) : String.ofList (keyPart i).word = keyName i := by
  rw [← String.toList_inj, String.toList_ofList, keyName, String.toList_append, tableName_toList]
  rfl

end Names

section Condition

def idPart : NamePart := { word := ['i', 'd'] }

def chainEquality (i : Nat) : ComparisonChain :=
  .ofEquality (columnName i idPart) (columnName (i + 1) (keyPart i))

theorem chainEquality_text (i : Nat) : (chainEquality i).text = chainCondition i := by
  rw [chainEquality, ComparisonChain.ofEquality_text, ← String.toList_inj]
  simp [QualifiedName.text, QualifiedName.relationText, columnName, NamePart.text, idPart,
    tablePart, keyPart, Condition.Quotation.wrap, chainCondition, keyName, tableName_toList]

theorem chainCondition_columns (i : Nat) :
    Condition.columns (chainCondition i) =
      [(tableName i, "id"), (tableName (i + 1), keyName i)] := by
  rw [← chainEquality_text, chainEquality, ComparisonChain.ofEquality_columns,
    QualifiedName.column, QualifiedName.column, columnName_relation, columnName_relation,
    ← keyPart_name]
  rfl

theorem chainCondition_source (i : Nat) (default : String) :
    Condition.inferSource (chainCondition i) (tableName (i + 1)) default = tableName i := by
  have different : tableName i ≠ tableName (i + 1) := fun same =>
    absurd (tableName_injective same) (by omega)
  rw [← columnName_relation i idPart, ← columnName_relation (i + 1) (keyPart i)] at different
  have source := ComparisonChain.ofEquality_source _ _ different default
  rwa [columnName_relation, columnName_relation, ← chainEquality, chainEquality_text] at source

end Condition

def plainTable? : Relation → Option DottedName
  | .table name _ none => some name
  | _ => none

def innerJoin? (j : Join) : Option (DottedName × String) :=
  match j.operator, plainTable? j.relation with
  | .inner (.condition value), some name => some (name, value.render)
  | _, _ => none

structure PlainSource where
  table : Option DottedName
  joins : List (Option (DottedName × String))
deriving DecidableEq

def plainSource (s : Source) : PlainSource := ⟨plainTable? s.relation, s.joins.map innerJoin?⟩

def chainSource (n : Nat) : PlainSource where
  table := some [⟨tableName 0, none⟩]
  joins := (List.range (n - 1)).map fun i => some ([⟨tableName (i + 1), none⟩], chainCondition i)

/-- A plain SELECT from `n` tables, each joined to the one before it by the condition as it is
    written. -/
def IsChain (n : Nat) (s : Statement) : Prop :=
  s.with?.isNone ∧ (s.select?.map fun select => select.sources.map plainSource) = some [chainSource n]

instance (n : Nat) (s : Statement) : Decidable (IsChain n s) := inferInstanceAs (Decidable (_ ∧ _))

/-- The reader takes the text of a chain for what it says. -/
def ReadsChain (reader : Reader) (n : Nat) : Prop :=
  ∃ s, (reader (linearJoinChain n)).2 = .ok s ∧ IsChain n s

def chainNode (i : Nat) : Node := .table (tableName i) none

def chainEdge (i : Nat) : Edge :=
  ⟨tableName i, tableName (i + 1), .inner, chainCondition i, ["id", keyName i]⟩

def chainGraph (n : Nat) : Graph :=
  ⟨(List.range n).map chainNode, (List.range (n - 1)).map chainEdge⟩

section Assembly

open Extraction

theorem plainTable_drawn {r : Relation} {name : String}
    (plain : plainTable? r = some [⟨name, none⟩]) :
    tableNode? r = some (.table name none) ∧ relationId r = name := by
  have value : Sql.dottedValue [⟨name, none⟩] = name := by
    simp [Sql.dottedValue]
  cases r with
  | table path extras alias? =>
    cases alias? with
    | none =>
      cases plain
      exact ⟨by rw [tableNode?, value]; rfl, value⟩
    | some a => cases plain
  | _ => cases plain

theorem innerJoin_drawn {j : Join} {i : Nat}
    (read : innerJoin? j = some ([⟨tableName (i + 1), none⟩], chainCondition i))
    (preceding : String) :
    joinEdge preceding j = chainEdge i ∧ tableNode? j.relation = some (chainNode (i + 1)) := by
  rw [innerJoin?] at read
  split at read
  · rename_i value name inner plain
    rw [Option.some.injEq, Prod.mk.injEq] at read
    obtain ⟨rfl, written⟩ := read
    obtain ⟨node, target⟩ := plainTable_drawn plain
    have condition : joinCondition j.operator = chainCondition i := by
      rw [inner, ← written]
      rfl
    have columns : Condition.edgeColumns (chainCondition i) = ["id", keyName i] := by
      rw [Condition.edgeColumns, chainCondition_columns]
      rfl
    refine ⟨?_, node⟩
    rw [joinEdge, condition, target, chainCondition_source, columns, inner]
    rfl
  · cases read

theorem joinEdges_chain {js : List Join} {numbers : List Nat} (preceding : String)
    (read : js.map innerJoin? =
      numbers.map fun i => some ([⟨tableName (i + 1), none⟩], chainCondition i)) :
    joinEdges preceding js = numbers.map chainEdge ∧
      (js.map (·.relation)).filterMap tableNode? = numbers.map fun i => chainNode (i + 1) := by
  induction js generalizing numbers preceding with
  | nil =>
    obtain rfl := List.map_eq_nil_iff.mp read.symm
    exact ⟨rfl, rfl⟩
  | cons j rest ih =>
    cases numbers with
    | nil => cases read
    | cons i others =>
      rw [List.map_cons, List.map_cons, List.cons.injEq] at read
      obtain ⟨edge, node⟩ := innerJoin_drawn read.1 preceding
      obtain ⟨edges, nodes⟩ := ih (relationId j.relation) read.2
      constructor
      · rw [joinEdges, edge, edges, List.map_cons]
      · rw [List.map_cons, List.filterMap_cons_some node, nodes, List.map_cons]

theorem chainSource_drawn {n : Nat} (tables : 1 ≤ n) {source : Source}
    (read : plainSource source = chainSource n) :
    (sourceRelations source).filterMap tableNode? = (List.range n).map chainNode ∧
      sourceEdges source = (List.range (n - 1)).map chainEdge := by
  have first : plainTable? source.relation = _ := congrArg PlainSource.table read
  have joins : source.joins.map innerJoin? = _ := congrArg PlainSource.joins read
  obtain ⟨edges, nodes⟩ := joinEdges_chain (relationId source.relation) joins
  obtain ⟨later, rfl⟩ : ∃ later, n = later + 1 := ⟨n - 1, by omega⟩
  refine ⟨?_, edges⟩
  rw [sourceRelations, List.filterMap_cons_some (plainTable_drawn first).1, nodes,
    List.range_succ_eq_map, List.map_cons, List.map_map, Nat.add_sub_cancel]
  rfl

theorem chainNodes_nodup (n : Nat) : (((List.range n).map chainNode).map Node.id).Nodup := by
  have ids : ((List.range n).map chainNode).map Node.id = (List.range n).map tableName := by
    rw [List.map_map]
    rfl
  rw [ids]
  exact List.nodup_range.map tableName_injective

theorem assemble_chain {n : Nat} (tables : 1 ≤ n) {s : Statement} (chain : IsChain n s) :
    (Registry.standard.assemble s).result = .ok (chainGraph n) := by
  obtain ⟨undefined, read⟩ := chain
  obtain ⟨select, isSelect, sources⟩ := Option.map_eq_some_iff.mp read
  obtain ⟨source, single, plain⟩ := List.map_eq_singleton_iff.mp sources
  obtain ⟨nodes, edges⟩ := chainSource_drawn tables plain
  have drawnNodes : Extraction.tables select = (List.range n).map chainNode := by
    rw [Extraction.tables, single, List.flatMap_singleton, nodes]
  have drawnEdges : Extraction.edges select = (List.range (n - 1)).map chainEdge := by
    rw [Extraction.edges, single, List.flatMap_singleton, edges]
  rw [Registry.standard_assemble isSelect, Option.isNone_iff_eq_none.mp undefined, drawnNodes,
    drawnEdges, Option.map_none, Option.getD_none, List.append_nil,
    Graph.ofParts_distinct _ _ (chainNodes_nodup n)]
  rfl

end Assembly

section Diagnostics

theorem mem_chain_ids {n : Nat} {id : String} :
    id ∈ (chainGraph n).ids ↔ ∃ i < n, tableName i = id := by
  have ids : (chainGraph n).ids = (List.range n).map tableName := by
    rw [Graph.ids, chainGraph, List.map_map]
    rfl
  simp only [ids, List.mem_map, List.mem_range]

theorem mem_chain_endpoints {n : Nat} {id : String} :
    id ∈ (chainGraph n).endpoints ↔ ∃ i < n - 1, tableName i = id ∨ tableName (i + 1) = id := by
  simp [Graph.endpoints, chainGraph, Edge.ends, chainEdge, eq_comm]

theorem chain_dangling (n : Nat) : (chainGraph n).dangling = [] := by
  rw [Graph.dangling_eq_nil_iff]
  intro id drawn
  obtain ⟨i, bound, rfl | rfl⟩ := mem_chain_endpoints.mp drawn
  · exact mem_chain_ids.mpr ⟨i, by omega, rfl⟩
  · exact mem_chain_ids.mpr ⟨i + 1, by omega, rfl⟩

theorem chain_cartesian_iff {n : Nat} (tables : 1 ≤ n) :
    (chainGraph n).hasLikelyCartesianProduct = true ↔ n = 1 := by
  rw [Graph.hasLikelyCartesianProduct_iff, ne_eq, Graph.isolated_eq_nil_iff]
  constructor
  · intro alone
    by_contra several
    apply alone
    intro id member
    obtain ⟨i, bound, rfl⟩ := mem_chain_ids.mp member
    cases i with
    | zero => exact mem_chain_endpoints.mpr ⟨0, by omega, .inl rfl⟩
    | succ i => exact mem_chain_endpoints.mpr ⟨i, by omega, .inr rfl⟩
  · rintro rfl joined
    obtain ⟨i, none, -⟩ := mem_chain_endpoints.mp (joined (mem_chain_ids.mpr ⟨0, by omega, rfl⟩))
    omega

end Diagnostics

section Columns

def chainColumns (n i : Nat) : List String :=
  (if i = 0 then [] else [keyName (i - 1)]) ++ if i + 1 = n then [] else ["id"]

def conditionColumns (m : Nat) : List (String × String) :=
  (List.range m).flatMap fun i => [(tableName i, "id"), (tableName (i + 1), keyName i)]

theorem columnsOf_conditionColumns (m i : Nat) :
    columnsOf (conditionColumns m) (tableName i) =
      (if i = 0 ∨ m < i then [] else [keyName (i - 1)]) ++ if i < m then ["id"] else [] := by
  induction m with
  | zero =>
    have outside : i = 0 ∨ 0 < i := by omega
    rw [if_pos outside, if_neg (Nat.not_lt_zero i)]
    rfl
  | succ m ih =>
    have longer : conditionColumns (m + 1) =
        (conditionColumns m ++ [(tableName m, "id")]) ++ [(tableName (m + 1), keyName m)] := by
      simp [conditionColumns, List.range_succ]
    have owns : ∀ k, (tableName k == tableName i) = decide (k = i) := by
      intro k
      rw [Bool.eq_iff_iff, beq_iff_eq, decide_eq_true_iff, tableName_injective.eq_iff]
    rw [longer, columnsOf_concat, columnsOf_concat, ih, owns, owns]
    -- Only the last two tables gain a column: `id` comes after the key, the key comes first.
    rcases Nat.lt_trichotomy i m with before | rfl | after
    · have short : i < m + 1 := by omega
      simp [before, before.ne', before.not_gt, short, short.ne', short.not_gt]
    · by_cases first : i = 0
      · simp [first]
      · simp [first, (keyName_ne_id (i - 1)).symm, (Nat.lt_succ_self i).not_gt]
    · by_cases last : i = m + 1
      · simp [last, (Nat.lt_succ_self m).not_gt]
      · have beyond : m + 1 < i := by omega
        simp [after, after.ne, after.not_gt, beyond, beyond.ne, beyond.not_gt]

theorem chain_view_columns (n : Nat) :
    ((chainGraph n).view.nodes.map fun v => (v.id, v.kind, v.columns)) =
      (List.range n).map fun i => (tableName i, .table, chainColumns n i) := by
  have named : ((chainGraph n).edges.flatMap fun e => Condition.columns e.condition) =
      conditionColumns (n - 1) := by
    rw [chainGraph, List.flatMap_map, conditionColumns]
    simp only [chainEdge, chainCondition_columns]
  have nodes : (chainGraph n).nodes = (List.range n).map chainNode := rfl
  rw [Graph.view_nodes, List.map_map, nodes, List.map_map]
  apply List.map_congr_left
  intro i member
  have bound : i < n := List.mem_range.mp member
  have inside : (i = 0 ∨ n - 1 < i) ↔ i = 0 := by omega
  have followed : i < n - 1 ↔ ¬ i + 1 = n := by omega
  have columns : columnsOf (conditionColumns (n - 1)) (tableName i) = chainColumns n i := by
    rw [columnsOf_conditionColumns, chainColumns]
    simp only [inside, followed, ite_not]
  rw [Function.comp_apply, Function.comp_apply, Node.view_id, Node.view_columns,
    NodeColumns.get_ofEdges, named]
  exact congrArg (fun columns => (tableName i, NodeKind.table, columns)) columns

end Columns

theorem linearJoinChain_begins (n : Nat) :
    ∃ rest, (linearJoinChain n).toList = "SELECT * FROM t0".toList ++ rest :=
  ⟨_, String.toList_append⟩

theorem outcome_chain {reader : Reader} {n : Nat} (tables : 1 ≤ n) (read : ReadsChain reader n) :
    Analyzer.outcome reader .standard (linearJoinChain n) = .ok (chainGraph n) := by
  obtain ⟨s, parsed, chain⟩ := read
  obtain ⟨rest, begins⟩ := linearJoinChain_begins n
  have filled : Text.isBlankText (linearJoinChain n) = false := by
    rw [Text.isBlankText, begins]
    rfl
  have query : Check.BeginsQuery (linearJoinChain n) := by
    left
    rw [begins]
    rfl
  rw [Analyzer.outcome, if_neg (by simp [filled]), if_neg (not_not.mpr query), parsed]
  exact assemble_chain tables chain

/-- A chain of `n` tables that is not too long has the diagram that its text suggests: the tables in
    order, an edge from each to the next, and under each table the columns of its own conditions.
    A single table is isolated. -/
theorem linearJoinChain_diagram {n : Nat} (tables : 1 ≤ n) {reader : Reader}
    (read : ReadsChain reader n) {s : Settings}
    (fits : (linearJoinChain n).length ≤ s.maxQueryLength) :
    ∃ g d, ((Analyzer.plugged s reader .standard).graph (linearJoinChain n)).result = .ok g ∧
      (Analyzer.plugged s reader .standard).respond (linearJoinChain n) = .diagram d ∧
      g.nodes = (List.range n).map (fun i => .table (tableName i) none) ∧
      g.edges = (List.range (n - 1)).map chainEdge ∧
      (∀ i, chainJoin i = " JOIN " ++ (chainEdge i).target ++ " ON " ++ (chainEdge i).condition) ∧
      g.dangling = [] ∧ (g.hasLikelyCartesianProduct = true ↔ n = 1) ∧
      (d.nodes.map fun v => (v.id, v.kind, v.columns)) =
        (List.range n).map (fun i => (tableName i, .table, chainColumns n i)) ∧
      d.edges = (List.range (n - 1)).map (fun i => (chainEdge i).view) ∧
      d.warning? =
        if s.complexityWarningThreshold < n then some Analyzer.complexityWarning else none := by
  have outcome := outcome_chain tables read
  have within : ¬ (¬ Text.isBlankText (linearJoinChain n) ∧
      s.maxQueryLength < (linearJoinChain n).length) := fun long => by omega
  have size : (chainGraph n).complexity = n := by
    rw [Graph.complexity, chainGraph, List.length_map, List.length_range]
  have drawn : (Analyzer.plugged s reader .standard).respond (linearJoinChain n) =
      .diagram ((chainGraph n).view.withWarning
        (if (chainGraph n).complexity > s.complexityWarningThreshold then
          some Analyzer.complexityWarning else none)) := by
    rw [Analyzer.respond_limited, if_neg within, outcome]
    rfl
  rw [size] at drawn
  refine ⟨chainGraph n, _, ?_, drawn, rfl, rfl, chainJoin_eq, chain_dangling n,
    chain_cartesian_iff tables, chain_view_columns n, ?_, rfl⟩
  · rw [Analyzer.graph_limited, if_neg within, outcome]
  · have edges : (chainGraph n).view.edges = _ := Graph.view_edges _
    rw [chainGraph, List.map_map] at edges
    exact edges

theorem readsChain_of_any {reader : Reader} {n : Nat}
    (read : (reader (linearJoinChain n)).2.toOption.any (fun s => decide (IsChain n s)) = true) :
    ReadsChain reader n := by
  cases parsed : (reader (linearJoinChain n)).2 with
  | error failure =>
    rw [parsed] at read
    cases read
  | ok s =>
    rw [parsed] at read
    exact ⟨s, parsed, of_decide_eq_true read⟩

theorem linearJoinChain_diagram_three :
    ReadsChain Reader.standard 3 ∧ (linearJoinChain 3).length ≤ 100 ∧
      ∃ g d, ((Analyzer.ofSettings ⟨100, 2⟩).graph (linearJoinChain 3)).result = .ok g ∧
        (Analyzer.ofSettings ⟨100, 2⟩).respond (linearJoinChain 3) = .diagram d ∧
        g.ids = ["t0", "t1", "t2"] ∧ g.dangling = [] ∧ g.hasLikelyCartesianProduct = false ∧
        d.nodes.map NodeView.columns = [["id"], ["t0_id", "id"], ["t1_id"]] ∧
        d.warning? = some "Very complex query detected. Performance may be impacted." := by
  have read : ReadsChain Reader.standard 3 := readsChain_of_any (by decide +kernel)
  have fits : (linearJoinChain 3).length ≤ 100 := by decide +kernel
  obtain ⟨g, d, graph, response, nodes, -, -, dangling, cartesian, columns, -, warned⟩ :=
    linearJoinChain_diagram (by omega) read (s := ⟨100, 2⟩) fits
  refine ⟨read, fits, g, d, graph, response, ?_, dangling, ?_, ?_, ?_⟩
  · rw [Graph.ids, nodes]
    decide
  · rw [← Bool.not_eq_true, cartesian]
    omega
  · have listed := congrArg (List.map fun row => row.2.2) columns
    rw [List.map_map] at listed
    exact listed.trans (by decide)
  · rw [warned]
    rfl

end JoinDiagram.Sample
