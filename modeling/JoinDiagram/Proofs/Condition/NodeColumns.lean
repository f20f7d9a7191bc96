import JoinDiagram.Condition.NodeColumns
import JoinDiagram.Proofs.Condition.References
import Mathlib.Data.List.Induction

namespace JoinDiagram

def columnsOf (pairs : List (String × String)) (node : String) : List String :=
  ((pairs.filter fun pair => pair.1 == node).map (·.2)).eraseDups

theorem mem_columnsOf {pairs : List (String × String)} {node column : String} :
    column ∈ columnsOf pairs node ↔ (node, column) ∈ pairs := by
  simp only [columnsOf, List.mem_eraseDups, List.mem_map, List.mem_filter, beq_iff_eq]
  constructor
  · rintro ⟨⟨owner, name⟩, ⟨member, rfl⟩, rfl⟩
    exact member
  · intro member
    exact ⟨(node, column), ⟨member, rfl⟩, rfl⟩

theorem columnsOf_nodup (pairs : List (String × String)) (node : String) :
    (columnsOf pairs node).Nodup := Condition.eraseDups_nodup _

theorem columnsOf_concat (pairs : List (String × String)) (owner column node : String) :
    columnsOf (pairs ++ [(owner, column)]) node =
      if owner == node then
        if (columnsOf pairs node).contains column then columnsOf pairs node
        else columnsOf pairs node ++ [column]
      else columnsOf pairs node := by
  by_cases same : owner = node
  · have known : (columnsOf pairs node).contains column =
        ((pairs.filter fun pair => pair.1 == node).map (·.2)).contains column := by
      rw [Bool.eq_iff_iff, List.contains_iff_mem, List.contains_iff_mem, columnsOf,
        List.mem_eraseDups]
    rw [if_pos (by simpa using same), known, columnsOf, List.filter_append, List.map_append,
      List.filter_cons_of_pos (by simpa using same)]
    exact Condition.eraseDups_concat _ column
  · simp [columnsOf, List.filter_append, same]

def firstSeen (pairs : List (String × String)) : List String := (pairs.map (·.1)).eraseDups

theorem mem_firstSeen {pairs : List (String × String)} {node : String} :
    node ∈ firstSeen pairs ↔ ∃ column, (node, column) ∈ pairs := by
  rw [firstSeen, List.mem_eraseDups, List.mem_map]
  constructor
  · rintro ⟨⟨owner, column⟩, member, rfl⟩
    exact ⟨column, member⟩
  · rintro ⟨column, member⟩
    exact ⟨(node, column), member, rfl⟩

theorem firstSeen_concat (pairs : List (String × String)) (node column : String) :
    firstSeen (pairs ++ [(node, column)]) =
      if node ∈ firstSeen pairs then firstSeen pairs else firstSeen pairs ++ [node] := by
  have known : (pairs.map (·.1)).contains node = decide (node ∈ firstSeen pairs) := by
    rw [firstSeen, Bool.eq_iff_iff, List.contains_iff_mem, decide_eq_true_iff, List.mem_eraseDups]
  rw [firstSeen, List.map_append, List.map_singleton, Condition.eraseDups_concat, known]
  simp only [decide_eq_true_eq]
  rfl

theorem columnsOf_eq_nil {pairs : List (String × String)} {node : String} :
    columnsOf pairs node = [] ↔ node ∉ firstSeen pairs := by
  rw [mem_firstSeen, List.eq_nil_iff_forall_not_mem, not_exists]
  simp only [mem_columnsOf]

namespace NodeColumns

def recordAll (s : NodeColumns) (pairs : List (String × String)) : NodeColumns :=
  pairs.foldl (fun s pair => s.record pair.1 pair.2) s

structure Follows (s : NodeColumns) (pairs : List (String × String)) : Prop where
  order : s.order = firstSeen pairs
  columns : ∀ node, s.columns.get? node =
    if node ∈ firstSeen pairs then some (columnsOf pairs node) else none

theorem Follows.contains {s : NodeColumns} {pairs : List (String × String)} (h : s.Follows pairs)
    (node : String) : s.columns.contains node = decide (node ∈ firstSeen pairs) := by
  rw [ColumnMap.contains, h.columns]
  by_cases seen : node ∈ firstSeen pairs
  · rw [if_pos seen, decide_eq_true seen, Option.isSome_some]
  · rw [if_neg seen, decide_eq_false seen, Option.isSome_none]

theorem Follows.get {s : NodeColumns} {pairs : List (String × String)} (h : s.Follows pairs)
    (node : String) : s.get node = columnsOf pairs node := by
  rw [NodeColumns.get, h.columns]
  by_cases seen : node ∈ firstSeen pairs
  · rw [if_pos seen, Option.getD_some]
  · rw [if_neg seen, columnsOf_eq_nil.mpr seen, Option.getD_none]

theorem Follows.record {s : NodeColumns} {pairs : List (String × String)} (h : s.Follows pairs)
    (node column : String) : (s.record node column).Follows (pairs ++ [(node, column)]) where
  order := by
    rw [NodeColumns.record, h.contains, h.order, firstSeen_concat]
    simp only [decide_eq_true_eq]
  columns other := by
    have kept := columnsOf_concat pairs node column other
    have stored : (s.columns.get? node).getD [] = columnsOf pairs node := h.get node
    rw [NodeColumns.record, ColumnMap.get?_insert, stored]
    by_cases own : other = node
    · subst own
      have seen : other ∈ firstSeen (pairs ++ [(other, column)]) :=
        mem_firstSeen.mpr ⟨column, List.mem_append_right _ List.mem_cons_self⟩
      rw [beq_self_eq_true, if_pos rfl] at kept
      rw [if_pos rfl, if_pos seen, kept, addColumn]
    · have foreign : (node == other) = false := beq_false_of_ne (Ne.symm own)
      have listed : other ∈ firstSeen (pairs ++ [(node, column)]) ↔ other ∈ firstSeen pairs := by
        simp [mem_firstSeen, own]
      rw [foreign, if_neg (by decide)] at kept
      rw [if_neg own, h.columns, kept]
      simp only [listed]

theorem follows_recordAll (pairs : List (String × String)) :
    (empty.recordAll pairs).Follows pairs := by
  induction pairs using List.reverseRecOn with
  | nil => exact ⟨rfl, fun _ => rfl⟩
  | append_singleton pairs pair ih =>
    have last : empty.recordAll (pairs ++ [pair]) =
        (empty.recordAll pairs).record pair.1 pair.2 := by
      simp [recordAll]
    rw [last]
    exact ih.record pair.1 pair.2

theorem get_recordAll (pairs : List (String × String)) (node : String) :
    (empty.recordAll pairs).get node = columnsOf pairs node := (follows_recordAll pairs).get node

theorem ofEdges_eq (edges : List Edge) :
    ofEdges edges = empty.recordAll (edges.flatMap fun e => Condition.columns e.condition) := by
  rw [recordAll, List.foldl_flatMap]
  rfl

theorem get_ofEdges (edges : List Edge) (node : String) :
    (ofEdges edges).get node =
      columnsOf (edges.flatMap fun e => Condition.columns e.condition) node := by
  rw [ofEdges_eq, get_recordAll]

end NodeColumns

end JoinDiagram
