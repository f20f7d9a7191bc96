import JoinDiagram.Proofs.Extraction.Placement
import JoinDiagram.Proofs.Wire.Columns

namespace JoinDiagram

open Sql (Select Source Statement)

section Separator

variable {rest other : List Char}

theorem separator_front_iff {front : List Char} :
    '_' :: '_' :: rest = front ++ '_' :: '_' :: other ↔
      (front = [] ∧ rest = other) ∨ (front = ['_'] ∧ rest = '_' :: other) ∨
        ∃ middle, front = '_' :: '_' :: middle ∧ rest = middle ++ '_' :: '_' :: other := by
  constructor
  · intro same
    match front with
    | [] =>
      simp only [List.nil_append, List.cons.injEq, true_and] at same
      exact .inl ⟨rfl, same⟩
    | [c] =>
      simp only [List.singleton_append, List.cons.injEq] at same
      obtain ⟨rfl, -, shared⟩ := same
      exact .inr (.inl ⟨rfl, shared⟩)
    | c :: d :: middle =>
      simp only [List.cons_append, List.cons.injEq] at same
      obtain ⟨rfl, rfl, apart⟩ := same
      exact .inr (.inr ⟨middle, rfl, apart⟩)
  · rintro (⟨rfl, rfl⟩ | ⟨rfl, rfl⟩ | ⟨middle, rfl, rfl⟩)
    · rfl
    · rfl
    · rfl

end Separator

namespace Edge

/-- The ids of two edges read the same, but the separator of the second stands further right: over the
    end of the first edge's separator, or behind it. -/
def Overlaps (e f : Edge) : Prop :=
  (f.source = e.source ++ "_" ∧ e.target = "_" ++ f.target) ∨
    ∃ middle, f.source = e.source ++ "__" ++ middle ∧ e.target = middle ++ "__" ++ f.target

theorem overlaps_iff (e f : Edge) :
    e.Overlaps f ↔ ∃ front, front ≠ [] ∧ f.source.toList = e.source.toList ++ front ∧
      '_' :: '_' :: e.target.toList = front ++ '_' :: '_' :: f.target.toList := by
  constructor
  · rintro (⟨source, target⟩ | ⟨middle, source, target⟩)
    · exact ⟨['_'], by simp, by simp [source], by simp [target]⟩
    · exact ⟨'_' :: '_' :: middle.toList, by simp, by simp [source], by simp [target]⟩
  · rintro ⟨front, filled, source, same⟩
    rcases separator_front_iff.mp same with ⟨rfl, -⟩ | ⟨rfl, target⟩ | ⟨middle, rfl, target⟩
    · exact absurd rfl filled
    · left
      rw [← String.toList_inj, ← String.toList_inj]
      exact ⟨by simp [source], by simp [target]⟩
    · refine .inr ⟨String.ofList middle, ?_⟩
      rw [← String.toList_inj, ← String.toList_inj]
      exact ⟨by simp [source], by simp [target]⟩

theorem not_overlaps_self (e : Edge) : ¬ e.Overlaps e := by
  rw [overlaps_iff]
  rintro ⟨front, filled, source, -⟩
  exact filled (List.self_eq_append_right.mp source)

theorem ends_or_overlaps {e f : Edge} {front : List Char}
    (source : f.source.toList = e.source.toList ++ front)
    (target : '_' :: '_' :: e.target.toList = front ++ '_' :: '_' :: f.target.toList) :
    (e.source = f.source ∧ e.target = f.target) ∨ e.Overlaps f := by
  by_cases filled : front = []
  · subst filled
    simp only [List.nil_append, List.cons.injEq, true_and] at target
    rw [List.append_nil] at source
    exact .inl ⟨String.toList_inj.mp source.symm, String.toList_inj.mp target⟩
  · exact .inr ((overlaps_iff e f).mpr ⟨front, filled, source, target⟩)

theorem view_id_eq_iff (e f : Edge) :
    e.view.id = f.view.id ↔
      (e.source = f.source ∧ e.target = f.target) ∨ e.Overlaps f ∨ f.Overlaps e := by
  have spelled : ∀ e : Edge, e.view.id.toList = e.source.toList ++ '_' :: '_' :: e.target.toList := by
    intro e
    simp [view]
  rw [← String.toList_inj, spelled, spelled]
  constructor
  · intro same
    rcases List.append_eq_append_iff.mp same with ⟨front, source, target⟩ | ⟨front, source, target⟩
    · exact (ends_or_overlaps source target).imp_right .inl
    · exact (ends_or_overlaps source target).imp (fun ends => ⟨ends.1.symm, ends.2.symm⟩) .inr
  · rw [overlaps_iff, overlaps_iff]
    rintro (⟨source, target⟩ | ⟨front, -, source, target⟩ | ⟨front, -, source, target⟩)
    · rw [source, target]
    · rw [source, target, List.append_assoc]
    · rw [source, target, List.append_assoc]

theorem view_ids_nodup_iff {es : List Edge} (targets : (es.map (·.target)).Nodup) :
    (es.map fun e => e.view.id).Nodup ↔ ∀ e ∈ es, ∀ f ∈ es, ¬ e.Overlaps f := by
  rw [List.nodup_map_iff_inj_on (targets.of_map _)]
  constructor
  · intro injective e member f other overlaps
    have same := injective e member f other ((e.view_id_eq_iff f).mpr (.inr (.inl overlaps)))
    rw [same] at overlaps
    exact f.not_overlaps_self overlaps
  · intro clear e member f other same
    rcases (e.view_id_eq_iff f).mp same with ends | overlaps | overlaps
    · exact List.inj_on_of_nodup_map targets member other ends.2
    · exact absurd overlaps (clear e member f other)
    · exact absurd overlaps (clear f other e member)

end Edge

namespace Extraction

theorem sourceTargets_sublist (s : Source) :
    ((sourceEdges s).map (·.target)).Sublist (sourceIds s) := by
  have targets := congrArg (List.map Prod.fst) (sourceEdges_map s)
  rw [List.map_map, List.map_map] at targets
  have joined : (sourceEdges s).map (·.target) = s.joins.map fun j => relationId j.relation :=
    targets
  rw [joined, sourceIds_eq]
  exact List.sublist_cons_self _ _

theorem targets_sublist (s : Select) :
    ((edges s).map (·.target)).Sublist ((relations s).map relationId) := by
  rw [relations_ids, edges, List.map_flatMap]
  induction s.sources with
  | nil => exact List.Sublist.slnil
  | cons source rest ih => exact (sourceTargets_sublist source).append ih

def Resolved (s : Select) : Prop :=
  ∀ place ∈ places s, ∀ reference ∈ Condition.references (joinCondition place.2.operator),
    reference ∈ (relations s).map relationId

instance (s : Select) : Decidable (Resolved s) :=
  inferInstanceAs (Decidable (∀ place ∈ places s,
    ∀ reference ∈ Condition.references (joinCondition place.2.operator),
      reference ∈ (relations s).map relationId))

theorem Resolved.ends {s : Select} (resolved : Resolved s) {e : Edge} (member : e ∈ edges s) :
    e.source ∈ (relations s).map relationId ∧ e.target ∈ (relations s).map relationId := by
  obtain ⟨place, present, stands⟩ := forall₂_mem_left (edges_standFor s) member
  obtain ⟨before, joined⟩ := relations_of_place present
  constructor
  · rw [stands.source]
    cases named : namedSource? place.2 with
    | none => exact List.mem_map.mpr ⟨_, before, rfl⟩
    | some reference => exact resolved place present _ (List.mem_of_find?_eq_some named)
  · rw [stands.target]
    exact List.mem_map.mpr ⟨_, joined, rfl⟩

/-- Ids that never blur the separator between them: it stands in none of them, and they do not begin
    with its character, or do not end with it. -/
structure Separable (ids : List String) : Prop where
  whole : ∀ id ∈ ids, ¬ ['_', '_'] <:+: id.toList
  ends : (∀ id ∈ ids, id.toList.head? ≠ some '_') ∨ ∀ id ∈ ids, id.toList.getLast? ≠ some '_'

theorem Separable.not_overlaps {ids : List String} (separable : Separable ids) {e f : Edge}
    (source : f.source ∈ ids) (target : e.target ∈ ids) : ¬ e.Overlaps f := by
  rintro (⟨longer, later⟩ | ⟨middle, longer, -⟩)
  · rcases separable.ends with heads | lasts
    · exact heads _ target (by simp [later])
    · exact lasts _ source (by simp [longer])
  · exact separable.whole _ source ⟨e.source.toList, middle.toList, by simp [longer]⟩

end Extraction

open Extraction

/-- In the diagram of a plain SELECT whose relations have different ids, no two edges have the same
    ends, and two with different ends have one id exactly if they overlap. The ids all differ where
    no two edges overlap, and so they do where the ids of the relations keep clear of the separator. -/
theorem edgeIds_nodup_iff {s : Statement} {select : Select} (isSelect : s.select? = some select)
    (distinct : ((relations select).map relationId).Nodup) :
    ∃ g, (Registry.standard.assemble s).result = .ok g ∧
      (g.view.edges.map fun e => (e.source, e.target)).Nodup ∧
      (∀ e ∈ g.edges, ∀ f ∈ g.edges, (e.source, e.target) ≠ (f.source, f.target) →
        (e.view.id = f.view.id ↔ e.Overlaps f ∨ f.Overlaps e)) ∧
      ((g.view.edges.map (·.id)).Nodup ↔ ∀ e ∈ g.edges, ∀ f ∈ g.edges, ¬ e.Overlaps f) ∧
      (Resolved select → Separable ((relations select).map relationId) →
        (g.view.edges.map (·.id)).Nodup) := by
  have targets : ((edges select).map (·.target)).Nodup := distinct.sublist (targets_sublist select)
  have ids := Edge.view_ids_nodup_iff targets
  refine ⟨_, Registry.standard_assemble isSelect, ?_⟩
  rw [Graph.view_edges, Graph.ofParts_eq, List.map_map, List.map_map]
  refine ⟨?_, ?_, ids, ?_⟩
  · refine List.Nodup.of_map Prod.snd ?_
    rw [List.map_map]
    exact targets
  · intro e _ f _ different
    rw [e.view_id_eq_iff f]
    exact or_iff_right fun ends => different (Prod.ext ends.1 ends.2)
  · intro resolved separable
    refine ids.mpr ?_
    intro e member f other
    exact separable.not_overlaps (resolved.ends other).1 (resolved.ends member).2

def joinedTables (first second third fourth : String) : Select where
  quantifier := ⟨[]⟩
  projection := []
  target := ⟨[]⟩
  sources := [
    ⟨namedTable "orders" first,
      [⟨false, .inner (onSameId first second), namedTable "items" second⟩]⟩,
    ⟨namedTable "offers" third,
      [⟨false, .leftOuter (onSameId third fourth), namedTable "codes" fourth⟩]⟩]
  tail := ⟨[]⟩

theorem edgeIds_nodup_iff_separable :
    (Statement.query ⟨none, .select (joinedTables "o_1" "i_" "f" "c_2"), ⟨[]⟩⟩).select? =
        some (joinedTables "o_1" "i_" "f" "c_2") ∧
      ((relations (joinedTables "o_1" "i_" "f" "c_2")).map relationId).Nodup ∧
      Resolved (joinedTables "o_1" "i_" "f" "c_2") ∧
      Separable ((relations (joinedTables "o_1" "i_" "f" "c_2")).map relationId) ∧
      ∃ g, (Registry.standard.assemble
          (.query ⟨none, .select (joinedTables "o_1" "i_" "f" "c_2"), ⟨[]⟩⟩)).result = .ok g ∧
        (g.view.edges.map (·.id)).Nodup ∧ ∀ e ∈ g.edges, ∀ f ∈ g.edges, ¬ e.Overlaps f := by
  have select : (Statement.query
      ⟨none, .select (joinedTables "o_1" "i_" "f" "c_2"), ⟨[]⟩⟩).select? =
      some (joinedTables "o_1" "i_" "f" "c_2") := rfl
  have distinct : ((relations (joinedTables "o_1" "i_" "f" "c_2")).map relationId).Nodup := by
    decide +kernel
  have resolved : Resolved (joinedTables "o_1" "i_" "f" "c_2") := by decide +kernel
  have separable : Separable ((relations (joinedTables "o_1" "i_" "f" "c_2")).map relationId) :=
    ⟨by decide +kernel, .inl (by decide +kernel)⟩
  obtain ⟨g, assembled, -, -, clear, apart⟩ := edgeIds_nodup_iff select distinct
  have ids := apart resolved separable
  exact ⟨select, distinct, resolved, separable, g, assembled, ids, clear.mp ids⟩

theorem edgeIds_shared :
    ((edges (joinedTables "a" "b__c" "a__b" "c")).map fun e => (e.source, e.target, e.view.id)) =
        [("a", "b__c", "a__b__c"), ("a__b", "c", "a__b__c")] ∧
      ¬ ∀ (s : Statement) (select : Select), s.select? = some select →
        (∀ r ∈ relations select, (tableNode? r).isSome) →
        ((relations select).map relationId).Nodup → Resolved select →
        ∀ g, (Registry.standard.assemble s).result = .ok g → (g.view.edges.map (·.id)).Nodup := by
  refine ⟨by decide +kernel, ?_⟩
  intro apart
  have select : (Statement.query
      ⟨none, .select (joinedTables "a" "b__c" "a__b" "c"), ⟨[]⟩⟩).select? =
      some (joinedTables "a" "b__c" "a__b" "c") := rfl
  have ids := apart _ _ select (by decide +kernel) (by decide +kernel) (by decide +kernel) _
    (Registry.standard_assemble select)
  rw [Graph.view_edges, Graph.ofParts_eq] at ids
  exact absurd ids (by decide +kernel)

end JoinDiagram
