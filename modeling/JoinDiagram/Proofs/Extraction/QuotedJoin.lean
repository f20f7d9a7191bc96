import JoinDiagram.Proofs.Condition.QuotedName
import JoinDiagram.Proofs.Extraction.Scope

namespace JoinDiagram

open Sql (Join Select Statement)

namespace Graph

theorem mem_ids_ofParts {nodes : List Node} {edges : List Edge} {id : String} :
    id ∈ (ofParts nodes edges).ids ↔ id ∈ nodes.map Node.id := by
  rw [ofParts_eq, ids]
  exact mem_map_firstPer Node.id nodes id

theorem notMem_dangling {g : Graph} {e : Edge} (source : e.source ∈ g.ids)
    (target : e.target ∈ g.ids) : e ∉ g.dangling := by
  simp [dangling, source, target]

end Graph

namespace Extraction

theorem mem_joinEdges {preceding : String} {js : List Join} {e : Edge}
    (member : e ∈ joinEdges preceding js) : ∃ j ∈ js, ∃ before, e = joinEdge before j := by
  induction js generalizing preceding with
  | nil => cases member
  | cons j rest ih =>
    rcases List.mem_cons.mp member with here | later
    · exact ⟨j, by simp, preceding, here⟩
    · obtain ⟨other, present, before, drawn⟩ := ih later
      exact ⟨other, List.mem_cons_of_mem _ present, before, drawn⟩

theorem edge_source {select : Select} {e : Edge} (member : e ∈ edges select) :
    ∃ before, e.source = Condition.inferSource e.condition e.target before := by
  obtain ⟨source, -, inside⟩ := List.mem_flatMap.mp member
  obtain ⟨j, -, before, rfl⟩ := mem_joinEdges inside
  exact ⟨before, rfl⟩

end Extraction

namespace Condition

open Extraction (tables)

/-- A quoted equality names its columns exactly if their names need no quotes. A join of two tables
    on such a condition leads from the one to the other. -/
theorem quotedEquality_resolves_iff {left right : String × String}
    (leftBare : Bare left.1 ∧ Bare left.2) (rightBare : Bare right.1 ∧ Bare right.2)
    (different : left.1 ≠ right.1) :
    (quotedEquality left right).render = quotedText left ++ " = " ++ quotedText right ∧
    (Resolves (quotedEquality left right).render left right ↔ Readable left ∧ Readable right) ∧
    (Readable left → Readable right →
      ∀ (s : Statement) (select : Select), s.select? = some select →
        left.1 ∈ (tables select).map Node.id → right.1 ∈ (tables select).map Node.id →
        ∃ g, (Registry.standard.assemble s).result = .ok g ∧
          ∀ e ∈ g.edges, e.condition = (quotedEquality left right).render → e.target = right.1 →
            e.source = left.1 ∧ e ∉ g.dangling) := by
  refine ⟨quotedEquality_render leftBare rightBare, ?_, ?_⟩
  · constructor
    · intro resolves
      have leftColumn : left ∈ columns (quotedEquality left right).render := by
        simp [resolves.columns]
      have rightColumn : right ∈ columns (quotedEquality left right).render := by
        simp [resolves.columns]
      exact ⟨readable_of_column leftColumn, readable_of_column rightColumn⟩
    · rintro ⟨leftReadable, rightReadable⟩
      exact quotedEquality_resolves leftBare rightBare leftReadable rightReadable different
  · intro leftReadable rightReadable s select isSelect leftDrawn rightDrawn
    have resolves :=
      quotedEquality_resolves leftBare rightBare leftReadable rightReadable different
    refine ⟨_, Registry.standard_assemble isSelect, ?_⟩
    intro e member condition target
    rw [Graph.ofParts_eq] at member
    obtain ⟨before, source⟩ := Extraction.edge_source member
    rw [condition, target, resolves.source] at source
    refine ⟨source, Graph.notMem_dangling ?_ ?_⟩
    · rw [source, Graph.mem_ids_ofParts, List.map_append]
      exact List.mem_append_left _ leftDrawn
    · rw [target, Graph.mem_ids_ofParts, List.map_append]
      exact List.mem_append_left _ rightDrawn

def orderCustomer : String × String := ("o", "customer_id")

def customerId : String × String := ("c", "id")

def customersJoin : Join where
  isGlobal := false
  operator := .inner (.condition (quotedEquality orderCustomer customerId))
  relation := .table [⟨"customers", none⟩] .empty (some ⟨⟨"c", some '"'⟩, []⟩)

def ordersWithCustomers : Select where
  quantifier := ⟨[]⟩
  projection := []
  target := ⟨[]⟩
  sources := [⟨.table [⟨"orders", none⟩] .empty (some ⟨⟨"o", some '"'⟩, []⟩), [customersJoin]⟩]
  tail := ⟨[]⟩

theorem quotedEquality_resolves_iff_orders :
    (Bare orderCustomer.1 ∧ Bare orderCustomer.2) ∧ (Bare customerId.1 ∧ Bare customerId.2) ∧
      orderCustomer.1 ≠ customerId.1 ∧
      Resolves (quotedEquality orderCustomer customerId).render orderCustomer customerId ∧
      ∃ g, (Registry.standard.assemble (.query ⟨none, .select ordersWithCustomers, ⟨[]⟩⟩)).result =
        .ok g ∧ ∃ e ∈ g.edges, e.source = "o" ∧ e.target = "c" ∧ e ∉ g.dangling := by
  have leftBare : Bare orderCustomer.1 ∧ Bare orderCustomer.2 := by decide
  have rightBare : Bare customerId.1 ∧ Bare customerId.2 := by decide
  have different : orderCustomer.1 ≠ customerId.1 := by decide
  have leftReadable : Readable orderCustomer := by decide +kernel
  have rightReadable : Readable customerId := by decide +kernel
  obtain ⟨-, resolves, drawn⟩ := quotedEquality_resolves_iff leftBare rightBare different
  have select : (Statement.query ⟨none, .select ordersWithCustomers, ⟨[]⟩⟩).select? =
      some ordersWithCustomers := rfl
  obtain ⟨g, assembled, ends⟩ := drawn leftReadable rightReadable _ _ select (by decide) (by decide)
  have edges : g.edges = [Extraction.joinEdge "o" customersJoin] := by
    have parts := Registry.standard_assemble select
    rw [assembled, Except.ok.injEq, Graph.ofParts_eq] at parts
    rw [parts]
    rfl
  obtain ⟨source, known⟩ := ends (Extraction.joinEdge "o" customersJoin) (by simp [edges]) rfl rfl
  exact ⟨leftBare, rightBare, different, resolves.mpr ⟨leftReadable, rightReadable⟩, g, assembled,
    _, by simp [edges], source, rfl, known⟩

theorem quotedEquality_cut :
    (quotedEquality ("order items", "id") ("c", "id")).render =
        "\"order items\".\"id\" = \"c\".\"id\"" ∧
      references "\"order items\".\"id\" = \"c\".\"id\"" = ["items", "c"] ∧
      columns "\"order items\".\"id\" = \"c\".\"id\"" = [("orderitems", "id"), ("c", "id")] ∧
      inferSource "\"order items\".\"id\" = \"c\".\"id\"" "c" "x" = "items" ∧
      ¬ ∀ left right : String × String, Bare left.1 ∧ Bare left.2 → Bare right.1 ∧ Bare right.2 →
        left.1 ≠ right.1 → Resolves (quotedEquality left right).render left right := by
  have spelled : (quotedEquality ("order items", "id") ("c", "id")).render =
      "\"order items\".\"id\" = \"c\".\"id\"" :=
    quotedEquality_render (by decide) (by decide)
  have read : references "\"order items\".\"id\" = \"c\".\"id\"" = ["items", "c"] := by
    decide +kernel
  refine ⟨spelled, read, by decide +kernel, by decide +kernel, ?_⟩
  intro resolve
  have resolves := resolve ("order items", "id") ("c", "id") (by decide) (by decide) (by decide)
  have named := resolves.references
  rw [spelled, read] at named
  exact absurd named (by decide)

end Condition

end JoinDiagram
