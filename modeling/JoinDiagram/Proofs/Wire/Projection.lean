import JoinDiagram.Wire.Diagram

namespace JoinDiagram

def Edge.withoutColumns (e : Edge) : Edge := { e with columns := [] }

mutual

def Node.Unmarked : Node → Prop
  | .base .. => True
  | .defined _ _ recursive => recursive = false
  | .derived _ _ inner => inner.Unmarked

def Graph.Unmarked : Graph → Prop
  | ⟨nodes, _⟩ => Node.AllUnmarked nodes

def Node.AllUnmarked : List Node → Prop
  | [] => True
  | n :: ns => n.Unmarked ∧ Node.AllUnmarked ns

end

mutual

def Node.withoutColumns : Node → Node
  | .base id name alias? => .base id name alias?
  | .defined id name recursive => .defined id name recursive
  | .derived id name inner => .derived id name inner.withoutColumns

def Graph.withoutColumns : Graph → Graph
  | ⟨nodes, edges⟩ => ⟨Node.allWithoutColumns nodes, edges.map Edge.withoutColumns⟩

def Node.allWithoutColumns : List Node → List Node
  | [] => []
  | n :: ns => n.withoutColumns :: Node.allWithoutColumns ns

end

namespace Edge

theorem same_iff (e f : Edge) : (e == f) = true ↔ e.withoutColumns = f.withoutColumns := by
  change e.same f = true ↔ _
  simp [same, withoutColumns, and_assoc]

theorem view_condition_eq_iff (e f : Edge) :
    e.view.condition = f.view.condition ↔ e.condition = f.condition := by
  by_cases first : e.condition = "" <;> by_cases second : f.condition = ""
  · simp [view, first, second]
  · simp [view, first, second, Ne.symm second]
  · simp [view, first, second]
  · simp [view, first, second]

theorem view_eq_iff (e f : Edge) : e.view = f.view ↔ e.withoutColumns = f.withoutColumns := by
  constructor
  · intro views
    have conditions := (view_condition_eq_iff e f).mp (congrArg EdgeView.condition views)
    simp only [view, EdgeView.mk.injEq] at views
    obtain ⟨-, sources, targets, kinds, -⟩ := views
    simp only [withoutColumns, sources, targets, kinds, conditions]
  · intro parts
    simp only [withoutColumns, Edge.mk.injEq, and_true] at parts
    obtain ⟨sources, targets, kinds, conditions⟩ := parts
    simp only [view, sources, targets, kinds, conditions]

theorem all_same_iff (es fs : List Edge) :
    (es == fs) = true ↔ es.map withoutColumns = fs.map withoutColumns := by
  induction es generalizing fs with
  | nil => cases fs <;> simp
  | cons e rest ih =>
    cases fs with
    | nil => simp
    | cons f others => simp [same_iff, ih]

theorem all_views_eq_iff (es fs : List Edge) :
    es.map view = fs.map view ↔ es.map withoutColumns = fs.map withoutColumns := by
  induction es generalizing fs with
  | nil => cases fs <;> simp
  | cons e rest ih =>
    cases fs with
    | nil => simp
    | cons f others => simp [view_eq_iff, ih]

end Edge

theorem NodeColumns.ofEdges_withoutColumns (edges : List Edge) :
    ofEdges (edges.map Edge.withoutColumns) = ofEdges edges := by
  rw [ofEdges, ofEdges, List.foldl_map]
  rfl

theorem NodeColumns.ofEdges_congr {es fs : List Edge}
    (h : es.map Edge.withoutColumns = fs.map Edge.withoutColumns) : ofEdges es = ofEdges fs := by
  rw [← ofEdges_withoutColumns es, h, ofEdges_withoutColumns]

mutual

theorem Node.same_iff : (n m : Node) → (n.same m = true ↔ n.withoutColumns = m.withoutColumns)
  | .base .., .base .. => by simp [Node.same, Node.withoutColumns, and_assoc]
  | .defined .., .defined .. => by simp [Node.same, Node.withoutColumns, and_assoc]
  | .derived _ _ inner, .derived _ _ inner' => by
    have inside := Graph.same_iff inner inner'
    simp [Node.same, Node.withoutColumns, inside, and_assoc]
  | .base .., .defined .. => by simp [Node.same, Node.withoutColumns]
  | .base .., .derived .. => by simp [Node.same, Node.withoutColumns]
  | .defined .., .base .. => by simp [Node.same, Node.withoutColumns]
  | .defined .., .derived .. => by simp [Node.same, Node.withoutColumns]
  | .derived .., .base .. => by simp [Node.same, Node.withoutColumns]
  | .derived .., .defined .. => by simp [Node.same, Node.withoutColumns]

theorem Graph.same_iff : (g h : Graph) → (g.same h = true ↔ g.withoutColumns = h.withoutColumns)
  | ⟨nodes, edges⟩, ⟨nodes', edges'⟩ => by
    have inside := Node.sameAll_iff nodes nodes'
    simp [Graph.same, Graph.withoutColumns, inside, Edge.all_same_iff]

theorem Node.sameAll_iff : (ns ms : List Node) →
    (Node.sameAll ns ms = true ↔ Node.allWithoutColumns ns = Node.allWithoutColumns ms)
  | [], [] => by simp [Node.sameAll]
  | [], _ :: _ => by simp [Node.sameAll, Node.allWithoutColumns]
  | _ :: _, [] => by simp [Node.sameAll, Node.allWithoutColumns]
  | n :: ns, m :: ms => by
    have first := Node.same_iff n m
    have later := Node.sameAll_iff ns ms
    simp [Node.sameAll, Node.allWithoutColumns, first, later]

end

mutual

theorem Node.view_eq_iff (columns : NodeColumns) : (n m : Node) → n.Unmarked → m.Unmarked →
    (n.view columns = m.view columns ↔ n.withoutColumns = m.withoutColumns)
  | .base id name alias?, .base id' name' alias?', _, _ => by
    simp only [Node.view, Node.withoutColumns, NodeView.mk.injEq, Node.base.injEq]
    constructor
    · rintro ⟨ids, -, names, aliases, -⟩
      exact ⟨ids, names, aliases⟩
    · rintro ⟨rfl, rfl, rfl⟩
      simp
  | .defined id name recursive, .defined id' name' recursive', unmarked, unmarked' => by
    rw [Node.Unmarked] at unmarked unmarked'
    simp only [Node.view, Node.withoutColumns, NodeView.mk.injEq, Node.defined.injEq, unmarked,
      unmarked']
    constructor
    · rintro ⟨ids, -, names, -⟩
      exact ⟨ids, names, trivial⟩
    · rintro ⟨rfl, rfl, -⟩
      simp
  | .derived id name inner, .derived id' name' inner', unmarked, unmarked' => by
    have inside := Graph.view_eq_iff inner inner' unmarked unmarked'
    simp only [Node.view, Node.withoutColumns, NodeView.mk.injEq, Node.derived.injEq,
      Option.some.injEq, inside]
    constructor
    · rintro ⟨ids, -, -, names, -, graphs⟩
      exact ⟨ids, names, graphs⟩
    · rintro ⟨rfl, rfl, graphs⟩
      simp [Node.name, graphs]
  | .base .., .defined .., _, _ => by simp [Node.view, Node.withoutColumns]
  | .base .., .derived .., _, _ => by simp [Node.view, Node.withoutColumns]
  | .defined .., .base .., _, _ => by simp [Node.view, Node.withoutColumns]
  | .defined .., .derived .., _, _ => by simp [Node.view, Node.withoutColumns]
  | .derived .., .base .., _, _ => by simp [Node.view, Node.withoutColumns]
  | .derived .., .defined .., _, _ => by simp [Node.view, Node.withoutColumns]

theorem Graph.view_eq_iff : (g h : Graph) → g.Unmarked → h.Unmarked →
    (g.view = h.view ↔ g.withoutColumns = h.withoutColumns)
  | ⟨nodes, edges⟩, ⟨nodes', edges'⟩, unmarked, unmarked' => by
    have inside := fun columns => Node.viewAll_eq_iff columns nodes nodes' unmarked unmarked'
    simp only [Graph.view, Graph.withoutColumns, DiagramView.mk.injEq, Graph.mk.injEq, and_true,
      Edge.all_views_eq_iff]
    -- Equal edges give both sides the same columns, so the nodes are compared under one of them.
    constructor
    · rintro ⟨views, sameEdges⟩
      rw [← NodeColumns.ofEdges_congr sameEdges] at views
      exact ⟨(inside _).mp views, sameEdges⟩
    · rintro ⟨sameNodes, sameEdges⟩
      rw [← NodeColumns.ofEdges_congr sameEdges]
      exact ⟨(inside _).mpr sameNodes, sameEdges⟩

theorem Node.viewAll_eq_iff (columns : NodeColumns) : (ns ms : List Node) →
    Node.AllUnmarked ns → Node.AllUnmarked ms →
    (Node.viewAll columns ns = Node.viewAll columns ms ↔
      Node.allWithoutColumns ns = Node.allWithoutColumns ms)
  | [], [], _, _ => by simp [Node.viewAll, Node.allWithoutColumns]
  | [], _ :: _, _, _ => by simp [Node.viewAll, Node.allWithoutColumns]
  | _ :: _, [], _, _ => by simp [Node.viewAll, Node.allWithoutColumns]
  | n :: ns, m :: ms, unmarked, unmarked' => by
    have first := Node.view_eq_iff columns n m unmarked.1 unmarked'.1
    have later := Node.viewAll_eq_iff columns ns ms unmarked.2 unmarked'.2
    simp only [Node.viewAll, Node.allWithoutColumns, List.cons.injEq, first, later]

end

/-- What is sent of a graph tells it from every graph that is not equal to it, and no more: the
    columns of the edges are not sent, at any depth. -/
theorem Graph.view_eq_iff_same {g h : Graph} (unmarked : g.Unmarked) (unmarked' : h.Unmarked) :
    (g.view = h.view ↔ (g == h) = true) ∧
      (g.withoutColumns = h.withoutColumns → g.view = h.view) ∧
      ∀ e f : Edge, e.view.condition = f.view.condition → e.condition = f.condition := by
  have views := Graph.view_eq_iff g h unmarked unmarked'
  have equal : (g == h) = true ↔ g.withoutColumns = h.withoutColumns := Graph.same_iff g h
  exact ⟨views.trans equal.symm, views.mpr, fun e f => (e.view_condition_eq_iff f).mp⟩

def Graph.nestedJoin (columns : List String) : Graph :=
  ⟨[.subquery "outer" ⟨[.subquery "inner"
    ⟨[.table "orders" (some "o"), .cte "recent" false],
      [⟨"o", "cte_recent", .inner, "o.id = recent.id", columns⟩]⟩], []⟩], []⟩

theorem Graph.nestedJoin_view :
    (nestedJoin ["id", "id"]).Unmarked ∧ (nestedJoin []).Unmarked ∧
      (nestedJoin ["id", "id"]).view = (nestedJoin []).view ∧
      (nestedJoin ["id", "id"] == nestedJoin []) = true := by
  have unmarked : ∀ columns, (nestedJoin columns).Unmarked := fun columns =>
    ⟨⟨⟨trivial, rfl, trivial⟩, trivial⟩, trivial⟩
  have views := view_eq_iff_same (unmarked ["id", "id"]) (unmarked [])
  have sent : (nestedJoin ["id", "id"]).view = (nestedJoin []).view := views.2.1 rfl
  exact ⟨unmarked _, unmarked _, sent, views.1.mp sent⟩

end JoinDiagram
