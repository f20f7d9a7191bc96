import JoinDiagram.Proofs.Condition.NodeColumns

namespace JoinDiagram

theorem columnsOf_append (before after : List (String × String)) (node : String) :
    columnsOf (before ++ after) node = (columnsOf before node ++ columnsOf after node).eraseDups := by
  rw [columnsOf, columnsOf, columnsOf, Condition.eraseDups_append_eraseDups, List.filter_append,
    List.map_append]

def pairsOf (columns : String → List String) (nodes : List String) : List (String × String) :=
  nodes.flatMap fun node => (columns node).map fun column => (node, column)

theorem mem_pairsOf {columns : String → List String} {nodes : List String} {node column : String} :
    (node, column) ∈ pairsOf columns nodes ↔ node ∈ nodes ∧ column ∈ columns node := by
  simp only [pairsOf, List.mem_flatMap, List.mem_map, Prod.mk.injEq]
  constructor
  · rintro ⟨owner, listed, name, member, rfl, rfl⟩
    exact ⟨listed, member⟩
  · rintro ⟨listed, member⟩
    exact ⟨node, listed, column, member, rfl, rfl⟩

theorem firstSeen_pairsOf {columns : String → List String} {nodes : List String}
    (filled : ∀ node ∈ nodes, columns node ≠ []) :
    firstSeen (pairsOf columns nodes) = nodes.eraseDups := by
  induction nodes with
  | nil => rfl
  | cons node rest ih =>
    obtain ⟨column, more, first⟩ := List.exists_cons_of_ne_nil (filled node List.mem_cons_self)
    have later := ih fun other member => filled other (List.mem_cons_of_mem node member)
    have repeated : ∀ other ∈ more.map fun _ => node, id other ∈ [node].map id := by simp
    have owners : (pairsOf columns (node :: rest)).map (·.1) =
        [node] ++ ((more.map fun _ => node) ++ (pairsOf columns rest).map (·.1)) := by
      simp [pairsOf, first, Function.comp_def]
    calc firstSeen (pairsOf columns (node :: rest))
        = ([node] ++ ((more.map fun _ => node) ++ (pairsOf columns rest).map (·.1))).eraseDups := by
          rw [firstSeen, owners]
      _ = ([node] ++ (pairsOf columns rest).map Prod.fst ++ []).eraseDups := by
          rw [List.append_nil]
          exact firstPer_append_known id repeated _
      _ = ([node] ++ rest ++ []).eraseDups := Condition.eraseDups_congr_part [node] [] later
      _ = (node :: rest).eraseDups := by rw [List.append_nil, List.singleton_append]

theorem columnsOf_pairsOf_absent {columns : String → List String} {nodes : List String}
    {node : String} (absent : node ∉ nodes) : columnsOf (pairsOf columns nodes) node = [] := by
  rw [columnsOf_eq_nil, mem_firstSeen]
  rintro ⟨column, member⟩
  exact absent (mem_pairsOf.mp member).1

theorem columnsOf_pairsOf {columns : String → List String} {nodes : List String} {node : String}
    (distinct : nodes.Nodup) (each : (columns node).Nodup) (listed : node ∈ nodes) :
    columnsOf (pairsOf columns nodes) node = columns node := by
  induction nodes with
  | nil => cases listed
  | cons first rest ih =>
    obtain ⟨fresh, distinct⟩ := List.nodup_cons.mp distinct
    have split : pairsOf columns (first :: rest) =
        pairsOf columns [first] ++ pairsOf columns rest := by simp [pairsOf]
    rw [split, columnsOf_append]
    by_cases here : first = node
    · subst here
      have later : columnsOf (pairsOf columns rest) first = [] := columnsOf_pairsOf_absent fresh
      have own : columnsOf (pairsOf columns [first]) first = columns first := by
        simp [columnsOf, pairsOf, List.filter_map, Function.comp_def, Condition.eraseDups_of_nodup each]
      rw [later, own, List.append_nil, Condition.eraseDups_of_nodup each]
    · have earlier : columnsOf (pairsOf columns [first]) node = [] := by
        rw [columnsOf_eq_nil, mem_firstSeen]
        rintro ⟨column, member⟩
        have same := List.mem_singleton.mp (mem_pairsOf.mp member).1
        exact here same.symm
      have member : node ∈ rest := (List.mem_cons.mp listed).resolve_left (Ne.symm here)
      rw [earlier, ih distinct member, List.nil_append, Condition.eraseDups_of_nodup each]

namespace NodeColumns

theorem Follows.eq_iff {s t : NodeColumns} {pairs others : List (String × String)}
    (h : s.Follows pairs) (h' : t.Follows others) :
    s = t ↔ firstSeen pairs = firstSeen others ∧
      ∀ node, columnsOf pairs node = columnsOf others node := by
  constructor
  · rintro rfl
    refine ⟨h.order.symm.trans h'.order, ?_⟩
    intro node
    rw [← h.get, h'.get]
  · rintro ⟨nodes, columns⟩
    have orders : s.order = t.order := by rw [h.order, h'.order, nodes]
    have maps : s.columns = t.columns := by
      apply ColumnMap.ext_get?
      intro node
      rw [h.columns, h'.columns, nodes, columns]
    cases s
    cases t
    cases orders
    cases maps
    rfl

theorem Follows.record_known {s : NodeColumns} {pairs : List (String × String)} (h : s.Follows pairs)
    {node column : String} (known : (node, column) ∈ pairs) : s.record node column = s := by
  rw [(h.record node column).eq_iff h, firstSeen_concat, if_pos (mem_firstSeen.mpr ⟨column, known⟩)]
  refine ⟨rfl, ?_⟩
  intro other
  rw [columnsOf_concat]
  split
  · rename_i own
    obtain rfl : node = other := by simpa using own
    rw [if_pos (by simpa using mem_columnsOf.mpr known)]
  · rfl

theorem rebuild_eq (s : NodeColumns) : s.rebuild = empty.recordAll (pairsOf s.get s.order) := by
  rw [recordAll, pairsOf, List.foldl_flatMap]
  simp only [List.foldl_map]
  rfl

theorem Follows.rebuild {s : NodeColumns} {pairs : List (String × String)} (h : s.Follows pairs) :
    s.rebuild = s := by
  have distinct : s.order.Nodup := h.order ▸ Condition.eraseDups_nodup _
  have listed : ∀ node, node ∈ s.order ↔ s.get node ≠ [] := by
    intro node
    rw [h.order, h.get, Ne, columnsOf_eq_nil, not_not]
  have nodes : firstSeen (pairsOf s.get s.order) = s.order := by
    rw [firstSeen_pairsOf fun node member => (listed node).mp member,
      Condition.eraseDups_of_nodup distinct]
  rw [rebuild_eq, (follows_recordAll _).eq_iff h, nodes]
  refine ⟨h.order, ?_⟩
  intro node
  rw [← h.get]
  by_cases member : node ∈ s.order
  · have each : (s.get node).Nodup := h.get node ▸ columnsOf_nodup pairs node
    exact columnsOf_pairsOf distinct each member
  · have bare : s.get node = [] := not_not.mp fun filled => member ((listed node).mpr filled)
    rw [bare, columnsOf_pairsOf_absent member]

inductive Recording where
  | column (node name : String)
  | condition (text : String)
deriving DecidableEq

def Recording.pairs : Recording → List (String × String)
  | column node name => [(node, name)]
  | condition text => Condition.columns text

def perform (s : NodeColumns) : Recording → NodeColumns
  | .column node name => s.record node name
  | .condition text => s.recordCondition text

def after (calls : List Recording) : NodeColumns := calls.foldl perform empty

def recorded (calls : List Recording) : List (String × String) := calls.flatMap Recording.pairs

theorem perform_eq (s : NodeColumns) (call : Recording) : s.perform call = s.recordAll call.pairs := by
  cases call <;> rfl

theorem follows_after (calls : List Recording) : (after calls).Follows (recorded calls) := by
  have steps : perform = fun s call => s.recordAll call.pairs := funext₂ perform_eq
  have all : after calls = empty.recordAll (recorded calls) := by
    rw [after, steps, recorded, recordAll, List.foldl_flatMap]
    rfl
  rw [all]
  exact follows_recordAll _

theorem get_ofEdges_perm {edges others : List Edge} (same : edges.Perm others) (node : String) :
    ((ofEdges edges).get node).Perm ((ofEdges others).get node) := by
  rw [get_ofEdges, get_ofEdges]
  have pairs := same.flatMap_right fun e => Condition.columns e.condition
  apply (List.perm_ext_iff_of_nodup (columnsOf_nodup _ node) (columnsOf_nodup _ node)).mpr
  intro column
  rw [mem_columnsOf, mem_columnsOf, pairs.mem_iff]

theorem Follows.stored {s : NodeColumns} {pairs : List (String × String)} (h : s.Follows pairs)
    {node : String} {columns : List String} (found : s.columns.get? node = some columns) :
    columns ≠ [] ∧ columns.Nodup ∧ columns = columnsOf pairs node := by
  rw [h.columns] at found
  split at found
  · rename_i seen
    cases found
    have filled : columnsOf pairs node ≠ [] := fun bare => columnsOf_eq_nil.mp bare seen
    exact ⟨filled, columnsOf_nodup pairs node, rfl⟩
  · cases found

theorem Follows.isEmpty_iff {s : NodeColumns} {pairs : List (String × String)} (h : s.Follows pairs) :
    s.isEmpty ↔ pairs = [] := by
  rw [isEmpty, h.order, List.isEmpty_iff, List.eq_nil_iff_forall_not_mem]
  constructor
  · intro unseen
    rw [List.eq_nil_iff_forall_not_mem]
    rintro ⟨node, column⟩ member
    exact unseen node (mem_firstSeen.mpr ⟨column, member⟩)
  · rintro rfl node seen
    obtain ⟨column, member⟩ := mem_firstSeen.mp seen
    cases member

/-- After any calls the order and the map agree with each other and with what was recorded. The state
    is the canonical form of the recorded pairs: recording it anew gives it back, and two runs end
    in one state exactly if they saw the same nodes, and for each node the same columns, in the
    same order. -/
theorem after_canonical (calls : List Recording) :
    (∀ node, node ∈ (after calls).order ↔ (after calls).columns.contains node) ∧
    (after calls).order.Nodup ∧
    (after calls).order = firstSeen (recorded calls) ∧
    (∀ node columns, (after calls).columns.get? node = some columns →
      columns ≠ [] ∧ columns.Nodup ∧ columns = columnsOf (recorded calls) node) ∧
    ((after calls).isEmpty ↔ recorded calls = []) ∧
    (∀ node column, (node, column) ∈ recorded calls →
      (after calls).record node column = after calls) ∧
    (after calls).rebuild = after calls ∧
    (∀ others, after calls = after others ↔
      firstSeen (recorded calls) = firstSeen (recorded others) ∧
      ∀ node, columnsOf (recorded calls) node = columnsOf (recorded others) node) ∧
    (∀ edges others : List Edge, edges.Perm others →
      ∀ node, ((ofEdges edges).get node).Perm ((ofEdges others).get node)) := by
  have h := follows_after calls
  have keys : ∀ node, node ∈ (after calls).order ↔ (after calls).columns.contains node := by
    intro node
    rw [h.contains, h.order, decide_eq_true_iff]
  have distinct : (after calls).order.Nodup := h.order ▸ Condition.eraseDups_nodup _
  refine ⟨keys, distinct, h.order, ?_, h.isEmpty_iff, ?_, h.rebuild, ?_, ?_⟩
  · exact fun node columns found => h.stored found
  · exact fun node column known => h.record_known known
  · exact fun others => h.eq_iff (follows_after others)
  · exact fun edges others same node => get_ofEdges_perm same node

theorem after_canonical_users :
    ("u", "id") ∈ recorded [.condition "u.id = o.user_id", .column "u" "name"] ∧
    (after [.condition "u.id = o.user_id", .column "u" "name"]).record "u" "id" =
      after [.condition "u.id = o.user_id", .column "u" "name"] ∧
    (after [.condition "u.id = o.user_id", .column "u" "name"]).columns.get? "u" =
      some ["id", "name"] ∧
    ["id", "name"] =
      columnsOf (recorded [.condition "u.id = o.user_id", .column "u" "name"]) "u" ∧
    ∀ node, ((ofEdges [⟨"u", "o", .inner, "u.id = o.user_id", ["id", "user_id"]⟩,
      ⟨"u", "p", .left, "u.name = p.author", ["name", "author"]⟩]).get node).Perm
      ((ofEdges [⟨"u", "p", .left, "u.name = p.author", ["name", "author"]⟩,
        ⟨"u", "o", .inner, "u.id = o.user_id", ["id", "user_id"]⟩]).get node) := by
  obtain ⟨-, -, -, stored, -, known, -, -, permuted⟩ :=
    after_canonical [.condition "u.id = o.user_id", .column "u" "name"]
  have member : ("u", "id") ∈ recorded [.condition "u.id = o.user_id", .column "u" "name"] := by
    decide +kernel
  have found : (after [.condition "u.id = o.user_id", .column "u" "name"]).columns.get? "u" =
      some ["id", "name"] := by decide +kernel
  exact ⟨member, known "u" "id" member, found, (stored "u" _ found).2.2,
    permuted _ _ (.swap ..)⟩

end NodeColumns

end JoinDiagram
