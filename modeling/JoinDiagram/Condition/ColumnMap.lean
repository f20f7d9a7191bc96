namespace JoinDiagram

/-- The columns of some nodes. Sorted by the ids of the nodes, two maps are equal if they have the same
    columns for every node. -/
structure ColumnMap where
  entries : List (String × List String)
  ascending : entries.Pairwise fun entry later => entry.1 < later.1
deriving DecidableEq

namespace ColumnMap

def empty : ColumnMap := ⟨[], .nil⟩

def get? (m : ColumnMap) (node : String) : Option (List String) := m.entries.lookup node

def contains (m : ColumnMap) (node : String) : Bool := (m.get? node).isSome

def insertIn (node : String) (columns : List String) :
    List (String × List String) → List (String × List String)
  | [] => [(node, columns)]
  | entry :: rest =>
    if node = entry.1 then (node, columns) :: rest
    else if node < entry.1 then (node, columns) :: entry :: rest
    else entry :: insertIn node columns rest

theorem mem_insertIn {node : String} {columns : List String} {entries : List (String × List String)}
    {entry : String × List String} (member : entry ∈ insertIn node columns entries) :
    entry = (node, columns) ∨ entry ∈ entries := by
  induction entries with
  | nil => exact .inl (List.mem_singleton.mp member)
  | cons first rest ih =>
    rw [insertIn] at member
    split at member
    · rcases List.mem_cons.mp member with new | old
      · exact .inl new
      · exact .inr (List.mem_cons_of_mem _ old)
    · split at member
      · exact List.mem_cons.mp member
      · rcases List.mem_cons.mp member with same | later
        · exact .inr (List.mem_cons.mpr (.inl same))
        · exact (ih later).imp_right (List.mem_cons_of_mem _)

theorem ascending_insertIn (node : String) (columns : List String)
    {entries : List (String × List String)}
    (ascending : entries.Pairwise fun entry later => entry.1 < later.1) :
    (insertIn node columns entries).Pairwise fun entry later => entry.1 < later.1 := by
  induction entries with
  | nil => exact List.pairwise_singleton _ _
  | cons first rest ih =>
    obtain ⟨least, sorted⟩ := List.pairwise_cons.mp ascending
    rw [insertIn]
    split
    · rename_i same
      exact List.pairwise_cons.mpr ⟨fun entry member => same ▸ least entry member, sorted⟩
    · rename_i different
      split
      · rename_i before
        refine List.pairwise_cons.mpr ⟨?_, ascending⟩
        intro entry member
        rcases List.mem_cons.mp member with rfl | later
        · exact before
        · exact String.lt_trans before (least entry later)
      · rename_i unordered
        refine List.pairwise_cons.mpr ⟨?_, ih sorted⟩
        intro entry member
        rcases mem_insertIn member with rfl | old
        · apply Decidable.byContradiction
          intro reversed
          exact different (String.le_antisymm (String.not_lt.mp reversed) (String.not_lt.mp unordered))
        · exact least entry old

def insert (m : ColumnMap) (node : String) (columns : List String) : ColumnMap :=
  ⟨insertIn node columns m.entries, ascending_insertIn node columns m.ascending⟩

theorem lookup_cons_ne {node other : String} (different : other ≠ node) (columns : List String)
    (rest : List (String × List String)) :
    ((node, columns) :: rest).lookup other = rest.lookup other := by
  have unequal : (other == node) = false := beq_false_of_ne different
  rw [List.lookup_cons, unequal]

theorem get?_insert (m : ColumnMap) (node : String) (columns : List String) (other : String) :
    (m.insert node columns).get? other = if other = node then some columns else m.get? other := by
  change (insertIn node columns m.entries).lookup other = if _ then _ else m.entries.lookup other
  by_cases found : other = node
  · subst found
    rw [if_pos rfl]
    induction m.entries with
    | nil => exact List.lookup_cons_self
    | cons entry rest ih =>
      rw [insertIn]
      split
      · exact List.lookup_cons_self
      · rename_i different
        split
        · exact List.lookup_cons_self
        · rwa [lookup_cons_ne different]
  · rw [if_neg found]
    induction m.entries with
    | nil => exact lookup_cons_ne found columns []
    | cons entry rest ih =>
      rw [insertIn]
      split
      · rename_i same
        rw [lookup_cons_ne found, lookup_cons_ne (same ▸ found)]
      · split
        · rw [lookup_cons_ne found]
        · by_cases here : other = entry.1
          · subst here
            rw [List.lookup_cons_self, List.lookup_cons_self]
          · rw [lookup_cons_ne here, lookup_cons_ne here, ih]

theorem lookup_eq_none_of_lt {node : String} {entries : List (String × List String)}
    (later : ∀ entry ∈ entries, node < entry.1) : entries.lookup node = none := by
  rw [List.lookup_eq_none_iff]
  intro entry member
  have different := String.ne_of_lt (later entry member)
  simpa using different

theorem eq_of_lookup_eq {entries others : List (String × List String)}
    (ascending : entries.Pairwise fun entry later => entry.1 < later.1)
    (ascending' : others.Pairwise fun entry later => entry.1 < later.1)
    (same : ∀ node, entries.lookup node = others.lookup node) : entries = others := by
  induction entries generalizing others with
  | nil =>
    cases others with
    | nil => rfl
    | cons other more =>
      have found := same other.1
      rw [List.lookup_cons_self] at found
      cases found
  | cons entry rest ih =>
    cases others with
    | nil =>
      have found := same entry.1
      rw [List.lookup_cons_self] at found
      cases found
    | cons other more =>
      obtain ⟨least, sorted⟩ := List.pairwise_cons.mp ascending
      obtain ⟨least', sorted'⟩ := List.pairwise_cons.mp ascending'
      have here := same entry.1
      have there := same other.1
      rw [List.lookup_cons_self] at here there
      -- the smaller of the two first ids would be missing from the other map
      have keys : entry.1 = other.1 := by
        apply String.le_antisymm
        · apply String.not_lt.mp
          intro before
          rw [lookup_cons_ne (String.ne_of_lt before),
            lookup_eq_none_of_lt fun e member => String.lt_trans before (least e member)] at there
          cases there
        · apply String.not_lt.mp
          intro before
          rw [lookup_cons_ne (String.ne_of_lt before),
            lookup_eq_none_of_lt fun e member => String.lt_trans before (least' e member)] at here
          cases here
      obtain ⟨node, columns⟩ := entry
      obtain ⟨node', columns'⟩ := other
      obtain rfl : node = node' := keys
      rw [List.lookup_cons_self] at here
      cases here
      have tails : ∀ key, rest.lookup key = more.lookup key := by
        intro key
        by_cases first : key = node
        · subst first
          rw [lookup_eq_none_of_lt least, lookup_eq_none_of_lt least']
        · have found := same key
          rwa [lookup_cons_ne first, lookup_cons_ne first] at found
      rw [ih sorted sorted' tails]

theorem ext_get? {m other : ColumnMap} (same : ∀ node, m.get? node = other.get? node) :
    m = other := by
  cases m with
  | mk entries ascending =>
    cases other with
    | mk others ascending' =>
      cases eq_of_lookup_eq ascending ascending' same
      rfl

end ColumnMap

end JoinDiagram
