import JoinDiagram.Proofs.Extraction.Placement

namespace JoinDiagram

open Sql (Join Relation)

namespace Sql

theorem length_le_escapeQuotes (quote last : Char) (cs : List Char) :
    cs.length ≤ (escapeQuotes quote last cs).length := by
  fun_induction escapeQuotes quote last cs with
  | case1 => simp
  | case2 last c rest here escaped ih => simpa using ih
  | case3 last c here unescaped d rest again ih =>
    simp only [List.length_cons]
    omega
  | case4 last c here unescaped d rest other ih =>
    simp only [List.length_cons] at ih ⊢
    omega
  | case5 last c here unescaped => simp
  | case6 last c rest other ih => simpa using ih

theorem Ident.length_le_render (i : Ident) : i.value.length ≤ i.render.length := by
  rw [Ident.render]
  cases i.quote with
  | none => exact Nat.le_refl _
  | some quote =>
    have longer := length_le_escapeQuotes quote (Char.ofNat 0) i.value.toList
    simp only [quoted, String.length_ofList, List.length_append, List.length_cons,
      String.length_toList] at longer ⊢
    omega

theorem Alias.length_le_render (a : Alias) : a.name.value.length ≤ a.render.length := by
  have longer := a.name.length_le_render
  rw [Alias.render]
  split
  · exact longer
  · simp only [String.length_append, toString]
    omega

theorem Relation.render_alias (r : Relation) :
    ∃ before after, r.render = before ++ aliasSuffix r.alias? ++ after := by
  cases r with
  | table name extras alias? =>
    obtain ⟨partitions, arguments, ordinality, hints⟩ := extras
    cases arguments with
    | none =>
      rw [Relation.render]
      exact ⟨_, _, rfl⟩
    | some list =>
      rw [Relation.render]
      exact ⟨_, _, rfl⟩
  | unnest arrays ordinality alias? offset =>
    rcases offset with _ | _ | name
    · exact ⟨_, "", by rw [Relation.render]; rfl⟩
    · rw [Relation.render]
      exact ⟨_, _, rfl⟩
    · rw [Relation.render]
      exact ⟨_, _, rfl⟩
  | _ =>
    rw [Relation.render]
    exact ⟨_, "", String.append_empty.symm⟩

theorem Relation.render_named {r : Relation} {a : Alias} (named : r.alias? = some a) :
    a.name.value.length < r.render.length ∧ ' ' ∈ r.render.toList := by
  obtain ⟨before, after, spelled⟩ := r.render_alias
  have longer := a.length_le_render
  rw [spelled, named, aliasSuffix]
  constructor
  · have as : " AS ".length = 4 := rfl
    simp only [String.length_append, as]
    omega
  · simp

end Sql

namespace Condition

theorem reference_unblank {condition reference : String}
    (member : reference ∈ references condition) : ' ' ∉ reference.toList := by
  rw [references, List.mem_eraseDups, List.mem_filterMap] at member
  obtain ⟨word, -, read⟩ := member
  obtain ⟨⟨owner, field⟩, qualified, rfl⟩ := Option.map_eq_some_iff.mp read
  obtain ⟨-, -, -, -, names, -⟩ := splitQualifiedChars_eq_some_iff.mp qualified
  intro blank
  rw [String.toList_ofList] at blank
  exact absurd (names ' ' blank) (by decide)

end Condition

namespace Extraction

/-- The items that edges know by their alias. Every other item goes by its text. -/
def GoesByAlias : Relation → Prop
  | .table .. | .derived .. | .nested .. => True
  | .function .. | .keywordCall .. | .unnest .. | .reshaped .. => False

instance : DecidablePred GoesByAlias
  | .table .. | .derived .. | .nested .. => .isTrue trivial
  | .function .. | .keywordCall .. | .unnest .. | .reshaped .. => .isFalse id

theorem relationId_of_alias {r : Relation} {shortName : String}
    (named : aliasName r.alias? = some shortName) (known : GoesByAlias r) :
    relationId r = shortName := by
  cases r with
  | table | derived | nested =>
    rw [Sql.Relation.alias?] at named
    rw [relationId, named, Option.getD_some]
  | function | keywordCall | unnest | reshaped => exact known.elim

theorem relationId_of_text {r : Relation} (unknown : ¬ GoesByAlias r) : relationId r = r.render := by
  cases r with
  | table | derived | nested => exact absurd trivial unknown
  | function | keywordCall | unnest | reshaped => rfl

theorem render_of_aliasName {r : Relation} {shortName : String}
    (named : aliasName r.alias? = some shortName) :
    r.render ≠ shortName ∧ ' ' ∈ r.render.toList := by
  obtain ⟨a, given, filled⟩ := Option.bind_eq_some_iff.mp named
  have same : a.name.value = shortName := by
    rw [nonEmpty, Option.ite_none_left_eq_some] at filled
    exact Option.some.inj filled.2
  obtain ⟨longer, blank⟩ := Sql.Relation.render_named given
  refine ⟨?_, blank⟩
  rintro equal
  rw [equal, same] at longer
  exact absurd longer (Nat.lt_irrefl _)

theorem namedSource_of_text {r : Relation} {shortName : String} {j : Join}
    (named : aliasName r.alias? = some shortName) (unknown : ¬ GoesByAlias r)
    (joined : j.relation = r) :
    namedSource? j = (Condition.references (joinCondition j.operator)).head? := by
  have other : ∀ reference ∈ Condition.references (joinCondition j.operator),
      (reference != relationId j.relation) = true := by
    intro reference member
    rw [joined, relationId_of_text unknown, bne_iff_ne]
    rintro rfl
    exact Condition.reference_unblank member (render_of_aliasName named).2
  rw [namedSource?]
  cases names : Condition.references (joinCondition j.operator) with
  | nil => rfl
  | cons reference rest =>
    have first := other reference (by rw [names]; exact List.mem_cons_self)
    rw [List.find?_cons, first, List.head?_cons]

theorem namedSource_ne {j : Join} : namedSource? j ≠ some (relationId j.relation) := by
  intro found
  simpa using List.find?_some found

/-- Tables, queries in parentheses and groups of joins go by their alias. Other items with an alias
    never do: an edge leads to their text instead, and a reference to the alias is taken for the
    source of their own join exactly if it is the first of the condition. -/
theorem relationId_eq_alias_iff {r : Relation} {shortName : String}
    (named : aliasName r.alias? = some shortName) :
    (relationId r = shortName ↔ GoesByAlias r) ∧
      (¬ GoesByAlias r → relationId r = r.render) ∧
      ∀ (j : Join) (preceding : String), j.relation = r →
        ((joinEdge preceding j).target = shortName ↔ GoesByAlias r) ∧
        (joinEdge preceding j).source = (namedSource? j).getD preceding ∧
        (namedSource? j = some shortName ↔ ¬ GoesByAlias r ∧
          (Condition.references (joinCondition j.operator)).head? = some shortName) := by
  have known : relationId r = shortName ↔ GoesByAlias r := by
    constructor
    · intro same
      by_contra unknown
      rw [relationId_of_text unknown] at same
      exact (render_of_aliasName named).1 same
    · exact relationId_of_alias named
  refine ⟨known, relationId_of_text, ?_⟩
  rintro j preceding rfl
  refine ⟨known, rfl, ?_⟩
  by_cases byAlias : GoesByAlias j.relation
  · have apart := namedSource_ne (j := j)
    rw [known.mpr byAlias] at apart
    simp [apart, byAlias]
  · simp [byAlias, namedSource_of_text named byAlias rfl]

def unnestedXs : Relation :=
  .unnest [.name [⟨"a", none⟩, ⟨"xs", none⟩]] false (some ⟨⟨"u", none⟩, []⟩) none

def unnestedJoin : Join := ⟨false, .inner (onSameId "u" "a"), unnestedXs⟩

theorem relationId_eq_alias_iff_nested :
    aliasName (returnsQuery "u").alias? = some "u" ∧ relationId (returnsQuery "u") = "u" ∧
      (joinEdge "b" ⟨false, .inner (onSameId "u" "a"), returnsQuery "u"⟩).target = "u" ∧
      namedSource? ⟨false, .inner (onSameId "u" "a"), returnsQuery "u"⟩ ≠ some "u" ∧
      aliasName unnestedXs.alias? = some "u" ∧ relationId unnestedXs ≠ "u" ∧
      namedSource? unnestedJoin = some "u" := by
  have named : aliasName (returnsQuery "u").alias? = some "u" := by decide +kernel
  have unnested : aliasName unnestedXs.alias? = some "u" := by decide +kernel
  obtain ⟨known, -, joins⟩ := relationId_eq_alias_iff named
  obtain ⟨unknown, -, others⟩ := relationId_eq_alias_iff unnested
  obtain ⟨target, -, source⟩ :=
    joins ⟨false, .inner (onSameId "u" "a"), returnsQuery "u"⟩ "b" rfl
  obtain ⟨-, -, taken⟩ := others unnestedJoin "a" rfl
  exact ⟨named, known.mpr trivial, target.mpr trivial, fun found => (source.mp found).1 trivial,
    unnested, fun same => unknown.mp same, taken.mpr ⟨id, by decide +kernel⟩⟩

theorem alias_of_unnest_ignored :
    aliasName unnestedXs.alias? = some "u" ∧ relationId unnestedXs = "UNNEST(a.xs) AS u" ∧
      (joinEdge "a" unnestedJoin).target = "UNNEST(a.xs) AS u" ∧
      (joinEdge "a" unnestedJoin).source = "u" ∧
      ¬ ∀ (r : Relation) (shortName : String), aliasName r.alias? = some shortName →
        relationId r = shortName := by
  have named : aliasName unnestedXs.alias? = some "u" := by decide +kernel
  have text : relationId unnestedXs = "UNNEST(a.xs) AS u" := by decide +kernel
  refine ⟨named, text, text, by decide +kernel, ?_⟩
  intro identified
  have same := identified unnestedXs "u" named
  rw [text] at same
  exact absurd same (by decide)

end Extraction

end JoinDiagram
