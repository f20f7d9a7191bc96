import JoinDiagram.Proofs.Json.Document
import JoinDiagram.Wire.Request

namespace JoinDiagram.Request

open Json

inductive Writes : Request → Json → Prop
  | missing : Writes ⟨none⟩ (.object [])
  | null : Writes ⟨none⟩ (.object [("sql", .null)])
  | text (sql : String) : Writes ⟨some sql⟩ (.object [("sql", .string sql)])

theorem readQuery_append {gap : List Char} (blank : Blank gap) (bound : Nat) (cs : List Char) :
    readQuery bound (gap ++ cs) = readQuery bound cs := by
  rw [readQuery, readQuery, skipBlanks_append blank]

theorem readQuery_null (bound : Nat) (rest : List Char) :
    readQuery bound ("null".toList ++ rest) = some (none, rest) :=
  congrArg (Option.map fun rest => (none, rest)) (skipWord_append ['u', 'l', 'l'] rest)

theorem readQuery_quoted (sql : String) (rest : List Char) {bound : Nat}
    (enough : sql.toList.length < bound) :
    readQuery bound ((quoted sql).toList ++ rest) = some (some sql, rest) := by
  have read := readString_quoted sql rest enough
  rw [toList_quoted, List.cons_append] at read ⊢
  rw [readQuery, skipBlanks_cons rfl]
  exact congrArg (Option.map fun part => (some part.1, part.2)) read

theorem readFields_sql (bound : Nat) {value gap last : List Char} {sql : Option String}
    (reads : ∀ rest, readQuery bound (value ++ rest) = some (sql, rest))
    (gapBlank : Blank gap) (lastBlank : Blank last) (long : 3 < bound) (fuel : Nat) :
    readFields bound (fuel + 1) none
        ((quoted "sql").toList ++ (':' :: (gap ++ (value ++ (last ++ ['}']))))) =
      some (⟨sql⟩, []) := by
  have key := skipBlanks_cons (c := '"') rfl
    ("sql".toList.flatMap escapeChar ++ ['"'] ++ (':' :: (gap ++ (value ++ (last ++ ['}'])))))
  rw [← List.cons_append, ← toList_quoted] at key
  rw [readFields, key, readString_quoted "sql" _ long]
  simp only [Option.bind_eq_bind, Option.bind_some, skipBlanks_cons (c := ':') rfl,
    beq_self_eq_true, if_true, Option.isSome_none, Bool.false_eq_true, if_false,
    readQuery_append gapBlank, reads, Option.map_some, skipBlanks_append lastBlank,
    skipBlanks_cons (c := '}') rfl, Option.getD_some]

theorem toList_render_sql (l : Layout) (v : Json) :
    ((object [("sql", v)]).render l).toList =
      '{' :: ((l.lineBreak 1).toList ++ ((quoted "sql").toList ++ (':' :: (l.afterColon.toList ++
        ((renderAt l 1 v).toList ++ ((l.lineBreak 0).toList ++ ['}'])))))) := by
  rw [render, renderAt, renderFields, renderFields, l.toList_bracket 0 _ _ (List.cons_ne_nil _ _),
    List.map_singleton, List.intercalate_singleton]
  simp

theorem ofJson_render_sql {l : Layout} (sparse : l.Sparse) {v : Json} {sql : Option String}
    (reads : ∀ bound rest, (renderAt l 1 v).toList.length < bound →
      readQuery bound ((renderAt l 1 v).toList ++ rest) = some (sql, rest)) :
    ofJson? ((object [("sql", v)]).render l) = some ⟨sql⟩ := by
  have text := toList_render_sql l v
  generalize all : (quoted "sql").toList ++ (':' :: (l.afterColon.toList ++
    ((renderAt l 1 v).toList ++ ((l.lineBreak 0).toList ++ ['}'])))) = fields at text
  have size : (renderAt l 1 v).toList.length + 3 ≤ fields.length := by
    rw [← all]
    simp [toList_quoted, escapeChar]
    omega
  have read := readFields_sql (((l.lineBreak 1).toList ++ fields).length + 1)
    (fun rest => reads _ rest (by rw [List.length_append]; omega)) sparse.afterColon
    (sparse.lineBreak 0) (by rw [List.length_append]; omega)
    ((l.lineBreak 1).toList ++ fields).length
  obtain ⟨cs, rfl⟩ : ∃ cs, fields = '"' :: cs := by
    rw [← all, toList_quoted]
    exact ⟨_, rfl⟩
  rw [all] at read
  rw [ofJson?, text, Request.read, skipBlanks_cons rfl]
  simp only [skipBlanks_append (sparse.lineBreak 1), List.length_cons,
    skipBlanks_cons (c := '"') rfl]
  change (Option.bind (readFields _ _ none ('"' :: cs)) fun found =>
    if (skipBlanks found.2).isEmpty then some found.1 else none) = _
  rw [read]
  rfl

theorem ofJson_render {l : Layout} (sparse : l.Sparse) {r : Request} {v : Json}
    (written : Writes r v) : ofJson? (v.render l) = some r := by
  cases written with
  | missing =>
    rw [render, renderAt, renderFields, Layout.bracket, List.isEmpty_nil, if_pos rfl]
    rfl
  | null => exact ofJson_render_sql sparse fun bound rest _ => readQuery_null bound rest
  | text sql =>
    refine ofJson_render_sql sparse fun bound rest enough => ?_
    have shorter := length_lt_quoted sql
    rw [renderAt] at enough ⊢
    exact readQuery_quoted sql rest (by omega)

end JoinDiagram.Request
