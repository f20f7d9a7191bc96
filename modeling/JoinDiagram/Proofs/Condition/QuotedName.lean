import JoinDiagram.Proofs.Condition.Equality
import JoinDiagram.Proofs.Condition.References
import JoinDiagram.Sql.Printer

namespace JoinDiagram

namespace Sql

theorem escapeQuotes_of_notMem {quote last : Char} {cs : List Char} (absent : quote ∉ cs) :
    escapeQuotes quote last cs = cs := by
  fun_induction escapeQuotes quote last cs with
  | case1 => rfl
  | case2 last c rest here escaped ih => simp_all
  | case3 last c here unescaped d rest again ih => simp_all
  | case4 last c here unescaped d rest other ih => simp_all
  | case5 last c here unescaped => simp_all
  | case6 last c rest other ih =>
    rw [List.mem_cons, not_or] at absent
    rw [ih absent.2]

theorem quoted_eq {s : String} (absent : '"' ∉ s.toList) : quoted '"' s = "\"" ++ s ++ "\"" := by
  rw [quoted, escapeQuotes_of_notMem absent, ← String.toList_inj]
  simp

end Sql

namespace Condition

def quotedColumn (column : String × String) : Sql.Expr :=
  .name [⟨column.1, some '"'⟩, ⟨column.2, some '"'⟩]

def quotedEquality (left right : String × String) : Sql.Expr :=
  .binary (quotedColumn left) "=" (quotedColumn right)

def Bare (name : String) : Prop := name ≠ "" ∧ ∀ c ∈ name.toList, isQuote c = false

instance (name : String) : Decidable (Bare name) :=
  decidable_of_iff (name ≠ "" ∧ name.toList.all fun c => !isQuote c) (by simp [Bare])

def quotedText (column : String × String) : String :=
  "\"" ++ column.1 ++ "\".\"" ++ column.2 ++ "\""

theorem quotedColumn_render {column : String × String} (bare : Bare column.1 ∧ Bare column.2) :
    (quotedColumn column).render = quotedText column := by
  have absent : ∀ name, Bare name → '"' ∉ name.toList :=
    fun name bare inside => absurd (bare.2 '"' inside) (by decide)
  have spelled : (quotedColumn column).render =
      Sql.quoted '"' column.1 ++ "." ++ Sql.quoted '"' column.2 := by
    simp [quotedColumn, Sql.Expr.render, Sql.dottedText, Sql.Ident.render]
  rw [spelled, Sql.quoted_eq (absent _ bare.1), Sql.quoted_eq (absent _ bare.2), quotedText,
    ← String.toList_inj]
  simp

theorem quotedEquality_render {left right : String × String}
    (leftBare : Bare left.1 ∧ Bare left.2) (rightBare : Bare right.1 ∧ Bare right.2) :
    (quotedEquality left right).render = quotedText left ++ " = " ++ quotedText right := by
  rw [quotedEquality, Sql.Expr.render, quotedColumn_render leftBare,
    quotedColumn_render rightBare, ← String.toList_inj]
  simp [toString]

/-- Names that need no quotes: of letters, digits, `_` and `$`, and the relation's also of dots but
    with no digit in front. -/
structure Readable (column : String × String) : Prop where
  digitless : column.1.toList.head?.any Text.isAsciiDigit = false
  relation : ∀ c ∈ column.1.toList, isNameChar c ∨ c = '.'
  field : ∀ c ∈ column.2.toList, isNameChar c

instance (column : String × String) : Decidable (Readable column) :=
  decidable_of_iff
    (column.1.toList.head?.any Text.isAsciiDigit = false ∧
      (column.1.toList.all fun c => isNameChar c || c == '.') ∧ column.2.toList.all isNameChar)
    ⟨fun ⟨digitless, relation, field⟩ =>
      ⟨digitless, by simpa using relation, by simpa using field⟩,
    fun readable => ⟨readable.digitless, by simpa using readable.relation,
      by simpa using readable.field⟩⟩

theorem unquote_quotedText {column : String × String} (bare : Bare column.1 ∧ Bare column.2) :
    unquote (quotedText column).toList = column.1.toList ++ '.' :: column.2.toList := by
  have kept : ∀ name : String, Bare name → unquote name.toList = name.toList := by
    intro name bare
    exact List.filter_eq_self.mpr fun c member => by simp [bare.2 c member]
  have first := kept _ bare.1
  have second := kept _ bare.2
  have dropped : isQuote '"' = true := by decide
  have dotted : isQuote '.' = false := by decide
  rw [unquote] at first second
  simp [quotedText, unquote, List.filter_append, first, second, dropped, dotted]

theorem splitQualified_quotedText_iff {column : String × String}
    (bare : Bare column.1 ∧ Bare column.2) :
    splitQualifiedChars (quotedText column).toList = some (column.1.toList, column.2.toList) ↔
      Readable column := by
  have filled : ∀ name : String, Bare name → name.toList ≠ [] := fun name bare empty =>
    bare.1 (String.toList_eq_nil_iff.mp empty)
  rw [splitQualifiedChars_eq_some_iff]
  constructor
  · rintro ⟨-, -, -, digitless, names, fieldNames⟩
    exact ⟨digitless, names, fieldNames⟩
  · intro readable
    exact ⟨unquote_quotedText bare, filled _ bare.1, filled _ bare.2,
      readable.digitless, readable.relation, readable.field⟩

theorem readable_of_column {condition : String} {column : String × String}
    (member : column ∈ columns condition) : Readable column := by
  rw [columns_eq_sides, List.mem_filterMap] at member
  obtain ⟨side, -, named⟩ := member
  rw [sideColumn, Option.map_eq_some_iff] at named
  obtain ⟨⟨reference, field⟩, qualified, rfl⟩ := named
  obtain ⟨-, -, -, digitless, names, fieldNames⟩ := splitQualifiedChars_eq_some_iff.mp qualified
  exact ⟨by simpa using digitless, by simpa using names, by simpa using fieldNames⟩

theorem quotedText_toList (column : String × String) :
    (quotedText column).toList =
      '"' :: (column.1.toList ++ '"' :: '.' :: '"' :: (column.2.toList ++ ['"'])) := by
  simp [quotedText]

theorem quotedText_unseparated {column : String × String} (bare : Bare column.1 ∧ Bare column.2)
    (readable : Readable column) :
    ∀ c ∈ (quotedText column).toList, isSeparator c = false :=
  qualified_unseparated ((splitQualified_quotedText_iff bare).mpr readable)

section Equality

variable {first second : List Char}

theorem words_equality (leftFilled : first ≠ []) (leftWhole : ∀ c ∈ first, isSeparator c = false)
    (rightFilled : second ≠ []) (rightWhole : ∀ c ∈ second, isSeparator c = false) :
    words (first ++ ' ' :: '=' :: ' ' :: second) = [first, second] := by
  have equals := words_append_separator [] (' ' :: second) (c := '=') (by decide)
  have blank := words_append_separator [] second (c := ' ') (by decide)
  rw [List.nil_append, words_nil, List.nil_append] at equals blank
  rw [words_append_separator first _ (by decide), equals, blank,
    words_of_unseparated leftFilled leftWhole, words_of_unseparated rightFilled rightWhole]
  rfl

theorem clauses_equality (leftWhole : ∀ c ∈ first, isSeparator c = false)
    (rightFilled : second ≠ []) (rightWhole : ∀ c ∈ second, isSeparator c = false)
    (plain : connectiveLength second = 0) :
    clauses (first ++ ' ' :: '=' :: ' ' :: second) = [first ++ ' ' :: '=' :: ' ' :: second] := by
  obtain ⟨c, rest, rfl⟩ := List.exists_cons_of_ne_nil rightFilled
  have leftUnblank := fun c member => unblank_of_unseparated (leftWhole c member)
  have rightUnblank := fun c member => unblank_of_unseparated (rightWhole c member)
  have last := splitClauses_unblank
    (fun d member => rightUnblank d (List.mem_cons_of_mem c member)) []
  rw [List.append_nil, splitClauses_nil] at last
  rw [clauses_eq, splitClauses_unblank leftUnblank, splitClauses_blank (by decide) rfl,
    splitClauses_blank (rightUnblank c (by simp)) plain, last]
  simp

theorem sides_equality (leftWhole : ∀ c ∈ first, isSeparator c = false) :
    sides (first ++ ' ' :: '=' :: ' ' :: second) = [first ++ [' '], ' ' :: second] := by
  have unequal : '=' ∉ first ++ [' '] := by
    intro equal
    rw [List.mem_append, List.mem_singleton] at equal
    exact equal.elim (fun inside => absurd (leftWhole '=' inside) (by decide)) (by decide)
  have split := splitEquality_append (' ' :: second) unequal
  rw [List.append_assoc, List.singleton_append] at split
  rw [sides, split]
  simp

end Equality

section Quoted

variable {left right : String × String} (leftBare : Bare left.1 ∧ Bare left.2)
  (rightBare : Bare right.1 ∧ Bare right.2)
include leftBare rightBare

theorem quotedEquality_toList :
    (quotedEquality left right).render.toList =
      (quotedText left).toList ++ ' ' :: '=' :: ' ' :: (quotedText right).toList := by
  rw [quotedEquality_render leftBare rightBare]
  simp

variable (leftReadable : Readable left) (rightReadable : Readable right)
include leftReadable rightReadable

theorem references_quotedEquality (different : left.1 ≠ right.1) :
    references (quotedEquality left right).render = [left.1, right.1] := by
  have leftWhole := quotedText_unseparated leftBare leftReadable
  have rightWhole := quotedText_unseparated rightBare rightReadable
  have leftNamed := (splitQualified_quotedText_iff leftBare).mpr leftReadable
  have rightNamed := (splitQualified_quotedText_iff rightBare).mpr rightReadable
  rw [references, quotedEquality_toList leftBare rightBare,
    words_equality (by simp [quotedText]) leftWhole (by simp [quotedText]) rightWhole]
  simp [leftNamed, rightNamed, List.eraseDups_cons, Ne.symm different]

theorem equalitySides_quotedEquality :
    equalitySides (quotedEquality left right).render =
      [(quotedText left).toList ++ [' '], ' ' :: (quotedText right).toList] := by
  have leftWhole := quotedText_unseparated leftBare leftReadable
  have rightWhole := quotedText_unseparated rightBare rightReadable
  have plain : connectiveLength (quotedText right).toList = 0 := by
    rw [quotedText_toList]
    rfl
  rw [equalitySides, quotedEquality_toList leftBare rightBare,
    clauses_equality leftWhole (by simp [quotedText]) rightWhole plain, List.flatMap_singleton,
    sides_equality leftWhole]

theorem columns_quotedEquality : columns (quotedEquality left right).render = [left, right] := by
  have blank : Text.isBlank ' ' = true := by decide
  have leftSide : bareSide ((quotedText left).toList ++ [' ']) = (quotedText left).toList :=
    bareSide_between [] [' '] (by simp [blank]) (quotedText_unseparated leftBare leftReadable)
  have rightSide : bareSide (' ' :: (quotedText right).toList) = (quotedText right).toList := by
    simpa using bareSide_between [' '] [] (by simp [blank])
      (quotedText_unseparated rightBare rightReadable)
  have leftNamed := (splitQualified_quotedText_iff leftBare).mpr leftReadable
  have rightNamed := (splitQualified_quotedText_iff rightBare).mpr rightReadable
  rw [columns_eq_sides,
    equalitySides_quotedEquality leftBare rightBare leftReadable rightReadable]
  simp [sideColumn, leftSide, rightSide, leftNamed, rightNamed]

end Quoted

/-- The condition names the two columns and no others, and a join onto the second relation starts
    from the first. -/
structure Resolves (condition : String) (left right : String × String) : Prop where
  references : references condition = [left.1, right.1]
  columns : columns condition = [left, right]
  source : ∀ default, inferSource condition right.1 default = left.1

theorem quotedEquality_resolves {left right : String × String}
    (leftBare : Bare left.1 ∧ Bare left.2) (rightBare : Bare right.1 ∧ Bare right.2)
    (leftReadable : Readable left) (rightReadable : Readable right)
    (different : left.1 ≠ right.1) :
    Resolves (quotedEquality left right).render left right := by
  have named := references_quotedEquality leftBare rightBare leftReadable rightReadable different
  refine ⟨named, columns_quotedEquality leftBare rightBare leftReadable rightReadable, ?_⟩
  intro default
  rw [inferSource, named]
  simp [different]

end Condition

end JoinDiagram
