import JoinDiagram.Proofs.Condition.Operand

namespace JoinDiagram.Condition

open Text (isBlank)

inductive Comparison where
  | equal
  | less
  | greater
  | lessEqual
  | greaterEqual
  | notEqual
  | unequal
  | nullSafe
  | doubleEqual
  | arrow
deriving DecidableEq

def Comparison.text : Comparison → List Char
  | equal => ['=']
  | less => ['<']
  | greater => ['>']
  | lessEqual => ['<', '=']
  | greaterEqual => ['>', '=']
  | notEqual => ['!', '=']
  | unequal => ['<', '>']
  | nullSafe => ['<', '=', '>']
  | doubleEqual => ['=', '=']
  | arrow => ['=', '>']

structure ComparisonClause where
  left : Operand
  comparison : Comparison
  right : Operand

structure ComparisonLink where
  connector : List Char
  connects : IsConnector connector
  clause : ComparisonClause

structure ComparisonChain where
  first : ComparisonClause
  more : List ComparisonLink

namespace Comparison

theorem separators (comparison : Comparison) : ∀ c ∈ comparison.text, isSeparator c := by
  cases comparison <;> decide

theorem undotted (comparison : Comparison) : '.' ∉ comparison.text :=
  fun dot => absurd (comparison.separators '.' dot) (by decide)

theorem filled (comparison : Comparison) : comparison.text ≠ [] := by
  cases comparison <;> exact List.cons_ne_nil _ _

theorem foreign (comparison : Comparison) : ∀ c ∈ comparison.text, Foreign c := by
  cases comparison <;> decide

theorem unconnected (comparison : Comparison) : Unconnected comparison.text := by
  have foreign := comparison.foreign
  obtain ⟨c, rest, spelled⟩ := List.exists_cons_of_ne_nil comparison.filled
  rw [spelled] at foreign ⊢
  exact .word [] rest (fun d member => (foreign d (List.mem_cons_of_mem c member)).solid)
    (foreign c List.mem_cons_self)

theorem splitEquality_none {comparison : Comparison} {left right : List Char}
    (other : comparison ≠ .equal) (leftUnequal : '=' ∉ left) (rightUnequal : '=' ∉ right) :
    splitEquality (left ++ (comparison.text ++ right)) = none := by
  have before : ∀ c ∈ ['<', '>', '!'], ∀ rest, splitEquality (left ++ c :: '=' :: rest) = none := by
    intro c mark rest
    have tight : '=' ∉ left ++ [c] := by
      have listed : ∀ c ∈ ['<', '>', '!'], '=' ≠ c := by decide
      simp [leftUnequal, listed c mark]
    have spelled : left ++ c :: '=' :: rest = (left ++ [c]) ++ '=' :: rest := by simp
    rw [spelled, splitEquality_append rest tight, List.getLast?_concat, if_pos]
    rw [Option.any_some, List.contains_iff_mem.mpr mark, Bool.true_or]
  have after : ∀ c ∈ ['=', '>'], ∀ rest, splitEquality (left ++ '=' :: c :: rest) = none := by
    intro c mark rest
    rw [splitEquality_append _ leftUnequal, List.head?_cons, if_pos]
    rw [Option.any_some, List.contains_iff_mem.mpr mark, Bool.or_true]
  cases comparison with
  | equal => exact absurd rfl other
  | less | greater | unequal =>
    exact splitEquality_of_notMem (by simp [text, leftUnequal, rightUnequal])
  | lessEqual => exact before '<' (by decide) right
  | greaterEqual => exact before '>' (by decide) right
  | notEqual => exact before '!' (by decide) right
  | nullSafe => exact before '<' (by decide) ('>' :: right)
  | doubleEqual => exact after '=' (by decide) right
  | arrow => exact after '>' (by decide) right

end Comparison

namespace ComparisonClause

def text (c : ComparisonClause) : List Char := c.left.text ++ (c.comparison.text ++ c.right.text)

def relations (c : ComparisonClause) : List String := [c.left.name.relation, c.right.name.relation]

def columns (c : ComparisonClause) : List (String × String) :=
  if c.comparison = .equal then [c.left.name.column, c.right.name.column] else []

theorem unconnected (c : ComparisonClause) : Unconnected c.text :=
  c.left.unconnected.append (c.comparison.unconnected.append c.right.unconnected)

theorem filled (c : ComparisonClause) : c.text.dropWhile isBlank ≠ [] := by
  intro blank
  rw [List.dropWhile_eq_nil_iff] at blank
  have dot := blank '.' (by simp [text, Operand.text, QualifiedName.text])
  exact absurd dot (by decide)

theorem namedIn_text (c : ComparisonClause) : namedIn c.text = c.relations := by
  have operator := c.comparison.separators
  have apart : BeginsApart (c.comparison.text ++ c.right.text) := by
    obtain ⟨d, rest, spelled⟩ := List.exists_cons_of_ne_nil c.comparison.filled
    rw [spelled] at operator ⊢
    exact .inr ⟨d, rest ++ c.right.text, rfl, operator d List.mem_cons_self⟩
  rw [text, namedIn_append_begins apart, namedIn_append_ends (endsApart_of_separators operator),
    namedIn_of_undotted c.comparison.undotted, c.left.namedIn_text, c.right.namedIn_text]
  rfl

theorem clauseColumns_text (c : ComparisonClause) :
    clauseColumns c.text = c.columns := by
  have equal : '=' ∈ ['=', '<', '>', '!'] := by decide
  rw [clauseColumns_eq_getD, columns, text]
  split
  · rename_i equality
    rw [equality]
    have split := splitEquality_equal c.left.unmarked c.right.unmarked
    rw [show Comparison.text .equal ++ c.right.text = '=' :: c.right.text from rfl, split,
      Option.map_some, Option.getD_some, c.left.sideColumn_text, c.right.sideColumn_text]
    rfl
  · rename_i other
    rw [Comparison.splitEquality_none other (c.left.unmarked '=' equal) (c.right.unmarked '=' equal)]
    rfl

end ComparisonClause

namespace ComparisonChain

def clauses (chain : ComparisonChain) : List ComparisonClause :=
  chain.first :: chain.more.map (·.clause)

def chars (chain : ComparisonChain) : List Char :=
  connect chain.first.text (chain.more.map fun link => (link.connector, link.clause.text))

def text (chain : ComparisonChain) : String := String.ofList chain.chars

def relations (chain : ComparisonChain) : List String :=
  chain.clauses.flatMap ComparisonClause.relations

theorem namedIn_links (links : List ComparisonLink) :
    BeginsApart (links.flatMap fun link => link.connector ++ link.clause.text) ∧
      namedIn (links.flatMap fun link => link.connector ++ link.clause.text) =
        links.flatMap fun link => link.clause.relations := by
  induction links with
  | nil => exact ⟨.inl rfl, rfl⟩
  | cons link rest ih =>
    obtain ⟨⟨c, others, spelled, separator⟩, start, d, ending, last⟩ := link.connects.bounds
    have begins : BeginsApart (link.connector ++ link.clause.text ++
        rest.flatMap fun link => link.connector ++ link.clause.text) :=
      .inr ⟨c, _, by rw [spelled]; rfl, separator⟩
    have ends : EndsApart link.connector := .inr ⟨start, d, ending, last⟩
    refine ⟨begins, ?_⟩
    rw [List.flatMap_cons, namedIn_append_begins ih.1, namedIn_append_ends ends,
      namedIn_of_undotted link.connects.undotted, link.clause.namedIn_text, ih.2, List.flatMap_cons,
      List.nil_append]

theorem namedIn_chars (chain : ComparisonChain) : namedIn chain.chars = chain.relations := by
  have links := namedIn_links chain.more
  rw [chars, connect, List.flatMap_map, namedIn_append_begins links.1, links.2,
    chain.first.namedIn_text, relations, clauses, List.flatMap_cons, List.flatMap_map]

theorem columns_text (chain : ComparisonChain) :
    Condition.columns chain.text = chain.clauses.flatMap ComparisonClause.columns := by
  have links : ∀ link ∈ chain.more.map fun link => (link.connector, link.clause.text),
      IsConnector link.1 ∧ Unconnected link.2 ∧ link.2.dropWhile isBlank ≠ [] := by
    simp only [List.mem_map]
    rintro _ ⟨link, -, rfl⟩
    exact ⟨link.connects, link.clause.unconnected, link.clause.filled⟩
  rw [columns_eq, text, String.toList_ofList, chars,
    clauseColumns_connect chain.first.unconnected links, clauses, List.flatMap_cons,
    List.flatMap_map, List.flatMap_map]
  simp only [ComparisonClause.clauseColumns_text]

theorem references_text (chain : ComparisonChain) :
    Condition.references chain.text = chain.relations.eraseDups := by
  rw [references_eq_namedIn, text, String.toList_ofList, namedIn_chars]

def ofEquality (left right : QualifiedName) : ComparisonChain where
  first :=
    { left := { name := left, after := [' '] }
      comparison := .equal
      right := { before := [' '], name := right } }
  more := []

section Equality

variable (left right : QualifiedName)

theorem ofEquality_text :
    (ofEquality left right).text = String.ofList (left.text ++ ' ' :: '=' :: ' ' :: right.text) := by
  simp [text, chars, connect, ofEquality, ComparisonClause.text, Operand.text, Operand.tail,
    Operand.castText, Comparison.text]

theorem ofEquality_columns :
    Condition.columns (ofEquality left right).text = [left.column, right.column] := by
  rw [columns_text]
  rfl

theorem ofEquality_source (different : left.relation ≠ right.relation) (default : String) :
    inferSource (ofEquality left right).text right.relation default = left.relation := by
  have relations : (ofEquality left right).relations = [left.relation, right.relation] := rfl
  rw [inferSource, references_text, find_eraseDups, relations,
    List.find?_cons_of_pos (by simpa using different), Option.getD_some]

end Equality

/-- What is read from a chain of comparisons: the columns of its equalities, left before right; the
    relations of all names, each once; and as source the first of them that is not the target. -/
theorem reading (chain : ComparisonChain) :
    Condition.columns chain.text = chain.clauses.flatMap ComparisonClause.columns ∧
      Condition.references chain.text = chain.relations.eraseDups ∧
      ∀ target default, inferSource chain.text target default =
        (chain.relations.find? (· != target)).getD default := by
  refine ⟨chain.columns_text, chain.references_text, fun target default => ?_⟩
  rw [inferSource, chain.references_text, find_eraseDups]

def mixed : ComparisonChain where
  first :=
    { left :=
        { before := ['(']
          name := { first := { word := ['a', 'n', 'd'] }, field := { word := ['x'] } }
          after := [')', ' '] }
      comparison := .equal
      right :=
        { before := [' ']
          name :=
            { first := { word := ['o', 'r'], quotation := .double }
              field := { word := ['y'], quotation := .double } } } }
  more :=
    [{ connector := [' ', 'A', 'N', 'D', ' ']
       connects := ⟨[' '], ['A', 'N', 'D'], [' '], by decide⟩
       clause :=
        { left := { name := { first := { word := ['a'] }, field := { word := ['b'] } } }
          comparison := .nullSafe
          right := { name := { first := { word := ['c'] }, field := { word := ['d'] } } } } },
     { connector := [' ', 'o', 'R', ' ']
       connects := ⟨[' '], ['o', 'R'], [' '], by decide⟩
       clause :=
        { left :=
            { name := { first := { word := ['a'], quotation := .brackets }, field := { word := ['k'] } }
              cast := some { word := ['i', 'n', 't'] } }
          comparison := .equal
          right :=
            { name :=
                { first := { word := ['s'] }
                  more := [{ word := ['e'] }]
                  field := { word := ['f'] } } } } }]

theorem reading_mixed :
    mixed.text = "(and.x) = \"or\".\"y\" AND a.b<=>c.d oR [a].k::int=s.e.f" ∧
      columns mixed.text = [("and", "x"), ("or", "y"), ("a", "k"), ("s.e", "f")] ∧
      references mixed.text = ["and", "or", "a", "c", "s.e"] ∧
      inferSource mixed.text "and" "none" = "or" := by
  obtain ⟨columns, references, source⟩ := reading mixed
  refine ⟨by decide, ?_, ?_, ?_⟩
  · rw [columns]
    decide
  · rw [references]
    decide
  · rw [source]
    decide

end ComparisonChain

end JoinDiagram.Condition
