import JoinDiagram.Proofs.Condition.Equality
import JoinDiagram.Proofs.Condition.Quote
import JoinDiagram.Proofs.Condition.References

namespace JoinDiagram.Condition

open Text (isBlank)

def withLiteral (before body after : String) : String := before ++ "'" ++ body ++ "'" ++ after

theorem toList_withLiteral (before body after : String) :
    (withLiteral before body after).toList =
      (before.toList ++ '\'' :: body.toList) ++ '\'' :: after.toList := by
  simp [withLiteral]

structure SameReading (condition other : String) : Prop where
  references : references condition = references other
  columns : columns condition = columns other
  source : ∀ target default, inferSource condition target default = inferSource other target default

def openPiece (pieces : List (List Char)) : List Char := pieces.getLast?.getD []

theorem atQuote_eq (before after : List (List Char)) :
    atQuote before after =
      before.dropLast ++ (openPiece before ++ '\'' :: after.head?.getD []) :: after.tail := rfl

theorem atQuote_whole (before after : List (List Char)) (piece : List Char) :
    atQuote (atQuote before [piece]) after =
      before.dropLast ++
        (openPiece before ++ '\'' :: (piece ++ '\'' :: after.head?.getD [])) :: after.tail := by
  simp [atQuote, openPiece]

theorem atQuote_cut (before after : List (List Char)) (first : List Char)
    {others : List (List Char)} (filled : others ≠ []) :
    atQuote (atQuote before (first :: others)) after =
      before.dropLast ++ (openPiece before ++ '\'' :: first) ::
        (others.dropLast ++ (openPiece others ++ '\'' :: after.head?.getD []) :: after.tail) := by
  obtain ⟨start, last, rfl⟩ := (List.eq_nil_or_concat others).resolve_left filled
  rw [atQuote_eq before]
  simp only [atQuote, openPiece, List.head?_cons, Option.getD_some, List.tail_cons,
    List.concat_eq_append]
  rw [← List.cons_append, ← List.append_assoc, List.dropLast_concat, List.getLast?_concat,
    List.dropLast_concat, List.getLast?_concat]
  simp

def namesBefore (text : String) : List String :=
  (text.toList.splitOnP isSeparator).dropLast.filterMap wordReference

def namesAfter (text : String) : List String :=
  (text.toList.splitOnP isSeparator).tail.filterMap wordReference

/-- The relations that are named between the first and the last separator of a literal. -/
def literalNames (body : String) : List String :=
  (body.toList.splitOnP isSeparator).tail.dropLast.filterMap wordReference

theorem wordReference_quoted (before after : List Char) :
    wordReference (before ++ '\'' :: after) = none := by
  rw [wordReference, quoted_unqualified (by simp), Option.map_none]

theorem references_withLiteral (before body after : String) :
    references (withLiteral before body after) =
      (namesBefore before ++ literalNames body ++ namesAfter after).eraseDups := by
  rw [references_eq, toList_withLiteral, splitOnP_atQuote, splitOnP_atQuote, namesBefore,
    literalNames, namesAfter]
  obtain ⟨first, others, split⟩ :=
    List.exists_cons_of_ne_nil (List.splitOnP_ne_nil isSeparator body.toList)
  rw [split]
  cases others with
  | nil =>
    rw [atQuote_whole, List.filterMap_append, List.filterMap_cons, wordReference_quoted]
    simp
  | cons next rest =>
    rw [atQuote_cut _ _ _ (List.cons_ne_nil next rest), List.filterMap_append,
      List.filterMap_cons, wordReference_quoted, List.filterMap_append, List.filterMap_cons,
      wordReference_quoted, List.tail_cons, List.append_assoc]

theorem beforeCast_quote (cs : List Char) :
    (∀ rest, beforeCast (cs ++ '\'' :: rest) = beforeCast (cs ++ ['\''])) ∨
      ∀ rest, '\'' ∈ beforeCast (cs ++ '\'' :: rest) := by
  induction cs with
  | nil =>
    right
    intro rest
    rw [List.nil_append, beforeCast_cons, if_neg (by simp)]
    exact List.mem_cons_self
  | cons c cs ih =>
    have next : ∀ rest, (cs ++ '\'' :: rest).head? = (cs ++ ['\'']).head? := by
      intro rest
      cases cs <;> rfl
    simp only [List.cons_append, beforeCast_cons, next]
    by_cases cast : (c == ':' && (cs ++ ['\'']).head? == some ':') = true
    · left
      intro rest
      rw [if_pos cast, if_pos cast]
    · simp only [if_neg cast]
      rcases ih with same | quoted
      · left
        intro rest
        rw [same]
      · right
        intro rest
        exact List.mem_cons_of_mem c (quoted rest)

theorem sideColumn_quote (side rest : List Char) :
    sideColumn (side ++ '\'' :: rest) = sideColumn (side ++ ['\'']) := by
  let bare (cs : List Char) := cs.filter fun c => !(isBlank c || c == '(' || c == ')')
  have split : ∀ rest, bareSide (side ++ '\'' :: rest) = beforeCast (bare side ++ '\'' :: bare rest) := by
    intro rest
    rw [bareSide, List.filter_append, List.filter_cons_of_pos (by decide)]
  rcases beforeCast_quote (bare side) with same | quoted
  · rw [sideColumn, sideColumn, split, split, same, same (bare [])]
  · rw [sideColumn, sideColumn, split, split, quoted_unqualified (quoted _),
      quoted_unqualified (quoted _)]

theorem splitEquality_quote_after {clause : List Char} (rest : List Char) (equal : '=' ∈ clause) :
    splitEquality (clause ++ '\'' :: rest) =
      (splitEquality clause).map fun sides => (sides.1, sides.2 ++ '\'' :: rest) := by
  obtain ⟨left, right, rfl, unequal⟩ := List.eq_append_cons_of_mem equal
  have next : (right ++ '\'' :: rest).head?.any ['=', '>'].contains =
      right.head?.any ['=', '>'].contains := by
    cases right <;> simp
  rw [List.append_assoc, List.cons_append, splitEquality_append _ unequal,
    splitEquality_append _ unequal, next]
  split <;> rfl

theorem splitEquality_quote_before {start : List Char} (clause : List Char) (unequal : '=' ∉ start) :
    splitEquality (start ++ '\'' :: clause) =
      (splitEquality clause).map fun sides => (start ++ '\'' :: sides.1, sides.2) := by
  by_cases equal : '=' ∈ clause
  · obtain ⟨left, right, rfl, unequalLeft⟩ := List.eq_append_cons_of_mem equal
    have unequalBoth : '=' ∉ start ++ '\'' :: left := by simp [unequal, unequalLeft]
    have last : (start ++ '\'' :: left).getLast?.any ['<', '>', '!'].contains =
        left.getLast?.any ['<', '>', '!'].contains := by
      rcases List.eq_nil_or_concat left with rfl | ⟨others, c, rfl⟩
      · simp
      · rw [List.concat_eq_append, ← List.cons_append, ← List.append_assoc, List.getLast?_concat,
          List.getLast?_concat]
    have whole : start ++ '\'' :: (left ++ '=' :: right) =
        (start ++ '\'' :: left) ++ '=' :: right := by simp
    rw [whole, splitEquality_append _ unequalBoth, splitEquality_append _ unequalLeft, last]
    split <;> rfl
  · rw [splitEquality_of_notMem equal, splitEquality_of_notMem (by simp [unequal, equal])]
    rfl

def opening (side : List Char) : List (String × String) := (sideColumn (side ++ ['\''])).toList

def equate (left : List (String × String)) (clause : List Char) : List (String × String) :=
  ((splitEquality clause).map fun sides => left ++ (sideColumn sides.2).toList).getD []

theorem clauseColumns_closed {clause : List Char} (rest : List Char) (equal : '=' ∈ clause) :
    clauseColumns (clause ++ '\'' :: rest) = clauseColumns (clause ++ ['\'']) := by
  simp only [clauseColumns_eq_getD, splitEquality_quote_after _ equal, Option.map_map,
    Function.comp_def, sideColumn_quote _ rest]

theorem clauseColumns_open {start : List Char} (clause : List Char) (unequal : '=' ∉ start) :
    clauseColumns (start ++ '\'' :: clause) = equate (opening start) clause := by
  simp only [clauseColumns_eq_getD, splitEquality_quote_before _ unequal, Option.map_map,
    Function.comp_def, sideColumn_quote start, equate, opening]

theorem equate_closed {clause : List Char} (left : List (String × String)) (rest : List Char)
    (equal : '=' ∈ clause) :
    equate left (clause ++ '\'' :: rest) =
      ((splitEquality clause).map fun sides => left ++ opening sides.2).getD [] := by
  simp only [equate, splitEquality_quote_after _ equal, Option.map_map, Function.comp_def,
    sideColumn_quote _ rest, opening]

theorem equate_open {start : List Char} (left : List (String × String)) (clause : List Char)
    (unequal : '=' ∉ start) : equate left (start ++ '\'' :: clause) = equate left clause := by
  simp only [equate, splitEquality_quote_before _ unequal, Option.map_map, Function.comp_def]

/-- What a literal does to the columns of a condition. An unseen one leaves its clause whole. Any
    other ends what stands open before it and opens something of its own: `first` is what an equality
    begun before the literal gets from it, `within` are the columns of its own, and `last` is the
    side that an equality may complete behind it. -/
inductive Effect
  | unseen
  | cuts (first : Option (List (String × String))) (within : List (String × String))
      (last : Option (List (String × String)))
deriving DecidableEq

def Effect.columns (effect : Effect) (before after : List Char) : List (String × String) :=
  match effect with
  | unseen =>
    if '=' ∈ before then clauseColumns (before ++ ['\'']) else equate (opening before) after
  | cuts first within last =>
    (if '=' ∈ before then clauseColumns (before ++ ['\''])
      else (first.map (opening before ++ ·)).getD []) ++
      within ++ (last.map (equate · after)).getD []

def clauseEffect (clause : List Char) : Effect :=
  if '=' ∈ clause then .cuts ((splitEquality clause).map fun sides => opening sides.2) [] none
  else .unseen

def cutEffect (first : List Char) (others : List (List Char)) : Effect :=
  .cuts ((splitEquality first).map fun sides => (sideColumn sides.2).toList)
    (others.dropLast.flatMap clauseColumns ++
      if '=' ∈ openPiece others then clauseColumns (openPiece others ++ ['\'']) else [])
    (if '=' ∈ openPiece others then none else some (opening (openPiece others)))

def literalEffect (body : String) : Effect :=
  match clauses body.toList with
  | [] => .unseen
  | [clause] => clauseEffect clause
  | first :: next :: others => cutEffect first (next :: others)

theorem clauseEffect_columns (before clause after : List Char) :
    (clauseEffect clause).columns before after =
      clauseColumns (before ++ '\'' :: (clause ++ '\'' :: after)) := by
  by_cases closed : '=' ∈ before
  · rw [clauseColumns_closed _ closed, clauseEffect]
    split <;> simp [Effect.columns, closed]
  · rw [clauseColumns_open _ closed, clauseEffect]
    by_cases equal : '=' ∈ clause
    · rw [if_pos equal, equate_closed _ _ equal, Effect.columns, if_neg closed, Option.map_map]
      simp [Function.comp_def]
    · rw [if_neg equal, equate_open _ _ equal, Effect.columns, if_neg closed]

theorem cutEffect_columns (before first after : List Char) (others : List (List Char)) :
    (cutEffect first others).columns before after =
      clauseColumns (before ++ '\'' :: first) ++ others.dropLast.flatMap clauseColumns ++
        clauseColumns (openPiece others ++ '\'' :: after) := by
  have ends : (if '=' ∈ before then clauseColumns (before ++ ['\''])
      else (((splitEquality first).map fun sides => (sideColumn sides.2).toList).map
        (opening before ++ ·)).getD []) = clauseColumns (before ++ '\'' :: first) := by
    by_cases closed : '=' ∈ before
    · rw [if_pos closed, clauseColumns_closed first closed]
    · rw [if_neg closed, clauseColumns_open _ closed, equate, Option.map_map]
      rfl
  have begins : (if '=' ∈ openPiece others then clauseColumns (openPiece others ++ ['\'']) else []) ++
      ((if '=' ∈ openPiece others then none else some (opening (openPiece others))).map
        (equate · after)).getD [] = clauseColumns (openPiece others ++ '\'' :: after) := by
    by_cases closed : '=' ∈ openPiece others
    · rw [if_pos closed, if_pos closed, clauseColumns_closed after closed]
      simp
    · rw [if_neg closed, if_neg closed, clauseColumns_open _ closed]
      simp
  rw [cutEffect, Effect.columns, ends, ← begins]
  simp only [List.append_assoc]

def openClause (text : String) : List Char := openPiece (clauses text.toList)

def firstClause (text : String) : List Char := (clauses text.toList).head?.getD []

theorem clauses_ne_nil (cs : List Char) : clauses cs ≠ [] := by
  rw [clauses_eq]
  exact List.cons_ne_nil _ _

theorem columns_withLiteral (before body after : String) :
    columns (withLiteral before body after) =
      (clauses before.toList).dropLast.flatMap clauseColumns ++
        (literalEffect body).columns (openClause before) (firstClause after) ++
        (clauses after.toList).tail.flatMap clauseColumns := by
  rw [columns_eq, toList_withLiteral, clauses_atQuote, clauses_atQuote, literalEffect]
  match split : clauses body.toList with
  | [] => exact absurd split (clauses_ne_nil _)
  | [clause] =>
    rw [atQuote_whole, List.flatMap_append, List.flatMap_cons, clauseEffect_columns, openClause,
      firstClause, List.append_assoc]
  | first :: next :: others =>
    rw [atQuote_cut _ _ _ (List.cons_ne_nil next others), List.flatMap_append, List.flatMap_cons,
      List.flatMap_append, List.flatMap_cons, cutEffect_columns, openClause, firstClause]
    simp only [List.append_assoc]

theorem sameReading_iff (condition other : String) :
    SameReading condition other ↔
      references condition = references other ∧ columns condition = columns other := by
  constructor
  · intro same
    exact ⟨same.references, same.columns⟩
  · rintro ⟨names, pairs⟩
    refine ⟨names, pairs, ?_⟩
    intro target default
    rw [inferSource, inferSource, names]

/-- The columns are the same in four surroundings, whose first clause either has an equals sign or
    leaves a side open, and whose second begins with one or has none. -/
def Effect.Alike (effect other : Effect) : Prop :=
  ∀ before ∈ ["=", "a.b::"], ∀ after ∈ ["", "=c.d"],
    effect.columns (openClause before) (firstClause after) =
      other.columns (openClause before) (firstClause after)

theorem Effect.columns_closed (effect : Effect) (after : List Char) :
    effect.columns (openClause "=") after =
      match effect with
      | unseen => []
      | cuts _ within last => within ++ (last.map (equate · after)).getD [] := by
  have closed : '=' ∈ openClause "=" := by decide +kernel
  have empty : clauseColumns (openClause "=" ++ ['\'']) = [] := by decide +kernel
  cases effect <;> simp [columns, closed, empty]

theorem Effect.columns_open (effect : Effect) (after : List Char) :
    effect.columns (openClause "a.b::") after =
      match effect with
      | unseen => equate [("a", "b")] after
      | cuts first within last => (first.map (("a", "b") :: ·)).getD [] ++ within ++
          (last.map (equate · after)).getD [] := by
  have unclosed : '=' ∉ openClause "a.b::" := by decide +kernel
  have side : opening (openClause "a.b::") = [("a", "b")] := by decide +kernel
  cases effect <;> simp [columns, unclosed, side]

theorem equate_ended (left : List (String × String)) : equate left (firstClause "") = [] := by
  have unequal : splitEquality (firstClause "") = none := by decide +kernel
  rw [equate, unequal]
  rfl

theorem equate_completed (left : List (String × String)) :
    equate left (firstClause "=c.d") = left ++ [("c", "d")] := by
  have right : (splitEquality (firstClause "=c.d")).map (fun sides => (sideColumn sides.2).toList) =
      some [("c", "d")] := by
    decide +kernel
  obtain ⟨sides, split, side⟩ := Option.map_eq_some_iff.mp right
  rw [equate, split, Option.map_some, Option.getD_some, side]

theorem Effect.Alike.unseen {first last : Option (List (String × String))}
    {within : List (String × String)} (alike : unseen.Alike (cuts first within last)) : False := by
  have later := alike "=" (by simp) "=c.d" (by simp)
  have sooner := alike "a.b::" (by simp) "" (by simp)
  have whole := alike "a.b::" (by simp) "=c.d" (by simp)
  simp only [columns_closed, columns_open, equate_ended, equate_completed] at later sooner whole
  cases first with
  | some given => simp at sooner
  | none =>
    cases last with
    | some side => simp at later
    | none =>
      -- Only an unseen literal lets an equality reach across it.
      have empty : within = [] := by simpa using sooner.symm
      simp [empty] at whole

theorem getD_map_inj {α : Type} {f : List α → List α} (filled : ∀ xs, f xs ≠ [])
    (injective : ∀ xs ys, f xs = f ys → xs = ys) {part other : Option (List α)}
    (same : (part.map f).getD [] = (other.map f).getD []) : part = other := by
  cases part with
  | none =>
    cases other with
    | none => rfl
    | some ys => exact absurd same.symm (filled ys)
  | some xs =>
    cases other with
    | none => exact absurd same (filled xs)
    | some ys => rw [injective xs ys same]

theorem Effect.Alike.eq {effect other : Effect} (alike : effect.Alike other) : effect = other := by
  cases effect with
  | unseen =>
    cases other with
    | unseen => rfl
    | cuts => exact alike.unseen.elim
  | cuts first within last =>
    cases other with
    | unseen =>
      have symm : Effect.unseen.Alike (cuts first within last) :=
        fun before left after right => (alike before left after right).symm
      exact symm.unseen.elim
    | cuts first' within' last' =>
      have inner := alike "=" (by simp) "" (by simp)
      have later := alike "=" (by simp) "=c.d" (by simp)
      have sooner := alike "a.b::" (by simp) "" (by simp)
      have silent : ∀ side : Option (List (String × String)),
          (side.map fun _ => ([] : List (String × String))).getD [] = [] := by
        intro side
        cases side <;> rfl
      simp only [columns_closed, columns_open, equate_ended, equate_completed, silent,
        List.append_nil] at inner later sooner
      subst inner
      rw [getD_map_inj (by simp) (by simp) (List.append_cancel_left later),
        getD_map_inj (by simp) (by simp) (List.append_cancel_right sooner)]

theorem sameReading_withLiteral_iff (before body other after : String) :
    SameReading (withLiteral before body after) (withLiteral before other after) ↔
      (namesBefore before ++ literalNames body ++ namesAfter after).eraseDups =
          (namesBefore before ++ literalNames other ++ namesAfter after).eraseDups ∧
        (literalEffect body).columns (openClause before) (firstClause after) =
          (literalEffect other).columns (openClause before) (firstClause after) := by
  rw [sameReading_iff, references_withLiteral, references_withLiteral, columns_withLiteral,
    columns_withLiteral, List.append_cancel_right_eq, List.append_cancel_left_eq]

/-- Two literals are read alike at one place exactly if the relations named inside them add the same
    to those named around them, and their effects there are the same. They are read alike wherever a
    literal may stand exactly if they name the same relations inside and have the same effect. -/
theorem literal_reading_iff (body other : String) :
    (∀ before after,
      SameReading (withLiteral before body after) (withLiteral before other after) ↔
        (namesBefore before ++ literalNames body ++ namesAfter after).eraseDups =
            (namesBefore before ++ literalNames other ++ namesAfter after).eraseDups ∧
          (literalEffect body).columns (openClause before) (firstClause after) =
            (literalEffect other).columns (openClause before) (firstClause after)) ∧
    ((∀ before after, before.toList.count '\'' % 2 = 0 →
        SameReading (withLiteral before body after) (withLiteral before other after)) ↔
      (literalNames body).eraseDups = (literalNames other).eraseDups ∧
        literalEffect body = literalEffect other) := by
  refine ⟨fun before after => sameReading_withLiteral_iff before body other after, ?_, ?_⟩
  · intro same
    constructor
    · have alone := ((sameReading_withLiteral_iff "" body other "").mp (same "" "" rfl)).1
      have nothing : namesBefore "" = [] ∧ namesAfter "" = [] := ⟨rfl, rfl⟩
      simpa [nothing] using alone
    · -- No quotes stand in the surroundings that tell two effects apart.
      apply Effect.Alike.eq
      intro before left after right
      have even : before.toList.count '\'' % 2 = 0 := by
        rcases List.mem_pair.mp left with rfl | rfl
        · decide
        · decide
      exact ((sameReading_withLiteral_iff before body other after).mp (same before after even)).2
  · rintro ⟨names, effects⟩ before after -
    rw [sameReading_withLiteral_iff, effects]
    exact ⟨eraseDups_congr_part _ _ names, rfl⟩

theorem literal_read_as_names :
    inferSource (withLiteral "o.rule = " "closed or b.id = d.id or late" "") "o" "c" = "b" ∧
    ("b", "id") ∈ columns (withLiteral "o.rule = " "closed or b.id = d.id or late" "") ∧
    inferSource (withLiteral "o.rule = " "open" "") "o" "c" = "c" ∧
    ("b", "id") ∉ columns (withLiteral "o.rule = " "open" "") ∧
    ¬ ∀ before after body other : String, before.toList.count '\'' % 2 = 0 →
      '\'' ∉ body.toList → '\'' ∉ other.toList →
        SameReading (withLiteral before body after) (withLiteral before other after) := by
  have source : inferSource (withLiteral "o.rule = " "closed or b.id = d.id or late" "") "o" "c" =
      "b" := by
    decide +kernel
  have plain : inferSource (withLiteral "o.rule = " "open" "") "o" "c" = "c" := by decide +kernel
  refine ⟨source, by decide +kernel, plain, by decide +kernel, ?_⟩
  intro alike
  have same := alike "o.rule = " "" "closed or b.id = d.id or late" "open" (by decide) (by decide)
    (by decide)
  have sources := same.source "o" "c"
  rw [source, plain] at sources
  exact absurd sources (by decide)

theorem literalEffect_eq_unseen_iff (body : String) :
    literalEffect body = .unseen ↔
      '=' ∉ body.toList ∧ (splitClauses false body.toList).2 = [] := by
  have rebuilt := splitClauses_rebuild false body.toList
  rw [literalEffect, clauses_eq]
  generalize splitClauses false body.toList = split at rebuilt
  obtain ⟨first, pieces⟩ := split
  cases pieces with
  | nil =>
    have whole : first = body.toList := by simpa using rebuilt
    simp [whole, clauseEffect]
  | cons piece rest => simp [cutEffect]

theorem sameReading_of_unseparated {body other : String}
    (unseparated : ∀ c ∈ body.toList ++ other.toList, isSeparator c = false)
    (before after : String) :
    SameReading (withLiteral before body after) (withLiteral before other after) := by
  have unread : ∀ text : String, (∀ c ∈ text.toList, isSeparator c = false) →
      literalNames text = [] ∧ literalEffect text = .unseen := by
    intro text inside
    constructor
    · rw [literalNames, List.splitOnP_eq_singleton inside]
      rfl
    · rw [literalEffect_eq_unseen_iff]
      refine ⟨fun equal => absurd (inside '=' equal) (by decide), ?_⟩
      rw [List.eq_nil_iff_forall_not_mem]
      intro piece member
      obtain ⟨⟨c, rest, spelled, separator⟩, -⟩ :=
        (splitClauses_connectors false text.toList piece member).bounds
      have present : c ∈ text.toList := by
        rw [← splitClauses_rebuild false text.toList, List.mem_append, List.mem_flatMap]
        exact .inr ⟨piece, member, by simp [spelled]⟩
      rw [inside c present] at separator
      cases separator
  have left := unread body fun c member => unseparated c (by simp [member])
  have right := unread other fun c member => unseparated c (by simp [member])
  rw [sameReading_withLiteral_iff, left.1, left.2, right.1, right.2]
  exact ⟨rfl, rfl⟩

end JoinDiagram.Condition
