import JoinDiagram.Proofs.Condition.Clauses

namespace JoinDiagram.Condition

open Text (isBlank)

theorem splitEquality_append {left : List Char} (right : List Char) (unequal : '=' ∉ left) :
    splitEquality (left ++ '=' :: right) =
      if left.getLast?.any ['<', '>', '!'].contains || right.head?.any ['=', '>'].contains then none
      else some (left, right) := by
  have before : (left ++ '=' :: right).takeWhile (· != '=') = left := by
    rw [List.takeWhile_append_of_pos]
    · simp
    · intro c member
      simpa using fun same : c = '=' => unequal (same ▸ member)
  rw [splitEquality, before, List.drop_left]

theorem splitEquality_equal {left right : List Char}
    (leftUnmarked : ∀ c ∈ ['=', '<', '>', '!'], c ∉ left)
    (rightUnmarked : ∀ c ∈ ['=', '<', '>', '!'], c ∉ right) :
    splitEquality (left ++ '=' :: right) = some (left, right) := by
  have before : left.getLast?.any ['<', '>', '!'].contains = false := by
    rw [Option.any_eq_false]
    intro c last
    by_contra mark
    rw [Bool.not_eq_false, List.contains_iff_mem] at mark
    exact leftUnmarked c (List.mem_cons_of_mem '=' mark) (List.mem_of_getLast? last)
  have after : right.head?.any ['=', '>'].contains = false := by
    rw [Option.any_eq_false]
    intro c first
    by_contra mark
    rw [Bool.not_eq_false, List.contains_iff_mem] at mark
    have listed : ∀ c ∈ ['=', '>'], c ∈ ['=', '<', '>', '!'] := by decide
    exact rightUnmarked c (listed c mark) (List.mem_of_head? first)
  rw [splitEquality_append right (leftUnmarked '=' (by decide)), before, after]
  rfl

theorem splitEquality_of_notMem {clause : List Char} (unequal : '=' ∉ clause) :
    splitEquality clause = none := by
  have before : clause.takeWhile (· != '=') = clause := by
    rw [List.takeWhile_eq_self_iff]
    intro c member
    simpa using fun same : c = '=' => unequal (same ▸ member)
  rw [splitEquality, before, List.drop_length]

theorem splitEquality_eq_some {clause left right : List Char}
    (h : splitEquality clause = some (left, right)) :
    clause = left ++ '=' :: right ∧ '=' ∉ left := by
  by_cases equal : '=' ∈ clause
  · obtain ⟨before, after, rfl, unequal⟩ := List.eq_append_cons_of_mem equal
    rw [splitEquality_append after unequal] at h
    split at h
    · cases h
    · cases h
      exact ⟨rfl, unequal⟩
  · rw [splitEquality_of_notMem equal] at h
    cases h

def sideColumn (side : List Char) : Option (String × String) :=
  (splitQualifiedChars (bareSide side)).map fun (reference, field) =>
    (String.ofList reference, String.ofList field)

def sides (clause : List Char) : List (List Char) :=
  match splitEquality clause with
  | some (left, right) => [left, right]
  | none => []

theorem clauseColumns_eq (clause : List Char) :
    clauseColumns clause = (sides clause).filterMap sideColumn := by
  rw [clauseColumns, sides]
  cases splitEquality clause <;> rfl

theorem clauseColumns_eq_getD (clause : List Char) :
    clauseColumns clause = ((splitEquality clause).map fun sides =>
      (sideColumn sides.1).toList ++ (sideColumn sides.2).toList).getD [] := by
  rw [clauseColumns_eq, sides]
  cases splitEquality clause with
  | none => rfl
  | some parts =>
    rw [Option.map_some, Option.getD_some, List.filterMap_cons, List.filterMap_cons]
    cases sideColumn parts.1 <;> cases sideColumn parts.2 <;> rfl

theorem columns_eq (condition : String) :
    columns condition = (clauses condition.toList).flatMap clauseColumns := by
  rw [columns]
  split
  · rename_i blank
    rw [eq_comm, List.flatMap_eq_nil_iff]
    intro clause member
    obtain ⟨before, after, spelled, -⟩ := clause_bounded member
    have unequal : '=' ∉ clause := by
      intro equal
      have inside : '=' ∈ condition.toList := by
        rw [spelled]
        simp [equal]
      exact absurd (List.all_eq_true.mp blank '=' inside) (by decide)
    rw [clauseColumns, splitEquality_of_notMem unequal]
  · rfl

def equalitySides (condition : String) : List (List Char) :=
  (clauses condition.toList).flatMap sides

theorem columns_eq_sides (condition : String) :
    columns condition = (equalitySides condition).filterMap sideColumn := by
  rw [columns_eq, equalitySides, List.filterMap_flatMap]
  congr 1
  funext clause
  exact clauseColumns_eq clause

theorem side_bounded {condition : String} {side : List Char}
    (member : side ∈ equalitySides condition) :
    ∃ before after, condition.toList = before ++ side ++ after ∧ Bounded before side after := by
  obtain ⟨clause, present, inside⟩ := List.mem_flatMap.mp member
  obtain ⟨before, after, spelled, bounded⟩ := clause_bounded present
  rw [sides] at inside
  cases found : splitEquality clause with
  | none =>
    rw [found] at inside
    cases inside
  | some parts =>
    obtain ⟨left, right⟩ := parts
    obtain ⟨rfl, -⟩ := splitEquality_eq_some found
    rw [found] at inside
    have equals : isSeparator '=' = true := by decide
    rcases List.mem_pair.mp inside with rfl | rfl
    · exact ⟨before, '=' :: right ++ after, by rw [spelled]; simp, bounded.left,
        .inr ⟨'=', right ++ after, rfl, equals⟩⟩
    · exact ⟨before ++ left ++ ['='], after, by rw [spelled]; simp,
        .inr ⟨before ++ left, '=', rfl, equals⟩, bounded.right⟩

theorem beforeCast_cons (c : Char) (cs : List Char) :
    beforeCast (c :: cs) =
      if c == ':' && cs.head? == some ':' then [] else c :: beforeCast cs := by
  have next : ∀ cs : List Char, (cs.foldr (fun c (state : List Char × Option Char) =>
      (if c == ':' && state.2 == some ':' then [] else c :: state.1, some c)) ([], none)).2 =
      cs.head? := by
    intro cs
    cases cs <;> rfl
  simp only [beforeCast, List.foldr_cons, next]

theorem beforeCast_of_uncolon {cs : List Char} (uncolon : ':' ∉ cs) : beforeCast cs = cs := by
  induction cs with
  | nil => rfl
  | cons c rest ih =>
    rw [List.mem_cons, not_or] at uncolon
    have other : (c == ':') = false := by simpa using Ne.symm uncolon.1
    rw [beforeCast_cons, other, ih uncolon.2]
    rfl

theorem beforeCast_append {cs : List Char} (rest : List Char) (uncolon : ':' ∉ cs) :
    beforeCast (cs ++ ':' :: ':' :: rest) = cs := by
  induction cs with
  | nil => rw [List.nil_append, beforeCast_cons, if_pos (by simp)]
  | cons c others ih =>
    rw [List.mem_cons, not_or] at uncolon
    have other : (c == ':') = false := by simpa using Ne.symm uncolon.1
    rw [List.cons_append, beforeCast_cons, other, ih uncolon.2]
    rfl

def isLoose (c : Char) : Bool := isBlank c || c == '(' || c == ')'

theorem bareSide_eq (side : List Char) :
    bareSide side = beforeCast (side.filter fun c => !isLoose c) := rfl

theorem filter_loose {cs : List Char} (loose : ∀ c ∈ cs, isLoose c) :
    cs.filter (fun c => !isLoose c) = [] := by
  rw [List.filter_eq_nil_iff]
  intro c member
  simp [loose c member]

theorem isSeparator_of_isLoose {c : Char} (loose : isLoose c) : isSeparator c := by
  simp only [isLoose, Bool.or_eq_true, beq_iff_eq] at loose
  rcases loose with (blank | rfl) | rfl
  · simp [isSeparator, blank]
  · decide
  · decide

theorem filter_unseparated {cs : List Char} (unseparated : ∀ c ∈ cs, isSeparator c = false) :
    cs.filter (fun c => !isLoose c) = cs := by
  rw [List.filter_eq_self]
  intro c member
  by_contra loose
  have separator := isSeparator_of_isLoose (by simpa using loose)
  rw [unseparated c member] at separator
  cases separator

theorem bareSide_loose (before side after : List Char)
    (loose : ∀ c ∈ before ++ after, isLoose c) : bareSide (before ++ side ++ after) = bareSide side := by
  simp only [bareSide_eq, List.filter_append,
    filter_loose fun c member => loose c (List.mem_append_left after member),
    filter_loose fun c member => loose c (List.mem_append_right before member), List.nil_append,
    List.append_nil]

theorem bareSide_between (before after : List Char) {side : List Char}
    (blanks : ∀ c ∈ before ++ after, isBlank c)
    (unseparated : ∀ c ∈ side, isSeparator c = false) :
    bareSide (before ++ side ++ after) = side := by
  have uncolon : ':' ∉ side := fun colon => absurd (unseparated ':' colon) (by decide)
  rw [bareSide_loose _ side _ fun c member => by simp [isLoose, blanks c member], bareSide_eq,
    filter_unseparated unseparated, beforeCast_of_uncolon uncolon]

end JoinDiagram.Condition
