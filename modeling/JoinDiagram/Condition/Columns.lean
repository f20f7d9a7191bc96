import JoinDiagram.Condition.Reference
import JoinDiagram.Text.Trim

namespace JoinDiagram.Condition

def connectiveLength (cs : List Char) : Nat :=
  if Text.sameIgnoringCase (cs.take 3) ['A', 'N', 'D'] then 3
  else if Text.sameIgnoringCase (cs.take 2) ['O', 'R'] then 2
  else 0

def connectorLength (cs : List Char) : Nat :=
  let before := (cs.takeWhile Text.isBlank).length
  let connective := connectiveLength (cs.drop before)
  let after := ((cs.drop (before + connective)).takeWhile Text.isBlank).length
  if before = 0 ∨ connective = 0 ∨ after = 0 then 0 else before + connective + after

/-- Each clause with the connector before it, which is empty for the first. The clause that is being
    read comes in reverse; inside a run of blanks no connector begins. -/
def clausesFrom (connector clause cs : List Char) (read : List (List Char × List Char)) :
    List (List Char × List Char) :=
  match cs with
  | [] => ((connector, clause.reverse) :: read).reverse
  | c :: rest =>
    if Text.isBlank c && !clause.head?.any Text.isBlank then
      match connectorLength (c :: rest) with
      | 0 => clausesFrom connector (c :: clause) rest read
      | n + 1 =>
        clausesFrom (c :: rest.take n) [] (rest.drop n) ((connector, clause.reverse) :: read)
    else clausesFrom connector (c :: clause) rest read
termination_by cs.length
decreasing_by all_goals simp only [List.length_cons, List.length_drop]; omega

def connectedClauses (cs : List Char) : List (List Char × List Char) := clausesFrom [] [] cs []

def clauses (cs : List Char) : List (List Char) := (connectedClauses cs).map (·.2)

/-- The sides of the first equals sign, unless it is part of a longer operator. -/
def splitEquality (clause : List Char) : Option (List Char × List Char) :=
  let left := clause.takeWhile (· != '=')
  match clause.drop left.length with
  | [] => none
  | _ :: right =>
    if left.getLast?.any ['<', '>', '!'].contains || right.head?.any ['=', '>'].contains then none
    else some (left, right)

def beforeCast (cs : List Char) : List Char :=
  (cs.foldr (fun c (state : List Char × Option Char) =>
    (if c == ':' && state.2 == some ':' then [] else c :: state.1, some c)) ([], none)).1

def bareSide (side : List Char) : List Char :=
  beforeCast (side.filter fun c => !(Text.isBlank c || c == '(' || c == ')'))

def clauseColumns (clause : List Char) : List (String × String) :=
  match splitEquality clause with
  | some (left, right) =>
    [left, right].filterMap fun side =>
      (splitQualifiedChars (bareSide side)).map fun (reference, field) =>
        (String.ofList reference, String.ofList field)
  | none => []

def columns (condition : String) : List (String × String) :=
  if Text.isBlankText condition then []
  else (clauses condition.toList).flatMap clauseColumns

def edgeColumns (condition : String) : List String := (columns condition).map (·.2)

end JoinDiagram.Condition
