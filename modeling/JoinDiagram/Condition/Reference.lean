import JoinDiagram.Text.CharClass

namespace JoinDiagram.Condition

def isSeparator (c : Char) : Bool :=
  Text.isBlank c ||
    ['(', ')', '=', '<', '>', '!', ',', '+', '-', '*', '/', '%', '|', '&', ';', ':'].contains c

def isQuote (c : Char) : Bool := c == '"' || c == '\x60' || c == '[' || c == ']'

def unquote (cs : List Char) : List Char := cs.filter fun c => !isQuote c

def isNameChar (c : Char) : Bool := Text.isAlphanumeric c || c == '_' || c == '$'

def splitAtLastDot (cs : List Char) : Option (List Char × List Char) :=
  if cs.contains '.' then
    let field := (cs.reverse.takeWhile (· != '.')).reverse
    some (cs.take (cs.length - field.length - 1), field)
  else none

def splitQualifiedChars (token : List Char) : Option (List Char × List Char) :=
  match splitAtLastDot (unquote token) with
  | some (reference, field) =>
    if reference.isEmpty || field.isEmpty then none
    else if reference.head?.any Text.isAsciiDigit then none
    else if reference.all (fun c => isNameChar c || c == '.') && field.all isNameChar then
      some (reference, field)
    else none
  | none => none

def splitQualified (token : String) : Option (String × String) :=
  (splitQualifiedChars token.toList).map fun (reference, field) =>
    (String.ofList reference, String.ofList field)

def words (cs : List Char) : List (List Char) :=
  let close (state : List Char × List (List Char)) : List (List Char) :=
    if state.1.isEmpty then state.2 else state.1 :: state.2
  close <| cs.foldr
    (fun c state => if isSeparator c then ([], close state) else (c :: state.1, state.2)) ([], [])

def references (condition : String) : List String :=
  ((words condition.toList).filterMap fun word =>
    (splitQualifiedChars word).map fun (reference, _) => String.ofList reference).eraseDups

/-- The relation a join starts from: the first that its condition names besides the joined one. -/
def inferSource (condition target default : String) : String :=
  ((references condition).find? (· != target)).getD default

end JoinDiagram.Condition
