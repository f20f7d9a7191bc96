import JoinDiagram.Sql.Keyword

namespace JoinDiagram.Sql

/-- Lines and columns count from 1; a column is a character. -/
structure Position where
  line : Nat
  column : Nat
deriving DecidableEq, Repr

def Position.advance (p : Position) (c : Char) : Position :=
  if c == '\n' then ⟨p.line + 1, 1⟩ else ⟨p.line, p.column + 1⟩

def Position.describe (p : Position) : String :=
  s!" at Line: {p.line}, Column: {p.column}"

inductive TextStyle where
  | plain
  | doubleQuoted
  | national
  | hex
  | escaped
  | unicode
  | bytes (quote : Char)
  | raw (quote : Char)
  | rawTriple (quote : Char)
  | dollar (tag : String)
deriving DecidableEq, Repr

def TextStyle.opening : TextStyle → String
  | plain => "'"
  | doubleQuoted => "\""
  | national => "N'"
  | hex => "X'"
  | escaped => "E'"
  | unicode => "U&'"
  | bytes quote => "B" ++ quote.toString
  | raw quote => "R" ++ quote.toString
  | rawTriple quote => "R" ++ String.ofList [quote, quote, quote]
  | dollar tag => "$" ++ tag ++ "$"

def TextStyle.closing : TextStyle → String
  | plain | national | hex | escaped | unicode => "'"
  | doubleQuoted => "\""
  | bytes quote | raw quote => quote.toString
  | rawTriple quote => String.ofList [quote, quote, quote]
  | dollar tag => "$" ++ tag ++ "$"

inductive Token where
  | word (text : String) (quote : Option Char)
  | number (digits : String) (long : Bool)
  | text (style : TextStyle) (body : String)
  | placeholder (name : String)
  | symbol (spelling : String)
  | other (c : Char)
deriving DecidableEq, Repr

def Token.spelling : Token → String
  | word w none => w
  | word w (some quote) => quote.toString ++ w ++ quote.toString
  | number digits long => if long then digits ++ "L" else digits
  | text style body => style.opening ++ body ++ style.closing
  | placeholder name => name
  | symbol s => s
  | other c => c.toString

def Token.keyword? : Token → Option String
  | word w none => some (keywordForm w)
  | _ => none

def Token.freeWord? : Token → Option String
  | word w (some _) => some w
  | word w none => if keywords.contains (keywordForm w) then none else some w
  | _ => none

structure Located where
  token : Token
  position : Position
  keyword : Option String := token.keyword?
deriving DecidableEq, Repr

def Located.isKeyword (t : Located) (keyword : String) : Bool := t.keyword == some keyword

def Located.isSymbol (t : Located) (spelling : String) : Bool := t.token == .symbol spelling

def tokenOf (t : Option Located) : Option Token := t.map Located.token

def keywordOf (t : Option Located) : Option String := t.bind Located.keyword

end JoinDiagram.Sql
