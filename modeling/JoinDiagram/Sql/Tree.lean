import JoinDiagram.Sql.Token

namespace JoinDiagram.Sql

structure Ident where
  value : String
  quote : Option Char
deriving DecidableEq, Repr, Inhabited

abbrev DottedName := List Ident

structure Alias where
  name : Ident
  columns : List Ident
deriving DecidableEq, Repr, Inhabited

inductive Literal where
  | number (digits : String) (long : Bool)
  | text (style : TextStyle) (body : String)
  | boolean (value : Bool)
  | null
  | placeholder (name : String)
deriving DecidableEq, Repr, Inhabited

mutual

inductive DataType where
  | known (name : String) (arguments : List String) (modifier : String)
  | interval
  | custom (name : DottedName) (arguments : List String)
  | composite (name opening closing : String) (fields : List Field)
  | brackets (element : DataType) (size : Option Nat)

structure Field where
  name : Option Ident
  type : DataType
  details : String

end

mutual

inductive Expr where
  | name (path : DottedName)
  | wildcard (path : DottedName)
  | literal (value : Literal)
  | typed (type : DataType) (value : Literal)
  | nested (inner : Expr)
  | tuple (items : List Expr)
  | member (owner : Expr) (key : Ident)
  | unary (op : String) (operand : Expr)
  | factorial (operand : Expr)
  | binary (left : Expr) (op : String) (right : Expr)
  | quantified (left : Expr) (op : String) (quantifier : String) (right : Expr)
  | test (operand : Expr) (property : String)
  | distinctFrom (left : Expr) (negated : Bool) (right : Expr)
  | between (operand : Expr) (negated : Bool) (low high : Expr)
  | oneOf (operand : Expr) (negated : Bool) (items : List Expr)
  | oneOfQuery (operand : Expr) (negated : Bool) (query : Query)
  | like (operand : Expr) (operator : String) (pattern : Expr) (escape : Option String)
  | convert (operand : Expr) (type : DataType)
  | atTimeZone (instant zone : Expr)
  | collate (operand : Expr) (collation : DottedName)
  | subscript (operand : Expr) (bounds : List (Option Expr))
  | array (keyword : Bool) (items : List Expr)
  | subquery (query : Query)
  | exist (negated : Bool) (query : Query)
  | choice (operand : Option Expr) (branches : List Branch) (otherwise : Option Expr)
  | interval (value : Expr) (qualifier : String)
  | call (function : DottedName) (arguments : List Phrase) (tail : Phrase)
  | keywordCall (head : String) (arguments : Phrase)
  | braced (head : String) (entries : List Phrase)

structure Branch where
  condition : Expr
  result : Expr

/-- A piece of a clause that is only ever written back. -/
inductive Part where
  | word (text : String)
  | expr (value : Expr)
  | items (phrases : List Phrase)
  | group (inner : Phrase)
  | query (inner : Query)
  | source (inner : Source)

structure Phrase where
  parts : List Part

structure Query where
  withClause : Option With
  body : Body
  tail : Phrase

structure With where
  recursive : Bool
  definitions : List Definition

structure Definition where
  heading : Alias
  query : Query
  origin : Option Ident

inductive Body where
  | select (select : Select)
  | query (query : Query)
  | operation (left : Body) (operator : String) (right : Body)
  | values (head : String) (rows : List Phrase)
  | table (name : String)
  | command (text : Phrase)

structure Select where
  quantifier : Phrase
  projection : List Phrase
  target : Phrase
  sources : List Source
  tail : Phrase

structure Source where
  relation : Relation
  joins : List Join

structure Join where
  isGlobal : Bool
  operator : JoinOperator
  relation : Relation

inductive JoinOperator where
  | inner (constraint : JoinConstraint)
  | leftOuter (constraint : JoinConstraint)
  | rightOuter (constraint : JoinConstraint)
  | fullOuter (constraint : JoinConstraint)
  | leftSemi (constraint : JoinConstraint)
  | rightSemi (constraint : JoinConstraint)
  | leftAnti (constraint : JoinConstraint)
  | rightAnti (constraint : JoinConstraint)
  | asOf (matching : Expr) (constraint : JoinConstraint)
  | cross
  | crossApply
  | outerApply

inductive JoinConstraint where
  | condition (value : Expr)
  | columns (names : List Ident)
  | natural
  | none

inductive Relation where
  | table (name : DottedName) (extras : TableExtras) (alias? : Option Alias)
  | derived (isLateral : Bool) (query : Query) (alias? : Option Alias)
  | nested (inner : Source) (alias? : Option Alias)
  | function (name : DottedName) (arguments : Phrase) (alias? : Option Alias)
  | keywordCall (head : String) (arguments : Phrase) (alias? : Option Alias)
  | unnest (arrays : List Expr) (ordinality : Bool) (alias? : Option Alias)
      (offset : Option (Option Ident))
  | reshaped (inner : Relation) (head : String) (form : Phrase) (alias? : Option Alias)

structure TableExtras where
  partitions : List Ident
  arguments : Option Phrase
  ordinality : Bool
  hints : List Expr

end

inductive Statement where
  | query (query : Query)
  | command (keyword : String)

def TableExtras.empty : TableExtras := ⟨[], none, false, []⟩

def Relation.alias? : Relation → Option Alias
  | .table _ _ alias? | .derived _ _ alias? | .nested _ alias? | .function _ _ alias?
  | .keywordCall _ _ alias? | .unnest _ _ alias? _ | .reshaped _ _ _ alias? => alias?

def Relation.withAlias : Relation → Alias → Relation
  | .table name extras _, a => .table name extras (some a)
  | .derived isLateral query _, a => .derived isLateral query (some a)
  | .nested inner _, a => .nested inner (some a)
  | .function name arguments _, a => .function name arguments (some a)
  | .keywordCall head arguments _, a => .keywordCall head arguments (some a)
  | .unnest arrays ordinality _ offset, a => .unnest arrays ordinality (some a) offset
  | .reshaped inner head form _, a => .reshaped inner head form (some a)

instance : Inhabited DataType := ⟨.interval⟩
instance : Inhabited Expr := ⟨.literal .null⟩
instance : Inhabited Phrase := ⟨⟨[]⟩⟩

end JoinDiagram.Sql
