import JoinDiagram.Sql.Parser.Column

namespace JoinDiagram.Sql.Parser

def plainTypes : List (String × String) :=
  ["BOOLEAN", "BOOL", "REAL", "FLOAT4", "FLOAT64", "FLOAT8", "INT64", "UUID", "DATE", "JSON", "JSONB",
    "REGCLASS", "TEXT", "BYTEA", "TRIGGER"].map (fun name => (name, name)) ++
  [("FLOAT32", "Float32"), ("INT16", "Int16"), ("INT32", "Int32"), ("INT128", "Int128"),
    ("INT256", "Int256"), ("UINT8", "UInt8"), ("UINT16", "UInt16"), ("UINT32", "UInt32"),
    ("UINT64", "UInt64"), ("UINT128", "UInt128"), ("UINT256", "UInt256"), ("DATE32", "Date32")]

def integerTypes : List String :=
  ["TINYINT", "INT2", "SMALLINT", "MEDIUMINT", "INT", "INT4", "INT8", "INTEGER", "BIGINT"]

def sizedTypes : List String :=
  ["FLOAT", "CLOB", "BINARY", "VARBINARY", "BLOB", "BYTES", "DATETIME", "STRING"]

def exactTypes : List String := ["NUMERIC", "DECIMAL", "DEC", "BIGNUMERIC", "BIGDECIMAL"]

def optionalSize : Parser (List String) := do
  if ← symbol "(" then
    let n ← wholeNumber
    expectSymbol ")"
    return [toString n]
  return []

def optionalCharacterLength : Parser (List String) := do
  if ← symbol "(" then
    if ← keyword "MAX" then
      expectSymbol ")"
      return ["MAX"]
    let n ← wholeNumber
    let unit ← oneOf ["CHARACTERS", "OCTETS"]
    expectSymbol ")"
    return [toString n ++ (unit.map (" " ++ ·)).getD ""]
  return []

def optionalPrecisionScale : Parser (List String) := do
  if ← symbol "(" then
    let precision ← wholeNumber
    let scale ← if ← symbol "," then pure [toString (← wholeNumber)] else pure []
    expectSymbol ")"
    return toString precision :: scale
  return []

def timeZoneModifier : Parser String := do
  if ← keyword "WITH" then
    expectKeywords ["TIME", "ZONE"]
    return " WITH TIME ZONE"
  if ← keyword "WITHOUT" then
    expectKeywords ["TIME", "ZONE"]
    return " WITHOUT TIME ZONE"
  return ""

def characterType (head : String) : Parser DataType := do
  if ← keyword "VARYING" then return .known (head ++ " VARYING") (← optionalCharacterLength) ""
  if ← keywords ["LARGE", "OBJECT"] then return .known (head ++ " LARGE OBJECT") (← optionalSize) ""
  return .known head (← optionalCharacterLength) ""

def textListLoop : Nat → List String → Parser (List String)
  | 0, read => return read.reverse
  | fuel + 1, read => do
    let t ← next
    match tokenOf t with
    | some (.text .plain body) =>
      let after ← next
      match tokenOf after with
      | some (.symbol ",") => textListLoop fuel (quoted '\'' body :: read)
      | some (.symbol ")") => return (quoted '\'' body :: read).reverse
      | _ => expected ", or \x7d" after
    | _ => expected "a string" t

def textList : Parser (List String) := do
  expectSymbol "("
  textListLoop (← bound) []

def typeModifierLoop : Nat → List String → Parser (List String)
  | 0, read => return read.reverse
  | fuel + 1, read => do
    let t ← next
    match tokenOf t with
    | some (.word w quote) => typeModifierLoop fuel (Token.spelling (.word w quote) :: read)
    | some (.number digits _) => typeModifierLoop fuel (digits :: read)
    | some (.text .plain body) => typeModifierLoop fuel (body :: read)
    | some (.symbol ",") => typeModifierLoop fuel read
    | some (.symbol ")") => return read.reverse
    | _ => expected "type modifiers" t

def customType : Parser DataType := do
  let name ← dottedName
  if ← symbol "(" then return .custom name (← typeModifierLoop (← bound) [])
  return .custom name []

/-- The closing angle bracket of a type. It may be the second half of a `>>` that the last part of the
    type has read; the result says whether it is the first half of one. -/
def closingAngle (halfRead : Bool) : Parser Bool := do
  if halfRead then return false
  if ← symbol ">" then return false
  if ← symbol ">>" then return true
  expectedHere ">"

def field (element : Parser (DataType × Bool)) : Parser (Field × Bool) := do
  let isWord (t : Located) : Bool := match t.token with
    | .word .. => true
    | _ => false
  let named := (← peek).any isWord && (← peekAt 1).any isWord
  let name ← if named then pure (some (← ident)) else pure none
  let (type, halfRead) ← element
  return (⟨name, type, ""⟩, halfRead)

def angledFieldLoop (element : Parser (DataType × Bool)) (start : Option Located) :
    Nat → List Field → Parser (List Field × Bool)
  | 0, read => return (read.reverse, false)
  | fuel + 1, read => do
    let (f, halfRead) ← field element
    if ← symbol "," then
      if halfRead then fail (.misplaced "unmatched > in STRUCT definition" start)
      angledFieldLoop element start fuel (f :: read)
    else return ((f :: read).reverse, halfRead)

def angledFields (element : Parser (DataType × Bool)) (start : Option Located) :
    Parser (List Field × Bool) := do
  if ← symbol "<" then
    let (fields, halfRead) ← angledFieldLoop element start (← bound) []
    return (fields, ← closingAngle halfRead)
  return ([], false)

def structType (fields : List Field) : DataType := .composite "STRUCT" "<" ">" fields

def wholeType (element : Parser (DataType × Bool)) : Parser DataType := do
  let (d, halfRead) ← element
  if halfRead then
    fail (.rejected (s!"unmatched > after parsing data type {d.render}" ++ foundText (← peek)))
  return d

def compositeTypes : List (String × String) :=
  [("NULLABLE", "Nullable"), ("LOWCARDINALITY", "LowCardinality"), ("MAP", "Map"),
    ("TUPLE", "Tuple"), ("NESTED", "Nested"), ("UNION", "UNION")]

def compositeFields (g : Grammar) (element : Parser (DataType × Bool)) (kind : String) :
    Parser (List Field) := do
  let unnamed : Parser Field := do return ⟨none, ← wholeType element, ""⟩
  match kind with
  | "MAP" =>
    let key ← unnamed
    expectSymbol ","
    return [key, ← unnamed]
  | "TUPLE" => list do return (← field element).1
  | "NESTED" => list (columnDefinition g (wholeType element))
  | "UNION" => list do
    let name ← ident
    return ⟨some name, ← wholeType element, ""⟩
  | _ => return [← unnamed]

/-- A type without brackets after it; `element` reads a type within it. The result says whether a
    closing angle bracket of an outer type was read as well, as the half of `>>`. -/
def baseType (g : Grammar) (element : Parser (DataType × Bool)) : Parser (DataType × Bool) := do
  let t ← peek
  let exactly (d : Parser DataType) : Parser (DataType × Bool) := do
    let _ ← next
    return (← d, false)
  match keywordOf t with
  | some "DOUBLE" => exactly do
    if ← keyword "PRECISION" then return .known "DOUBLE PRECISION" [] ""
    return .known "DOUBLE" [] ""
  | some "VARCHAR" => exactly do return .known "VARCHAR" (← optionalCharacterLength) ""
  | some "NVARCHAR" => exactly do return .known "NVARCHAR" (← optionalCharacterLength) ""
  | some "CHARACTER" => exactly (characterType "CHARACTER")
  | some "CHAR" => exactly (characterType "CHAR")
  | some "TIMESTAMP" => exactly do
    let size ← optionalSize
    return .known "TIMESTAMP" size (← timeZoneModifier)
  | some "TIME" => exactly do
    let size ← optionalSize
    return .known "TIME" size (← timeZoneModifier)
  | some "TIMESTAMPTZ" => exactly do return .known "TIMESTAMPTZ" (← optionalSize) ""
  | some "TIMETZ" => exactly do return .known "TIMETZ" (← optionalSize) ""
  | some "INTERVAL" => exactly (pure .interval)
  | some "ENUM" => exactly do return .known "ENUM" [", ".intercalate (← textList)] ""
  | some "SET" => exactly do return .known "SET" [", ".intercalate (← textList)] ""
  | some "ARRAY" =>
    let _ ← next
    expectSymbol "<"
    let (inner, halfRead) ← element
    return (.composite "ARRAY" "<" ">" [⟨none, inner, ""⟩], ← closingAngle halfRead)
  | some "STRUCT" =>
    let start ← next
    let (fields, halfRead) ← angledFields element start
    return (structType fields, halfRead)
  | some "FIXEDSTRING" => exactly do
    return .known "FixedString" [toString (← parenthesized wholeNumber)] ""
  | some "DATETIME64" => exactly do
    parenthesized do
      let precision ← wholeNumber
      let zone ← if ← symbol "," then pure (", '" ++ (← literalText) ++ "'") else pure ""
      return .known "DateTime64" [toString precision ++ zone] ""
  | some k =>
    if let some (_, name) := plainTypes.find? (·.1 == k) then
      exactly (pure (.known name [] ""))
    else if let some (_, name) := compositeTypes.find? (·.1 == k) then
      exactly do return .composite name "(" ")" (← parenthesized (compositeFields g element k))
    else if integerTypes.contains k then
      exactly do
        let size ← optionalSize
        return .known k size (if ← keyword "UNSIGNED" then " UNSIGNED" else "")
    else if sizedTypes.contains k then exactly do return .known k (← optionalSize) ""
    else if exactTypes.contains k then exactly do return .known k (← optionalPrecisionScale) ""
    else return (← customType, false)
  | none =>
    match tokenOf t with
    | some (.word ..) => return (← customType, false)
    | _ =>
      let _ ← next
      expected "a data type name" t

def bracketLoop : Nat → DataType → Parser DataType
  | 0, d => return d
  | fuel + 1, d => do
    if ← symbol "[" then
      let size ← attempt wholeNumber
      expectSymbol "]"
      bracketLoop fuel (.brackets d size)
    else return d

def nestedType (g : Grammar) : Nat → Parser (DataType × Bool)
  | 0 => fail .tooDeep
  | fuel + 1 => do
    let (d, halfRead) ← baseType g (nestedType g fuel)
    return (← bracketLoop (← bound) d, halfRead)

def dataType (g : Grammar) : Parser DataType := do wholeType (nestedType g (← bound))

def column (g : Grammar) : Parser Field := columnDefinition g (dataType g)

end JoinDiagram.Sql.Parser
