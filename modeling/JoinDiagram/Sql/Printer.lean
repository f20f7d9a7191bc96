import JoinDiagram.Sql.Tree

namespace JoinDiagram.Sql

def commaSeparated (texts : List String) : String := ", ".intercalate texts

/-- Writes a quote twice, two in a row as one pair, and one after a backslash as it is. -/
def escapeQuotes (quote : Char) : Char → List Char → List Char
  | _, [] => []
  | last, c :: cs =>
    if c == quote then
      if last == '\\' then c :: escapeQuotes quote last cs
      else match cs with
        | d :: ds => if d == quote then c :: c :: escapeQuotes quote c ds
          else c :: c :: escapeQuotes quote c (d :: ds)
        | [] => [c, c]
    else c :: escapeQuotes quote c cs

def quoted (quote : Char) (s : String) : String :=
  String.ofList (quote :: escapeQuotes quote (Char.ofNat 0) s.toList ++ [quote])

def Ident.render (i : Ident) : String :=
  match i.quote with
  | some quote => quoted quote i.value
  | none => i.value

def dottedText (name : DottedName) : String := ".".intercalate (name.map Ident.render)

def dottedValue (name : DottedName) : String := ".".intercalate (name.map Ident.value)

def identsText (names : List Ident) : String := commaSeparated (names.map Ident.render)

def Alias.render (a : Alias) : String :=
  if a.columns.isEmpty then a.name.render else s!"{a.name.render} ({identsText a.columns})"

def aliasSuffix : Option Alias → String
  | some a => " AS " ++ a.render
  | none => ""

def escapeControls (c : Char) : List Char :=
  match c with
  | '\'' => ['\\', '\'']
  | '\\' => ['\\', '\\']
  | '\n' => ['\\', 'n']
  | '\t' => ['\\', 't']
  | '\r' => ['\\', 'r']
  | _ => [c]

def hexDigits (width n : Nat) : List Char :=
  let digits := (Nat.toDigits 16 n).map Text.asciiUpper
  List.replicate (width - digits.length) '0' ++ digits

def escapeUnicode (c : Char) : List Char :=
  if c == '\'' then ['\'', '\'']
  else if c == '\\' then ['\\', '\\']
  else if c.toNat < 0x80 then [c]
  else if c.toNat < 0x10000 then '\\' :: hexDigits 4 c.toNat
  else '\\' :: '+' :: hexDigits 6 c.toNat

def Literal.render : Literal → String
  | number digits long => if long then digits ++ "L" else digits
  | text .plain body => quoted '\'' body
  | text .doubleQuoted body => quoted '"' body
  | text .escaped body =>
    TextStyle.escaped.opening ++ String.ofList (body.toList.flatMap escapeControls) ++ "'"
  | text .unicode body =>
    TextStyle.unicode.opening ++ String.ofList (body.toList.flatMap escapeUnicode) ++ "'"
  | text style body => style.opening ++ body ++ style.closing
  | boolean value => if value then "true" else "false"
  | null => "NULL"
  | placeholder name => name

mutual

def DataType.render : DataType → String
  | .known name arguments modifier =>
    let list := if arguments.isEmpty then "" else "(" ++ ",".intercalate arguments ++ ")"
    name ++ list ++ modifier
  | .interval => "INTERVAL"
  | .custom name arguments =>
    if arguments.isEmpty then dottedText name
    else s!"{dottedText name}({commaSeparated arguments})"
  | .composite name opening closing fields =>
    if fields.isEmpty then name
    else name ++ opening ++ commaSeparated (Field.renderAll fields) ++ closing
  | .brackets element none => element.render ++ "[]"
  | .brackets element (some size) => s!"{element.render}[{size}]"

def Field.renderAll : List Field → List String
  | [] => []
  | ⟨some name, type, details⟩ :: rest =>
    s!"{name.render} {type.render}{details}" :: Field.renderAll rest
  | ⟨none, type, _⟩ :: rest => type.render :: Field.renderAll rest

end

def negation (negated : Bool) : String := if negated then "NOT " else ""

mutual

def Expr.render : Expr → String
  | .name path => dottedText path
  | .wildcard [] => "*"
  | .wildcard path => dottedText path ++ ".*"
  | .literal value => value.render
  | .typed type value => s!"{type.render} {value.render}"
  | .nested inner => s!"({inner.render})"
  | .tuple items => s!"({commaSeparated (Expr.renderAll items)})"
  | .member owner key => s!"{owner.render}.{key.render}"
  | .unary op operand => op ++ operand.render
  | .factorial operand => operand.render ++ "!"
  | .binary left op right => s!"{left.render} {op} {right.render}"
  | .quantified left op quantifier right =>
    match right with
    | .subquery query => s!"{left.render} {op} {quantifier}({query.render})"
    | other => s!"{left.render} {op} {quantifier}({other.render})"
  | .test operand property => s!"{operand.render} IS {property}"
  | .distinctFrom left negated right =>
    s!"{left.render} IS {negation negated}DISTINCT FROM {right.render}"
  | .between operand negated low high =>
    s!"{operand.render} {negation negated}BETWEEN {low.render} AND {high.render}"
  | .oneOf operand negated items =>
    s!"{operand.render} {negation negated}IN ({commaSeparated (Expr.renderAll items)})"
  | .oneOfQuery operand negated query => s!"{operand.render} {negation negated}IN ({query.render})"
  | .like operand operator pattern escape =>
    s!"{operand.render} {operator}{pattern.render}" ++
      match escape with
      | some body => s!" ESCAPE '{body}'"
      | none => ""
  | .convert operand type => s!"{operand.render}::{type.render}"
  | .atTimeZone instant zone => s!"{instant.render} AT TIME ZONE {zone.render}"
  | .collate operand collation => s!"{operand.render} COLLATE {dottedText collation}"
  | .subscript operand bounds =>
    operand.render ++ "[" ++ ":".intercalate (Expr.renderOptions bounds) ++ "]"
  | .array keyword items =>
    (if keyword then "ARRAY" else "") ++ s!"[{commaSeparated (Expr.renderAll items)}]"
  | .subquery query => s!"({query.render})"
  | .exist negated query => s!"{negation negated}EXISTS ({query.render})"
  | .choice operand branches otherwise =>
    let subject := match operand with
      | some e => " " ++ e.render
      | none => ""
    let last := match otherwise with
      | some e => " ELSE " ++ e.render
      | none => ""
    s!"CASE{subject}{Branch.renderAll branches}{last} END"
  | .interval value qualifier => s!"INTERVAL {value.render}{qualifier}"
  | .call function arguments tail =>
    let parentheses := (Phrase.renderAll arguments).map fun list => s!"({list})"
    let suffix := tail.render
    dottedText function ++ String.join parentheses ++ (if suffix.isEmpty then "" else " " ++ suffix)
  | .keywordCall head arguments => s!"{head}({arguments.render})"
  | .braced head entries =>
    head ++ "\x7b" ++ commaSeparated (Phrase.renderAll entries) ++ "\x7d"

def Expr.renderAll : List Expr → List String
  | [] => []
  | e :: es => e.render :: Expr.renderAll es

def Expr.renderOptions : List (Option Expr) → List String
  | [] => []
  | some e :: es => e.render :: Expr.renderOptions es
  | none :: es => "" :: Expr.renderOptions es

def Branch.renderAll : List Branch → String
  | [] => ""
  | ⟨condition, result⟩ :: rest =>
    s!" WHEN {condition.render} THEN {result.render}" ++ Branch.renderAll rest

def Part.render : Part → String
  | .word w => w
  | .expr value => value.render
  | .items phrases => commaSeparated (Phrase.renderAll phrases)
  | .group inner => s!"({inner.render})"
  | .query inner => inner.render
  | .source inner => inner.render

def Part.renderAll : List Part → List String
  | [] => []
  | p :: ps => p.render :: Part.renderAll ps

def Phrase.render : Phrase → String
  | ⟨parts⟩ => " ".intercalate (Part.renderAll parts)

def Phrase.renderAll : List Phrase → List String
  | [] => []
  | p :: ps => p.render :: Phrase.renderAll ps

def Query.render : Query → String
  | ⟨withClause, body, tail⟩ =>
    let before := match withClause with
      | some w => w.render ++ " "
      | none => ""
    let after := tail.render
    before ++ body.render ++ (if after.isEmpty then "" else " " ++ after)

def With.render : With → String
  | ⟨recursive, definitions⟩ =>
    "WITH " ++ (if recursive then "RECURSIVE " else "") ++
      commaSeparated (Definition.renderAll definitions)

def Definition.render : Definition → String
  | ⟨heading, query, origin⟩ =>
    s!"{heading.render} AS ({query.render})" ++
      match origin with
      | some name => " FROM " ++ name.render
      | none => ""

def Definition.renderAll : List Definition → List String
  | [] => []
  | d :: ds => d.render :: Definition.renderAll ds

def Body.render : Body → String
  | .select s => s.render
  | .query q => s!"({q.render})"
  | .operation left operator right => s!"{left.render} {operator} {right.render}"
  | .values head rows =>
    "VALUES " ++ commaSeparated ((Phrase.renderAll rows).map fun row => s!"{head}({row})")
  | .table name => "TABLE " ++ name
  | .command text => text.render

def Select.render : Select → String
  | ⟨quantifier, projection, target, sources, tail⟩ =>
    let clause (s : String) : String := if s.isEmpty then "" else " " ++ s
    "SELECT" ++ clause quantifier.render ++ clause (commaSeparated (Phrase.renderAll projection)) ++
      clause target.render ++
      (if sources.isEmpty then "" else " FROM " ++ commaSeparated (Source.renderAll sources)) ++
      clause tail.render

def Source.render : Source → String
  | ⟨relation, joins⟩ => relation.render ++ Join.renderAll joins

def Source.renderAll : List Source → List String
  | [] => []
  | s :: ss => s.render :: Source.renderAll ss

def Join.render : Join → String
  | ⟨isGlobal, operator, relation⟩ =>
    (if isGlobal then " GLOBAL" else "") ++
      match operator with
      | .inner c => s!" {c.before}JOIN {relation.render}{c.after}"
      | .leftOuter c => s!" {c.before}LEFT JOIN {relation.render}{c.after}"
      | .rightOuter c => s!" {c.before}RIGHT JOIN {relation.render}{c.after}"
      | .fullOuter c => s!" {c.before}FULL JOIN {relation.render}{c.after}"
      | .leftSemi c => s!" {c.before}LEFT SEMI JOIN {relation.render}{c.after}"
      | .rightSemi c => s!" {c.before}RIGHT SEMI JOIN {relation.render}{c.after}"
      | .leftAnti c => s!" {c.before}LEFT ANTI JOIN {relation.render}{c.after}"
      | .rightAnti c => s!" {c.before}RIGHT ANTI JOIN {relation.render}{c.after}"
      | .asOf matching c =>
        s!" ASOF JOIN {relation.render} MATCH_CONDITION ({matching.render}){c.after}"
      | .cross => s!" CROSS JOIN {relation.render}"
      | .crossApply => s!" CROSS APPLY {relation.render}"
      | .outerApply => s!" OUTER APPLY {relation.render}"

def Join.renderAll : List Join → String
  | [] => ""
  | j :: js => j.render ++ Join.renderAll js

def JoinConstraint.before : JoinConstraint → String
  | .natural => "NATURAL "
  | _ => ""

def JoinConstraint.after : JoinConstraint → String
  | .condition value => " ON " ++ value.render
  | .columns names => s!" USING({identsText names})"
  | .natural | .none => ""

def Relation.render : Relation → String
  | .table name ⟨partitions, arguments, ordinality, hints⟩ alias? =>
    dottedText name ++
      (if partitions.isEmpty then "" else s!"PARTITION ({identsText partitions})") ++
      (match arguments with
      | some list => s!"({list.render})"
      | none => "") ++
      (if ordinality then " WITH ORDINALITY" else "") ++ aliasSuffix alias? ++
      (if hints.isEmpty then "" else s!" WITH ({commaSeparated (Expr.renderAll hints)})")
  | .derived isLateral query alias? =>
    (if isLateral then "LATERAL " else "") ++ s!"({query.render})" ++ aliasSuffix alias?
  | .nested inner alias? => s!"({inner.render})" ++ aliasSuffix alias?
  | .function name arguments alias? =>
    s!"LATERAL {dottedText name}({arguments.render})" ++ aliasSuffix alias?
  | .keywordCall head arguments alias? => s!"{head}({arguments.render})" ++ aliasSuffix alias?
  | .unnest arrays ordinality alias? offset =>
    s!"UNNEST({commaSeparated (Expr.renderAll arrays)})" ++
      (if ordinality then " WITH ORDINALITY" else "") ++ aliasSuffix alias? ++
      match offset with
      | some (some name) => " WITH OFFSET AS " ++ name.render
      | some none => " WITH OFFSET"
      | none => ""
  | .reshaped inner head form alias? =>
    s!"{inner.render} {head}({form.render})" ++ aliasSuffix alias?

end

end JoinDiagram.Sql
