import JoinDiagram.Sql.SyntaxError

namespace JoinDiagram.Sql

structure Cursor where
  rest : List Char
  position : Position
deriving Repr

namespace Cursor

def start (s : String) : Cursor := ⟨s.toList, ⟨1, 1⟩⟩

def skip (c : Cursor) (count : Nat) : Cursor :=
  ⟨c.rest.drop count, (c.rest.take count).foldl Position.advance c.position⟩

def span (c : Cursor) (p : Char → Bool) : List Char × Cursor :=
  let (taken, rest) := c.rest.span p
  (taken, ⟨rest, taken.foldl Position.advance c.position⟩)

end Cursor

abbrev Lexed (α : Type) := Except SyntaxError (α × Cursor)

def startsWord (c : Char) : Bool :=
  Text.isAlphabetic c || c == '_' || c == '#' || c == '@'

def continuesWord (c : Char) : Bool :=
  Text.isAlphabetic c || Text.isAsciiDigit c || c == '@' || c == '$' || c == '#' || c == '_'

def lexWord (c : Cursor) (count : Nat) : Token × Cursor :=
  let (tail, c') := (c.skip count).span continuesWord
  (.word (String.ofList (c.rest.take count ++ tail)) none, c')

def backslashEscape : Char → Char
  | '0' => Char.ofNat 0
  | 'a' => Char.ofNat 7
  | 'b' => Char.ofNat 8
  | 'f' => Char.ofNat 12
  | 'n' => '\n'
  | 'r' => '\r'
  | 't' => '\t'
  | 'Z' => Char.ofNat 26
  | c => c

def quotedBody (quote : Char) (escapes : Bool) :
    List Char → Position → List Char → Option (List Char × Cursor)
  | [], _, _ => none
  | c :: cs, p, read =>
    if c == quote then
      match cs with
      | d :: ds =>
        if d == quote then quotedBody quote escapes ds ((p.advance c).advance d) (quote :: read)
        else some (read.reverse, ⟨cs, p.advance c⟩)
      | [] => some (read.reverse, ⟨[], p.advance c⟩)
    else if escapes && c == '\\' then
      match cs with
      | d :: ds =>
        quotedBody quote escapes ds ((p.advance c).advance d) (backslashEscape d :: read)
      | [] => none
    else quotedBody quote escapes cs (p.advance c) (c :: read)

def lexQuoted (style : TextStyle) (quote : Char) (escapes : Bool) (c : Cursor) : Lexed Token :=
  let inner := c.skip 1
  match quotedBody quote escapes inner.rest inner.position [] with
  | some (body, c') => .ok (.text style (String.ofList body), c')
  | none => .error (.unreadable "Unterminated string literal" c.position)

def lexQuotedWord (quote : Char) (c : Cursor) : Lexed Token :=
  let inner := c.skip 1
  match quotedBody quote false inner.rest inner.position [] with
  | some (body, c') => .ok (.word (String.ofList body) (some quote), c')
  | none =>
    .error (.unreadable s!"Expected close delimiter '{quote.toString}' before EOF." c.position)

def delimitedBody (delimiter : List Char) :
    List Char → Position → List Char → Option (List Char × Cursor)
  | [], _, _ => none
  | c :: cs, p, read =>
    if delimiter.isPrefixOf (c :: cs) then
      some (read.reverse, Cursor.skip ⟨c :: cs, p⟩ delimiter.length)
    else delimitedBody delimiter cs (p.advance c) (c :: read)

/-- Raw texts open with one quote or three; two quotes are an empty text. -/
def lexRaw (quote : Char) (c : Cursor) : Lexed Token :=
  match (c.rest.take 3).takeWhile (· == quote) with
  | [_, _] => .ok (.text (.raw quote) "", c.skip 2)
  | [_, _, _] =>
    let inner := c.skip 3
    match delimitedBody [quote, quote, quote] inner.rest inner.position [] with
    | some (body, c') => .ok (.text (.rawTriple quote) (String.ofList body), c')
    | none => .error (.unreadable "Unterminated string literal" inner.position)
  | _ =>
    let inner := c.skip 1
    match quotedBody quote false inner.rest inner.position [] with
    | some (body, c') => .ok (.text (.raw quote) (String.ofList body), c')
    | none => .error (.unreadable "Unterminated string literal" inner.position)

def digitValue (c : Char) : Nat :=
  if Text.isAsciiDigit c then c.toNat - '0'.toNat
  else (Text.asciiLower c).toNat - 'a'.toNat + 10

def numeral (base : Nat) (digits : List Char) : Nat :=
  digits.foldl (fun n c => n * base + digitValue c) 0

def codePoint? (n : Nat) : Option Char :=
  if n ≠ 0 ∧ n.isValidChar then some (Char.ofNat n) else none

def isOctalDigit (c : Char) : Bool := '0' ≤ c && c ≤ '7'

def escapeSequence? : List Char → Option (Char × Nat)
  | [] => none
  | 'b' :: _ => some (Char.ofNat 8, 1)
  | 'f' :: _ => some (Char.ofNat 12, 1)
  | 'n' :: _ => some ('\n', 1)
  | 'r' :: _ => some ('\r', 1)
  | 't' :: _ => some ('\t', 1)
  | 'u' :: cs => hexEscape? 4 cs
  | 'U' :: cs => hexEscape? 8 cs
  | 'x' :: cs =>
    let digits := (cs.take 2).takeWhile Text.isAsciiHexDigit
    if digits.isEmpty then some ('x', 1)
    else byteEscape? (numeral 16 digits) (digits.length + 1)
  | c :: cs =>
    if isOctalDigit c then
      let digits := c :: (cs.take 2).takeWhile isOctalDigit
      byteEscape? (numeral 8 digits % 256) digits.length
    else (codePoint? c.toNat).map (·, 1)
where
  hexEscape? (count : Nat) (cs : List Char) : Option (Char × Nat) :=
    let written := cs.take count
    let digits := match written with
      | '+' :: rest => rest
      | _ => written
    if written.length == count && digits.all Text.isAsciiHexDigit then
      (codePoint? (numeral 16 digits)).map (·, count + 1)
    else none
  byteEscape? (n length : Nat) : Option (Char × Nat) :=
    if n ≤ 127 then (codePoint? n).map (·, length) else none

def escapedBody : Nat → Cursor → List Char → Option (List Char × Cursor)
  | 0, _, _ => none
  | fuel + 1, c, read =>
    match c.rest with
    | [] => none
    | '\'' :: '\'' :: _ => escapedBody fuel (c.skip 2) ('\'' :: read)
    | '\'' :: _ => some (read.reverse, c.skip 1)
    | '\\' :: cs =>
      match escapeSequence? cs with
      | some (decoded, length) => escapedBody fuel (c.skip (length + 1)) (decoded :: read)
      | none => none
    | d :: _ => escapedBody fuel (c.skip 1) (d :: read)

def hexCodePoint (count : Nat) (c : Cursor) : Lexed Char :=
  let digits := (c.rest.take count).takeWhile Text.isAsciiHexDigit
  if digits.length == count then
    let n := numeral 16 digits
    let c' := c.skip count
    if n.isValidChar then .ok (Char.ofNat n, c')
    else .error (.unreadable
      s!"Invalid unicode character: {String.ofList (Nat.toDigits 16 n)}" c'.position)
  else
    let c' := c.skip (digits.length + 1)
    match c.rest[digits.length]? with
    | some d => .error (.unreadable
        s!"Invalid hex digit in escaped unicode string: {d.toString}" c'.position)
    | none => .error (.unreadable
        "Unexpected EOF while parsing hex digit in escaped unicode string." c'.position)

def unicodeBody : Nat → Cursor → List Char → Lexed (List Char)
  | 0, c, _ => unterminated c
  | fuel + 1, c, read =>
    match c.rest with
    | [] => unterminated c
    | '\'' :: '\'' :: _ => unicodeBody fuel (c.skip 2) ('\'' :: read)
    | '\'' :: _ => .ok (read.reverse, c.skip 1)
    | '\\' :: '\\' :: _ => unicodeBody fuel (c.skip 2) ('\\' :: read)
    | '\\' :: '+' :: _ =>
      match hexCodePoint 6 (c.skip 2) with
      | .ok (decoded, c') => unicodeBody fuel c' (decoded :: read)
      | .error e => .error e
    | '\\' :: _ =>
      match hexCodePoint 4 (c.skip 1) with
      | .ok (decoded, c') => unicodeBody fuel c' (decoded :: read)
      | .error e => .error e
    | d :: _ => unicodeBody fuel (c.skip 1) (d :: read)
where
  unterminated (c : Cursor) : Lexed (List Char) :=
    .error (.unreadable "Unterminated unicode encoded string literal" c.position)

def lexNumber (c : Cursor) : Token × Cursor :=
  let (whole, c₁) := c.span Text.isAsciiDigit
  if whole == ['0'] && c₁.rest.head? == some 'x' then
    let (digits, c₂) := (c₁.skip 1).span Text.isAsciiHexDigit
    (.text .hex (String.ofList digits), c₂)
  else
    let hasPoint := c₁.rest.head? == some '.'
    let c₂ := if hasPoint then c₁.skip 1 else c₁
    let (fraction, c₃) := c₂.span Text.isAsciiDigit
    let mantissa := whole ++ (if hasPoint then ['.'] else []) ++ fraction
    if mantissa == ['.'] then (.symbol ".", c₃)
    else
      let (exponent, c₄) := lexExponent c₃
      let long := c₄.rest.head? == some 'L'
      (.number (String.ofList (mantissa ++ exponent)) long, if long then c₄.skip 1 else c₄)
where
  lexExponent (c : Cursor) : List Char × Cursor :=
    let signed := match c.rest with
      | e :: s :: _ => if s == '+' || s == '-' then [e, s] else [e]
      | e :: _ => [e]
      | [] => []
    let isExponent := (c.rest.head? == some 'e' || c.rest.head? == some 'E') &&
      (c.rest[signed.length]?).any Text.isAsciiDigit
    if isExponent then
      let (digits, c') := (c.skip signed.length).span Text.isAsciiDigit
      (signed ++ digits, c')
    else ([], c)

/-- After `$$` the text runs to the next `$$`; a dollar inside it that is not doubled is kept. -/
def dollarBody : List Char → Position → Bool → List Char → Option (List Char × Cursor)
  | [], _, _, _ => none
  | c :: cs, p, afterDollar, read =>
    if afterDollar then
      if c == '$' then some (read.reverse, ⟨cs, p.advance c⟩)
      else dollarBody cs (p.advance c) false (c :: '$' :: read)
    else if c == '$' then dollarBody cs (p.advance c) true read
    else dollarBody cs (p.advance c) false (c :: read)

/-- What follows a dollar inside a text: the rest of the closing delimiter, or the characters up to
    the first one that differs from the tag. Those belong to the text, and the search goes on after
    them. -/
def closingTag : List Char → Cursor → List Char → Bool × List Char × Cursor
  | [], c, read =>
    match c.rest with
    | '$' :: _ => (true, read.reverse, c.skip 1)
    | _ => (false, read.reverse, c)
  | d :: tag, c, read =>
    match c.rest with
    | e :: _ =>
      if e == d then closingTag tag (c.skip 1) (e :: read)
      else (false, (e :: read).reverse, c.skip 1)
    | [] => (false, read.reverse, c)

def taggedBody (tag : List Char) : Nat → Cursor → List Char → Option (List Char × Cursor)
  | 0, _, _ => none
  | fuel + 1, c, read =>
    let (plain, c₁) := c.span (· != '$')
    match c₁.rest with
    | [] => none
    | _ :: _ =>
      match closingTag tag (c₁.skip 1) [] with
      | (true, _, c₂) => some (read ++ plain, c₂)
      | (false, skipped, c₂) => taggedBody tag fuel c₂ (read ++ plain ++ '$' :: skipped)

def endPosition (c : Cursor) : Position := c.rest.foldl Position.advance c.position

def lexDollar (c : Cursor) : Lexed Token :=
  let c₁ := c.skip 1
  if c₁.rest.head? == some '$' then
    let c₂ := c₁.skip 1
    match dollarBody c₂.rest c₂.position false [] with
    | some (body, c') => .ok (.text (.dollar "") (String.ofList body), c')
    | none => .error (.unreadable "Unterminated dollar-quoted string" (endPosition c₂))
  else
    let (tag, c₂) := c₁.span fun d => Text.isAlphanumeric d || d == '_'
    if c₂.rest.head? == some '$' then
      let c₃ := c₂.skip 1
      match taggedBody tag (c₃.rest.length + 1) c₃ [] with
      | some (body, c') => .ok (.text (.dollar (String.ofList tag)) (String.ofList body), c')
      | none => .error (.unreadable "Unterminated dollar-quoted, expected $" (endPosition c₃))
    else .ok (.placeholder (String.ofList ('$' :: tag)), c₂)

def skipComment : List Char → Position → Nat → Char → Except SyntaxError Cursor
  | [], p, _, _ => .error (.unreadable "Unexpected EOF while in a multi-line comment" p)
  | c :: cs, p, depth, last =>
    if last == '/' && c == '*' then skipComment cs (p.advance c) (depth + 1) c
    else if last == '*' && c == '/' then
      if depth ≤ 1 then .ok ⟨cs, p.advance c⟩
      else skipComment cs (p.advance c) (depth - 1) c
    else skipComment cs (p.advance c) depth c

/-- Operators and punctuation; of two that fit, the longer one comes first. -/
def symbols : List String :=
  ["->>", "->", "-", "||/", "||", "|/", "|", "=>", "==", "=", "!=", "!!", "!~~*", "!~~", "!~*", "!~",
  "!", "<=>", "<=", "<>", "<<", "<@", "<", ">=", ">>", ">", "::", ":=", ":", "&&", "&", "^@", "^",
  "~~*", "~~", "~*", "~", "//", "/", "(", ")", ",", "+", "*", "%", ";", "\\", "[", "]", "\x7b",
  "\x7d"]

def symbol? (cs : List Char) : Option String :=
  symbols.find? fun s => s.toList.isPrefixOf cs

def symbolToken (s : String) : Token := .symbol (if s == "!=" then "<>" else s)

/-- `#` begins an operator or a word that takes the next character as it is. -/
def lexHash (c : Cursor) : Token × Cursor :=
  match c.rest with
  | _ :: '-' :: _ => (.symbol "#-", c.skip 2)
  | _ :: '>' :: '>' :: _ => (.symbol "#>>", c.skip 3)
  | _ :: '>' :: _ => (.symbol "#>", c.skip 2)
  | _ :: ' ' :: _ => (.symbol "#", c.skip 1)
  | _ :: _ :: _ => lexWord c 2
  | _ => (.symbol "#", c.skip 1)

def lexAt (c : Cursor) : Token × Cursor :=
  match c.rest with
  | _ :: '>' :: _ => (.symbol "@>", c.skip 2)
  | _ :: '?' :: _ => (.symbol "@?", c.skip 2)
  | _ :: '@' :: ' ' :: _ => (.symbol "@@", c.skip 2)
  | _ :: '@' :: _ :: _ => lexWord c 3
  | _ :: '@' :: _ => (.symbol "@@", c.skip 2)
  | _ :: ' ' :: _ => (.symbol "@", c.skip 1)
  | _ :: _ :: _ => lexWord c 2
  | _ => (.symbol "@", c.skip 1)

def lexPrefixed? (c : Cursor) : Option (Lexed Token) :=
  match c.rest with
  | d :: '\'' :: _ =>
    match Text.asciiUpper d with
    | 'B' => some (lexQuoted (.bytes '\'') '\'' false (c.skip 1))
    | 'R' => some (lexRaw '\'' (c.skip 1))
    | 'N' => some (lexQuoted .national '\'' true (c.skip 1))
    | 'X' => some (lexQuoted .hex '\'' true (c.skip 1))
    | 'E' =>
      match escapedBody (c.rest.length + 1) (c.skip 2) [] with
      | some (body, c') => some (.ok (.text .escaped (String.ofList body), c'))
      | none => some (.error (.unreadable "Unterminated encoded string literal" c.position))
    | _ => none
  | d :: '"' :: _ =>
    match Text.asciiUpper d with
    | 'B' => some (lexQuoted (.bytes '"') '"' false (c.skip 1))
    | 'R' => some (lexRaw '"' (c.skip 1))
    | _ => none
  | d :: '&' :: '\'' :: _ =>
    if d == 'u' || d == 'U' then
      match unicodeBody (c.rest.length + 1) (c.skip 3) [] with
      | .ok (body, c') => some (.ok (.text .unicode (String.ofList body), c'))
      | .error e => some (.error e)
    else none
  | _ => none

def lexNext (c : Cursor) (d : Char) : Lexed (Option Token) :=
  let token (r : Token × Cursor) : Lexed (Option Token) := .ok (some r.1, r.2)
  let lift (r : Lexed Token) : Lexed (Option Token) := r.map fun (t, c') => (some t, c')
  match c.rest with
  | '-' :: '-' :: _ =>
    let (_, c') := c.span (· != '\n')
    .ok (none, c'.skip 1)
  | '/' :: '*' :: cs =>
    (skipComment cs (c.skip 2).position 1 ' ').map (none, ·)
  | _ =>
    match lexPrefixed? c with
    | some r => lift r
    | none =>
      if d == '\'' then lift (lexQuoted .plain d false c)
      else if d == '"' || d == '\x60' then lift (lexQuotedWord d c)
      else if Text.isAsciiDigit d || d == '.' then token (lexNumber c)
      else if d == '#' then token (lexHash c)
      else if d == '@' then token (lexAt c)
      else if d == '$' then lift (lexDollar c)
      else if d == '?' then
        let (digits, c') := (c.skip 1).span Text.isNumeric
        token (.placeholder (String.ofList ('?' :: digits)), c')
      else match symbol? c.rest with
      | some s => token (symbolToken s, c.skip s.length)
      | none =>
        if startsWord d then token (lexWord c 1)
        else if Text.isBlank d then .ok (none, c.skip 1)
        else token (.other d, c.skip 1)

/-- Each step reads at least one character, so as many steps as characters suffice. -/
def lexAll : Nat → Cursor → List Located → Except SyntaxError (List Located)
  | 0, _, read => .ok read.reverse
  | fuel + 1, c, read =>
    match c.rest with
    | [] => .ok read.reverse
    | d :: _ =>
      match lexNext c d with
      | .error e => .error e
      | .ok (none, c') => lexAll fuel c' read
      | .ok (some token, c') => lexAll fuel c' ({ token, position := c.position } :: read)

def lex (s : String) : Except SyntaxError (List Located) :=
  let c := Cursor.start s
  lexAll (c.rest.length + 1) c []

end JoinDiagram.Sql
