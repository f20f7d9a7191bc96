import JoinDiagram.Json.Value

namespace JoinDiagram.Json

def hexDigit (n : Nat) : Char := if n < 10 then Char.ofNat (48 + n) else Char.ofNat (87 + n)

def escapeChar : Char → List Char
  | '"' => ['\\', '"']
  | '\\' => ['\\', '\\']
  | '\x08' => ['\\', 'b']
  | '\x0c' => ['\\', 'f']
  | '\n' => ['\\', 'n']
  | '\r' => ['\\', 'r']
  | '\t' => ['\\', 't']
  | c =>
    if c.toNat < 0x20 then ['\\', 'u', '0', '0', hexDigit (c.toNat / 16), hexDigit (c.toNat % 16)]
    else [c]

def quoted (s : String) : String := "\"" ++ String.ofList (s.toList.flatMap escapeChar) ++ "\""

structure Layout where
  afterColon : String
  lineBreak : Nat → String

namespace Layout

def compact : Layout := ⟨"", fun _ => ""⟩

def pretty : Layout := ⟨" ", fun depth => String.ofList ('\n' :: List.replicate (2 * depth) ' ')⟩

def bracket (l : Layout) (depth : Nat) (opening closing : String) (items : List String) : String :=
  if items.isEmpty then opening ++ closing
  else
    opening ++ l.lineBreak (depth + 1) ++ ("," ++ l.lineBreak (depth + 1)).intercalate items ++
      l.lineBreak depth ++ closing

end Layout

mutual

def renderAt (l : Layout) (depth : Nat) : Json → String
  | null => "null"
  | bool value => if value then "true" else "false"
  | natural value => toString value
  | string value => quoted value
  | array items => l.bracket depth "[" "]" (renderItems l (depth + 1) items)
  | object fields => l.bracket depth "\x7b" "\x7d" (renderFields l (depth + 1) fields)

def renderItems (l : Layout) (depth : Nat) : List Json → List String
  | [] => []
  | v :: vs => renderAt l depth v :: renderItems l depth vs

def renderFields (l : Layout) (depth : Nat) : List (String × Json) → List String
  | [] => []
  | (key, v) :: rest =>
    (quoted key ++ ":" ++ l.afterColon ++ renderAt l depth v) :: renderFields l depth rest

end

def render (l : Layout) (v : Json) : String := renderAt l 0 v

end JoinDiagram.Json
