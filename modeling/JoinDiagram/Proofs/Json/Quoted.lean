import JoinDiagram.Json.Printer
import JoinDiagram.Json.Reader

namespace JoinDiagram.Json

theorem hexUnit_control : ∀ n < 0x20,
    ['0', '0', hexDigit (n / 16), hexDigit (n % 16)].all Text.isAsciiHexDigit ∧
      ['0', '0', hexDigit (n / 16), hexDigit (n % 16)].foldl
        (fun n digit => n * 16 + hexValue digit) 0 = n := by
  decide

theorem unicodeEscape_control {c : Char} (control : c.toNat < 0x20) (rest : List Char) :
    unicodeEscape ('0' :: '0' :: hexDigit (c.toNat / 16) :: hexDigit (c.toNat % 16) :: rest) =
      some (c, rest) := by
  obtain ⟨digits, value⟩ := hexUnit_control c.toNat control
  have unit : hexUnit ('0' :: '0' :: hexDigit (c.toNat / 16) :: hexDigit (c.toNat % 16) :: rest) =
      some (c.toNat, rest) := by
    rw [hexUnit, if_pos digits, value]
  have trailing : isTrailingSurrogate c.toNat = false := by
    simp only [isTrailingSurrogate, Bool.and_eq_false_iff, decide_eq_false_iff_not]
    omega
  have leading : isLeadingSurrogate c.toNat = false := by
    simp only [isLeadingSurrogate, Bool.and_eq_false_iff, decide_eq_false_iff_not]
    omega
  rw [unicodeEscape, unit]
  simp only [Option.bind_eq_bind, Option.bind_some, trailing, leading, Bool.false_eq_true,
    if_false, Char.ofNat_toNat]

theorem stringBody_escapeChar (fuel : Nat) (read : List Char) (c : Char) (rest : List Char) :
    stringBody (fuel + 1) read (escapeChar c ++ rest) = stringBody fuel (c :: read) rest := by
  unfold escapeChar
  split
  next => rfl
  next => rfl
  next => rfl
  next => rfl
  next => rfl
  next => rfl
  next => rfl
  next quote backslash _ _ _ _ _ =>
    split
    next control =>
      have letter : escape ('u' :: '0' :: '0' :: hexDigit (c.toNat / 16) ::
          hexDigit (c.toNat % 16) :: rest) = some (c, rest) := unicodeEscape_control control rest
      have notQuote : ('\\' == '"') = false := rfl
      simp only [List.cons_append, List.nil_append, stringBody, notQuote, beq_self_eq_true, letter,
        Bool.false_eq_true, if_false, if_true]
    next plain =>
      have printed : isControl c = false := decide_eq_false plain
      have notQuote : (c == '"') = false := beq_false_of_ne quote
      have notBackslash : (c == '\\') = false := beq_false_of_ne backslash
      rw [List.singleton_append, stringBody, notQuote, notBackslash, printed]
      rfl

theorem stringBody_escaped (cs : List Char) (fuel : Nat) (enough : cs.length < fuel)
    (read rest : List Char) :
    stringBody fuel read (cs.flatMap escapeChar ++ '"' :: rest) =
      some (String.ofList (read.reverse ++ cs), rest) := by
  induction cs generalizing fuel read with
  | nil =>
    cases fuel with
    | zero => omega
    | succ fuel => rw [List.append_nil]; rfl
  | cons c cs ih =>
    cases fuel with
    | zero => omega
    | succ fuel =>
      have shorter : cs.length < fuel := by
        rw [List.length_cons] at enough
        omega
      rw [List.flatMap_cons, List.append_assoc, stringBody_escapeChar, ih fuel shorter,
        List.reverse_cons, List.append_assoc, List.singleton_append]

theorem toList_quoted (s : String) :
    (quoted s).toList = '"' :: (s.toList.flatMap escapeChar ++ ['"']) := by
  simp [quoted]

theorem length_escapeChar_pos (c : Char) : 1 ≤ (escapeChar c).length := by
  unfold escapeChar
  split <;> try simp
  split <;> simp

theorem length_le_flatMap_escapeChar (cs : List Char) :
    cs.length ≤ (cs.flatMap escapeChar).length := by
  induction cs with
  | nil => exact Nat.le_refl 0
  | cons c cs ih =>
    have first := length_escapeChar_pos c
    rw [List.flatMap_cons, List.length_append, List.length_cons]
    omega

theorem length_lt_quoted (s : String) : s.toList.length < (quoted s).toList.length := by
  have body := length_le_flatMap_escapeChar s.toList
  simp only [toList_quoted, List.length_append, List.length_cons, List.length_nil]
  omega

theorem readString_quoted (s : String) (rest : List Char) {bound : Nat}
    (enough : s.toList.length < bound) :
    readString bound ((quoted s).toList ++ rest) = some (s, rest) := by
  have text : (quoted s).toList ++ rest = '"' :: (s.toList.flatMap escapeChar ++ '"' :: rest) := by
    rw [toList_quoted, List.cons_append, List.append_assoc, List.singleton_append]
  rw [text]
  change stringBody _ [] _ = _
  rw [stringBody_escaped _ _ enough, List.reverse_nil, List.nil_append, String.ofList_toList]

end JoinDiagram.Json
