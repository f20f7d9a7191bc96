import JoinDiagram.Proofs.Failure.Value

namespace JoinDiagram.Failure

open Text (asciiUpper isAsciiDigit isBlank isDecimalDigit isWordChar sameIgnoringCase)

def Detached (rest : List Char) : Prop :=
  ∃ c more, rest = ' ' :: c :: more ∧ isBlank c = false ∧ isDecimalDigit c = false

theorem leadingDigits_append (cs : List Char) {rest : List Char} (detached : Detached rest) :
    leadingDigits (cs ++ rest) = leadingDigits cs := by
  obtain ⟨c, more, rfl, unblank, undigit⟩ := detached
  have number : ∀ tail : List Char,
      ((tail ++ ' ' :: c :: more).dropWhile isBlank).takeWhile isDecimalDigit =
        (tail.dropWhile isBlank).takeWhile isDecimalDigit := by
    intro tail
    rw [List.dropWhile_append]
    split
    · rename_i blank
      have skipped : (' ' :: c :: more).dropWhile isBlank = c :: more := by
        rw [List.dropWhile_cons_of_pos (by decide), List.dropWhile_cons_of_neg (by simp [unblank])]
      rw [List.isEmpty_iff.mp blank, skipped, List.takeWhile_cons_of_neg (by simp [undigit]),
        List.takeWhile_nil]
    · rw [List.takeWhile_append, List.takeWhile_cons_of_neg (by decide), List.append_nil]
      split
      · rename_i whole
        exact ((List.takeWhile_prefix _).eq_of_length whole).symm
      · rfl
  rw [leadingDigits, leadingDigits]
  cases cs with
  | nil => exact number []
  | cons d tail =>
    by_cases colon : d = ':'
    · subst d
      exact number tail
    · have longer : ((d :: tail ++ ' ' :: c :: more).head? == some ':') = false := by
        simpa using colon
      have shorter : ((d :: tail).head? == some ':') = false := by simpa using colon
      rw [longer, shorter]
      exact number (d :: tail)

theorem digitsAfter?_append {keyword : List Char} (blankless : ' ' ∉ keyword.map asciiUpper)
    (cs : List Char) {rest : List Char} (detached : Detached rest) :
    digitsAfter? keyword (cs ++ rest) = digitsAfter? keyword cs := by
  have begins : sameIgnoringCase ((cs ++ rest).take keyword.length) keyword =
      sameIgnoringCase (cs.take keyword.length) keyword := by
    obtain ⟨c, more, rfl, -⟩ := detached
    exact Text.sameIgnoringCase_take_append cs (c :: more) blankless
  rw [digitsAfter?_eq, digitsAfter?_eq, begins]
  by_cases same : sameIgnoringCase (cs.take keyword.length) keyword = true
  · have lengths := Text.sameIgnoringCase_length same
    rw [List.length_take] at lengths
    rw [List.drop_append_of_le_length (by omega), leadingDigits_append _ detached]
  · rw [if_neg same, if_neg same]

theorem scanDigits_append {keyword : List Char} (blankless : ' ' ∉ keyword.map asciiUpper)
    (last : Option Char) (cs : List Char) {rest : List Char} (detached : Detached rest) :
    scanDigits keyword last (cs ++ rest) =
      (scanDigits keyword last cs).or (scanDigits keyword (cs.getLast?.or last) rest) := by
  induction cs generalizing last with
  | nil => simp [scanDigits]
  | cons c cs ih =>
    rw [List.cons_append, scanDigits, scanDigits, ih, getLast?_cons_or]
    by_cases inside : last.any isWordChar = true
    · rw [if_pos inside, if_pos inside]
    · rw [if_neg inside, if_neg inside, ← List.cons_append,
        digitsAfter?_append blankless (c :: cs) detached]
      cases digitsAfter? keyword (c :: cs) <;> rfl

theorem scanDigits_skip {k : Char} (keyword : List Char) (last : Option Char) {cs : List Char}
    (other : ∀ c ∈ cs, asciiUpper c ≠ asciiUpper k) (rest : List Char) :
    scanDigits (k :: keyword) last (cs ++ rest) =
      scanDigits (k :: keyword) (cs.getLast?.or last) rest := by
  induction cs generalizing last with
  | nil => simp
  | cons c cs ih =>
    have different : digitsAfter? (k :: keyword) (c :: (cs ++ rest)) = none := by
      rw [digitsAfter?_eq, if_neg]
      simp [sameIgnoringCase, other c (by simp)]
    rw [List.cons_append, scanDigits, different, getLast?_cons_or,
      ih _ fun d member => other d (List.mem_cons_of_mem c member)]
    split <;> rfl

theorem isDecimalDigit_of_mem_toDigits {n : Nat} {c : Char} (member : c ∈ Nat.toDigits 10 n) :
    isDecimalDigit c :=
  Text.isDecimalDigit_of_isAsciiDigit (Text.isAsciiDigit_of_mem_toDigits member)

theorem scanDigits_number {keyword word : List Char} {last : Char}
    (boundary : isWordChar last = false) (spelled : sameIgnoringCase word keyword) (n : Nat)
    {rest : List Char} (stops : ∀ c ∈ rest.head?, isDecimalDigit c = false) :
    scanDigits keyword (some last) (word ++ ':' :: ' ' :: (Nat.toDigits 10 n ++ rest)) =
      some (Nat.toDigits 10 n) := by
  have counted : Counted (':' :: ' ' :: (Nat.toDigits 10 n ++ rest)) [':'] [' ']
      (Nat.toDigits 10 n) rest :=
    { spelled := rfl
      colon := .inr rfl
      blank := List.forall_mem_singleton.mpr rfl
      digit := fun c member => isDecimalDigit_of_mem_toDigits member
      filled := Nat.toDigits_ne_nil
      stops }
  have here : Numbered keyword (word ++ ':' :: ' ' :: (Nat.toDigits 10 n ++ rest))
      (Nat.toDigits 10 n) := ⟨word, _, _, _, rest, rfl, spelled, counted⟩
  rw [scanDigits_eq_some_iff, firstNumber_here (by simpa [OpensWord] using boundary) here]

theorem positionValue_number {n : Nat} (small : n < UInt32.size) :
    positionValue? (Nat.toDigits 10 n) = some n := by
  have ascii : ∀ d ∈ Nat.toDigits 10 n, isAsciiDigit d :=
    fun d member => Text.isAsciiDigit_of_mem_toDigits member
  exact positionValue?_eq_some_iff.mpr ⟨ascii, decimalValue_toDigits n, small⟩

def located (message : String) (line column : Nat) : String :=
  message ++ " at Line: " ++ toString line ++ ", Column: " ++ toString column

def positionText (line column : Nat) : List Char :=
  [' ', 'a', 't', ' '] ++ (['L', 'i', 'n', 'e'] ++ ':' :: ' ' :: (Nat.toDigits 10 line ++
    ([',', ' '] ++ (['C', 'o', 'l', 'u', 'm', 'n'] ++ ':' :: ' ' :: Nat.toDigits 10 column))))

theorem toList_located (message : String) (line column : Nat) :
    (located message line column).toList = message.toList ++ positionText line column := by
  simp [located, positionText]

theorem positionText_detached (line column : Nat) : Detached (positionText line column) :=
  ⟨'a', _, rfl, by decide, by decide⟩

theorem scanDigits_line (last : Option Char) (line column : Nat) :
    scanDigits ['l', 'i', 'n', 'e'] last (positionText line column) =
      some (Nat.toDigits 10 line) := by
  have stops : ∀ c ∈ ([',', ' '] ++ (['C', 'o', 'l', 'u', 'm', 'n'] ++ ':' :: ' ' ::
      Nat.toDigits 10 column)).head?, isDecimalDigit c = false := by
    intro c first
    cases first
    decide
  rw [positionText, scanDigits_skip _ _ (by simp [asciiUpper])]
  exact scanDigits_number (by decide +kernel) (by decide) line stops

theorem scanDigits_column (last : Option Char) (line column : Nat) :
    scanDigits ['c', 'o', 'l', 'u', 'm', 'n'] last (positionText line column) =
      some (Nat.toDigits 10 column) := by
  have regrouped : positionText line column =
      ([' ', 'a', 't', ' ', 'L', 'i', 'n', 'e', ':', ' '] ++ Nat.toDigits 10 line ++ [',', ' ']) ++
        (['C', 'o', 'l', 'u', 'm', 'n'] ++ ':' :: ' ' :: (Nat.toDigits 10 column ++ [])) := by
    simp [positionText]
  have other : ∀ c ∈ [' ', 'a', 't', ' ', 'L', 'i', 'n', 'e', ':', ' '] ++ Nat.toDigits 10 line ++
      [',', ' '], asciiUpper c ≠ asciiUpper 'c' := by
    intro c member
    simp only [List.mem_append] at member
    rcases member with (label | digit) | separator
    · revert c
      simp [asciiUpper]
    · have isDigit := Text.isAsciiDigit_of_mem_toDigits digit
      rw [Text.asciiUpper_of_isAsciiDigit isDigit]
      rintro rfl
      exact absurd isDigit (by decide)
    · revert c
      simp [asciiUpper]
  rw [regrouped, scanDigits_skip _ _ other, List.getLast?_append]
  exact scanDigits_number (by decide +kernel) (by decide) column (by simp)

theorem positionAfter?_located {keyword message : String} {line column n : Nat}
    (blankless : ' ' ∉ keyword.toList.map asciiUpper) (small : n < UInt32.size)
    (reported : ∀ last, scanDigits keyword.toList last (positionText line column) =
      some (Nat.toDigits 10 n)) :
    positionAfter? keyword (located message line column) = some n ↔
      ∀ digits, FirstNumber keyword.toList none message.toList digits →
        positionValue? digits = some n := by
  rw [positionAfter?, toList_located,
    scanDigits_append blankless none _ (positionText_detached line column), reported]
  simp only [← scanDigits_eq_some_iff]
  cases scanDigits keyword.toList none message.toList with
  | none => simp [positionValue_number small]
  | some digits => simp

/-- The position behind a message is read exactly if the message itself has no number after the
    keyword, or the first such number happens to be the same. -/
theorem ofMessage_located_iff (message : String) {line column : Nat} (lineSmall : line < UInt32.size)
    (columnSmall : column < UInt32.size) :
    ((ofMessage (located message line column)).line = some line ↔
      ∀ digits, FirstNumber "line".toList none message.toList digits →
        positionValue? digits = some line) ∧
    ((ofMessage (located message line column)).column = some column ↔
      ∀ digits, FirstNumber "column".toList none message.toList digits →
        positionValue? digits = some column) :=
  ⟨positionAfter?_located (by decide) lineSmall fun last => scanDigits_line last line column,
    positionAfter?_located (by decide) columnSmall fun last => scanDigits_column last line column⟩

theorem ofMessage_located_iff_online :
    1 < UInt32.size ∧ 4294967295 < UInt32.size ∧
      (ofMessage (located "Expected: end of statement, found: online 7" 1 4294967295)).line =
        some 1 ∧
      (ofMessage (located "Expected: end of statement, found: online 7" 1 4294967295)).column =
        some 4294967295 := by
  have lineSmall : 1 < UInt32.size := by decide
  have columnSmall : 4294967295 < UInt32.size := by decide
  have survive :=
    ofMessage_located_iff "Expected: end of statement, found: online 7" lineSmall columnSmall
  have noLine : scanDigits "line".toList none
      "Expected: end of statement, found: online 7".toList = none := by decide +kernel
  have noColumn : scanDigits "column".toList none
      "Expected: end of statement, found: online 7".toList = none := by decide +kernel
  refine ⟨lineSmall, columnSmall, survive.1.mpr ?_, survive.2.mpr ?_⟩
  · intro digits found
    rw [← scanDigits_eq_some_iff, noLine] at found
    cases found
  · intro digits found
    rw [← scanDigits_eq_some_iff, noColumn] at found
    cases found

theorem ofMessage_located_quoted :
    (ofMessage (located "sql parser error: Expected: end of statement, found: 'line 7'" 1 19)).line =
        some 7 ∧
      ¬ ∀ (message : String) (line column : Nat), line < UInt32.size → column < UInt32.size →
        (ofMessage (located message line column)).line = some line ∧
          (ofMessage (located message line column)).column = some column := by
  have quoted : (ofMessage (located
      "sql parser error: Expected: end of statement, found: 'line 7'" 1 19)).line = some 7 := by
    decide +kernel
  refine ⟨quoted, ?_⟩
  intro survives
  have reported := (survives
    "sql parser error: Expected: end of statement, found: 'line 7'" 1 19 (by decide) (by decide)).1
  rw [quoted] at reported
  cases reported

end JoinDiagram.Failure
