import JoinDiagram.Failure.Position
import JoinDiagram.Proofs.Text.CharClass

namespace JoinDiagram.Failure

open Text (isBlank isDecimalDigit isWordChar sameIgnoringCase)

def leadingDigits (cs : List Char) : List Char :=
  ((if cs.head? == some ':' then cs.tail else cs).dropWhile isBlank).takeWhile isDecimalDigit

theorem digitsAfter?_eq (keyword cs : List Char) :
    digitsAfter? keyword cs =
      if sameIgnoringCase (cs.take keyword.length) keyword then
        if (leadingDigits (cs.drop keyword.length)).isEmpty then none
        else some (leadingDigits (cs.drop keyword.length))
      else none := rfl

structure Counted (text colon blanks digits rest : List Char) : Prop where
  spelled : text = colon ++ (blanks ++ (digits ++ rest))
  colon : colon = [] ∨ colon = [':']
  blank : ∀ c ∈ blanks, isBlank c
  digit : ∀ c ∈ digits, isDecimalDigit c
  filled : digits ≠ []
  stops : ∀ c ∈ rest.head?, isDecimalDigit c = false

theorem Counted.leadingDigits_eq {text colon blanks digits rest : List Char}
    (h : Counted text colon blanks digits rest) : leadingDigits text = digits := by
  obtain ⟨d, ds, first⟩ := List.exists_cons_of_ne_nil h.filled
  have digit : isDecimalDigit d = true := h.digit d (by simp [first])
  have skipped : (digits ++ rest).dropWhile isBlank = digits ++ rest := by
    have unblank := Text.isBlank_of_isDecimalDigit digit
    rw [first, List.cons_append, List.dropWhile_cons_of_neg (by simp [unblank])]
  have ended : rest.takeWhile isDecimalDigit = [] := by
    cases after : rest with
    | nil => rfl
    | cons c more =>
      have stop := h.stops c (by simp [after])
      exact List.takeWhile_cons_of_neg (by simp [stop])
  have number : ((blanks ++ (digits ++ rest)).dropWhile isBlank).takeWhile isDecimalDigit =
      digits := by
    rw [List.dropWhile_append_of_pos h.blank, skipped, List.takeWhile_append_of_pos h.digit, ended,
      List.append_nil]
  rw [h.spelled, leadingDigits]
  rcases h.colon with rfl | rfl
  · have uncolon : ((blanks ++ (digits ++ rest)).head? == some ':') = false := by
      rw [beq_eq_false_iff_ne]
      cases spelled : blanks with
      | nil =>
        rw [first]
        rintro same
        cases same
        exact absurd digit (by decide)
      | cons b more =>
        rintro same
        cases same
        exact absurd (h.blank ':' (by simp [spelled])) (by decide)
    rw [List.nil_append, uncolon]
    exact number
  · exact number

theorem counted_leadingDigits {text : List Char} (filled : leadingDigits text ≠ []) :
    ∃ colon blanks rest, Counted text colon blanks (leadingDigits text) rest := by
  obtain ⟨colon, tail, split, cases, digits⟩ : ∃ colon tail, text = colon ++ tail ∧
      (colon = [] ∨ colon = [':']) ∧
      leadingDigits text = (tail.dropWhile isBlank).takeWhile isDecimalDigit := by
    by_cases begins : text.head? = some ':'
    · obtain ⟨tail, rfl⟩ : ∃ tail, text = ':' :: tail := by
        cases text with
        | nil => cases begins
        | cons c tail =>
          cases begins
          exact ⟨tail, rfl⟩
      exact ⟨[':'], tail, rfl, .inr rfl, rfl⟩
    · have uncolon : (text.head? == some ':') = false := by simpa using begins
      exact ⟨[], text, rfl, .inl rfl, by rw [leadingDigits, uncolon]; rfl⟩
  refine ⟨colon, tail.takeWhile isBlank, (tail.dropWhile isBlank).dropWhile isDecimalDigit,
    ⟨?_, cases, ?_, ?_, filled, ?_⟩⟩
  · rw [digits, List.takeWhile_append_dropWhile, List.takeWhile_append_dropWhile, split]
  · exact fun c member => List.mem_takeWhile_imp member
  · rw [digits]
    exact fun c member => List.mem_takeWhile_imp member
  · intro c first
    have stop := List.head?_dropWhile_not isDecimalDigit (tail.dropWhile isBlank)
    rw [Option.mem_def] at first
    rw [first] at stop
    simpa using stop

def Numbered (keyword text digits : List Char) : Prop :=
  ∃ word tail colon blanks rest, text = word ++ tail ∧ sameIgnoringCase word keyword ∧
    Counted tail colon blanks digits rest

theorem digitsAfter?_eq_some_iff {keyword text digits : List Char} :
    digitsAfter? keyword text = some digits ↔ Numbered keyword text digits := by
  constructor
  · intro found
    rw [digitsAfter?_eq] at found
    split at found
    · rename_i spelled
      split at found
      · cases found
      · rename_i filled
        cases found
        obtain ⟨colon, blanks, rest, counted⟩ := counted_leadingDigits (by simpa using filled)
        exact ⟨_, _, colon, blanks, rest, (List.take_append_drop ..).symm, spelled, counted⟩
    · cases found
  · rintro ⟨word, tail, colon, blanks, rest, rfl, spelled, counted⟩
    have lengths := Text.sameIgnoringCase_length spelled
    have digits := counted.leadingDigits_eq
    rw [digitsAfter?_eq, ← lengths, List.take_left, List.drop_left, if_pos spelled, digits, if_neg]
    simpa using counted.filled

def OpensWord (last : Option Char) (before : List Char) : Prop :=
  (before.getLast?.or last).any isWordChar = false

/-- A number of these digits follows the keyword at the first place of the text where the keyword
    begins a word and any number follows it. -/
def FirstNumber (keyword : List Char) (last : Option Char) (text digits : List Char) : Prop :=
  ∃ before rest, text = before ++ rest ∧ OpensWord last before ∧ Numbered keyword rest digits ∧
    ∀ earlier later number, text = earlier ++ later → OpensWord last earlier →
      Numbered keyword later number → before.length ≤ earlier.length

theorem getLast?_cons_or (c : Char) (cs : List Char) (last : Option Char) :
    (c :: cs).getLast?.or last = cs.getLast?.or (some c) := by
  cases found : cs.getLast? <;> simp [List.getLast?_cons, found]

theorem opensWord_cons (last : Option Char) (c : Char) (before : List Char) :
    OpensWord last (c :: before) ↔ OpensWord (some c) before := by
  rw [OpensWord, OpensWord, getLast?_cons_or]

theorem Numbered.unique {keyword text digits other : List Char} (h : Numbered keyword text digits)
    (h' : Numbered keyword text other) : digits = other := by
  rw [← digitsAfter?_eq_some_iff] at h h'
  rw [h] at h'
  exact Option.some.inj h'

theorem not_numbered_nil {keyword digits : List Char} : ¬ Numbered keyword [] digits := by
  rintro ⟨word, tail, colon, blanks, rest, empty, -, counted⟩
  have blank : tail = [] := (List.append_eq_nil_iff.mp empty.symm).2
  have spelled := counted.spelled
  rw [blank] at spelled
  exact counted.filled (by simp_all)

theorem firstNumber_here {keyword text digits number : List Char} {last : Option Char}
    (opens : OpensWord last []) (here : Numbered keyword text number) :
    FirstNumber keyword last text digits ↔ digits = number := by
  constructor
  · rintro ⟨before, rest, split, -, found, first⟩
    have empty : before = [] := by
      have short := first [] text number rfl opens here
      exact List.length_eq_zero_iff.mp (Nat.le_zero.mp short)
    rw [empty, List.nil_append] at split
    exact (split ▸ found).unique here
  · rintro rfl
    exact ⟨[], text, rfl, opens, here, fun earlier _ _ _ _ _ => Nat.zero_le earlier.length⟩

theorem firstNumber_later {keyword cs digits : List Char} {last : Option Char} {c : Char}
    (skipped : OpensWord last [] → ∀ number, ¬ Numbered keyword (c :: cs) number) :
    FirstNumber keyword last (c :: cs) digits ↔ FirstNumber keyword (some c) cs digits := by
  constructor
  · rintro ⟨before, rest, split, opens, found, first⟩
    cases before with
    | nil =>
      rw [List.nil_append] at split
      exact absurd (split ▸ found) (skipped opens digits)
    | cons b before =>
      obtain ⟨rfl, rfl⟩ := List.cons.inj split
      refine ⟨before, rest, rfl, (opensWord_cons ..).mp opens, found, ?_⟩
      intro earlier later number other opened numbered
      have shorter := first (c :: earlier) later number (congrArg (c :: ·) other)
        ((opensWord_cons ..).mpr opened) numbered
      simpa using shorter
  · rintro ⟨before, rest, rfl, opens, found, first⟩
    refine ⟨c :: before, rest, rfl, (opensWord_cons ..).mpr opens, found, ?_⟩
    intro earlier later number other opened numbered
    cases earlier with
    | nil =>
      rw [List.nil_append] at other
      exact absurd (other ▸ numbered) (skipped opened number)
    | cons e earlier =>
      obtain ⟨rfl, split⟩ := List.cons.inj other
      have shorter := first earlier later number split ((opensWord_cons ..).mp opened) numbered
      simpa using shorter

theorem scanDigits_eq_some_iff {keyword text digits : List Char} {last : Option Char} :
    scanDigits keyword last text = some digits ↔ FirstNumber keyword last text digits := by
  induction text generalizing last with
  | nil =>
    rw [scanDigits]
    constructor
    · rintro ⟨⟩
    · rintro ⟨before, rest, split, -, found, -⟩
      have empty := (List.append_eq_nil_iff.mp split.symm).2
      exact absurd (empty ▸ found) not_numbered_nil
  | cons c cs ih =>
    rw [scanDigits]
    by_cases inside : last.any isWordChar = true
    · have closed : ¬ OpensWord last [] := by simp [OpensWord, inside]
      rw [if_pos inside, ih, firstNumber_later fun opens => absurd opens closed]
    · have opens : OpensWord last [] := by simpa [OpensWord] using inside
      rw [if_neg inside]
      cases here : digitsAfter? keyword (c :: cs) with
      | some number =>
        rw [firstNumber_here opens (digitsAfter?_eq_some_iff.mp here), Option.some.injEq, eq_comm]
      | none =>
        have skipped : ∀ number, ¬ Numbered keyword (c :: cs) number := by
          intro number numbered
          rw [← digitsAfter?_eq_some_iff, here] at numbered
          cases numbered
        rw [firstNumber_later fun _ => skipped]
        exact ih

end JoinDiagram.Failure
