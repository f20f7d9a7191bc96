import JoinDiagram.Proofs.Failure.Match
import JoinDiagram.Proofs.Text.Trim

namespace JoinDiagram.Failure

open Text (Bare FirstLine Framed firstLineChars isAsciiLetter isBlank isDecimalDigit trimChars)

def OnFirstLine (keyword text : List Char) : Prop :=
  ∃ before found after digits,
    FirstMatch keyword text before found after digits ∧ '\n' ∉ before ++ found

structure Headed (text lead core tail : List Char) : Prop where
  spelled : text = lead ++ (core ++ tail)
  unbroken : '\n' ∉ lead ++ core
  opening : ∀ c ∈ lead, isBlank c
  closing : ∀ c ∈ tail.takeWhile (· != '\n'), isBlank c

theorem headed_of_framed {text line ending more lead core trail : List Char}
    (first : FirstLine text line ending more) (framed : Framed line lead core trail) :
    Headed text lead core (trail ++ (ending ++ more)) := by
  have unbroken := first.unbroken
  rw [framed.spelled, ← List.append_assoc, List.mem_append, not_or] at unbroken
  refine ⟨?_, unbroken.1, framed.lead, ?_⟩
  · rw [first.spelled, framed.spelled]
    simp only [List.append_assoc]
  · have ended : ∀ c ∈ (ending ++ more).takeWhile (· != '\n'), isBlank c := by
      rcases first.ended with rfl | ⟨rfl, -⟩ | ⟨rfl, rfl⟩
      · intro c member
        have carried : c = '\r' := by simpa using member
        rw [carried]
        decide
      · simp
      · simp
    rw [Text.takeWhile_unbroken unbroken.2]
    intro c member
    exact (List.mem_append.mp member).elim (framed.trail c) (ended c)

theorem Headed.broken {text lead core tail : List Char} (h : Headed text lead core tail) :
    ∀ c ∈ tail.head?, isBlank c := by
  intro c first
  obtain ⟨more, rfl⟩ := List.head?_eq_some_iff.mp first
  by_cases feed : c = '\n'
  · rw [feed]
    decide
  · exact h.closing c (by simp [feed])

section Keyword

variable {keyword : List Char} (filled : keyword ≠ []) (letters : ∀ k ∈ keyword, isAsciiLetter k)
include filled letters

theorem Headed.candidate {text lead core tail before found after digits : List Char}
    (h : Headed text lead core tail) (first : FirstMatch keyword text before found after digits)
    (unbroken : '\n' ∉ before ++ found) : ∃ place, Candidate keyword core place digits := by
  obtain ⟨d, member, digit⟩ := first.matched.exists_digit
  have lines : (lead ++ core) ++ tail.takeWhile (· != '\n') =
      before ++ (found ++ after.takeWhile (· != '\n')) := by
    rw [← Text.takeWhile_unbroken h.unbroken, ← List.append_assoc before,
      ← Text.takeWhile_unbroken unbroken, List.append_assoc lead, ← h.spelled,
      List.append_assoc before, ← first.spelled]
  -- Behind its core the line has only blanks, so the number of a match that ends on it is in the core.
  have inline : d ∉ tail.takeWhile (· != '\n') := by
    intro closing
    have blank := h.closing d closing
    rw [Text.isBlank_of_isDecimalDigit digit] at blank
    cases blank
  have inside : d ∈ (lead ++ core).drop before.length := by
    rcases List.append_eq_append_iff.mp lines with ⟨more, rfl, rest⟩ | ⟨more, front, rest⟩
    · exact absurd (by simp [rest, member]) inline
    · have kept : d ∈ more ++ tail.takeWhile (· != '\n') := by simp [← rest, member]
      rw [front, List.drop_left]
      exact (List.mem_append.mp kept).resolve_right inline
  have candidate := first.leftmost.1
  rw [h.spelled, ← List.append_assoc] at candidate
  obtain ⟨inner, -, found⟩ := (candidate_prepend letters filled h.opening).mp
    (candidate.of_append letters h.broken inside digit)
  exact ⟨inner, found⟩

theorem Headed.firstMatch {text lead core tail before found after digits : List Char}
    (h : Headed text lead core tail) (first : FirstMatch keyword core before found after digits) :
    FirstMatch keyword text (lead ++ before) found (after ++ tail) digits := by
  rw [h.spelled]
  exact first.within letters filled h.opening h.broken

theorem Headed.onFirstLine_iff {text lead core tail : List Char} (h : Headed text lead core tail) :
    OnFirstLine keyword text ↔ scanDigits keyword none core ≠ none := by
  rw [Option.ne_none_iff_exists']
  constructor
  · rintro ⟨before, found, after, digits, first, unbroken⟩
    obtain ⟨place, candidate⟩ := h.candidate filled letters first unbroken
    obtain ⟨least, number, -, leftmost⟩ := candidate.exists_leftmost
    exact ⟨number, scanDigits_eq_some_iff.mpr (firstNumber_iff_leftmost.mpr ⟨least, leftmost⟩)⟩
  · rintro ⟨digits, scan⟩
    obtain ⟨before, found, after, first⟩ := scanDigits_eq_some_iff_firstMatch.mp scan
    have unbroken : '\n' ∉ lead ++ before ++ found := by
      intro member
      apply h.unbroken
      rw [first.spelled, ← List.append_assoc, ← List.append_assoc]
      exact List.mem_append_left after member
    exact ⟨lead ++ before, found, after ++ tail, digits, h.firstMatch filled letters first, unbroken⟩

theorem Headed.scanDigits_eq {text lead core tail digits : List Char}
    (h : Headed text lead core tail) (scan : scanDigits keyword none core = some digits) :
    scanDigits keyword none text = some digits := by
  obtain ⟨before, found, after, first⟩ := scanDigits_eq_some_iff_firstMatch.mp scan
  exact scanDigits_eq_some_iff_firstMatch.mpr
    ⟨lead ++ before, found, after ++ tail, h.firstMatch filled letters first⟩

end Keyword

/-- A message on one line, with something in it and no blank at either end. -/
structure Tidy (message : String) : Prop where
  filled : message ≠ ""
  unbroken : '\n' ∉ message.toList
  bare : Bare message.toList

theorem headline_of_framed {text : String} {line ending more lead core trail : List Char}
    (first : FirstLine text.toList line ending more) (framed : Framed line lead core trail) :
    headline text = if line.all isBlank then fallbackMessage else String.ofList core := by
  have blank : core.isEmpty = line.all isBlank := by
    rw [Bool.eq_iff_iff, List.isEmpty_iff, framed.core_eq_nil_iff, List.all_eq_true]
  rw [headline, first.firstLineChars_eq, framed.trimChars_eq, blank]

theorem exists_framed (text : List Char) :
    ∃ line ending more lead core trail,
      FirstLine text line ending more ∧ Framed line lead core trail := by
  obtain ⟨ending, more, first⟩ := Text.firstLine_firstLineChars text
  obtain ⟨lead, trail, framed⟩ := Text.framed_trimChars (firstLineChars text)
  exact ⟨_, ending, more, lead, _, trail, first, framed⟩

theorem tidy_fallbackMessage : Tidy fallbackMessage where
  filled := by decide
  unbroken := by decide
  bare := by
    constructor
    · rintro c ⟨⟩
      decide
    · rintro c ⟨⟩
      decide

theorem tidy_headline (text : String) : Tidy (headline text) := by
  obtain ⟨line, ending, more, lead, core, trail, first, framed⟩ := exists_framed text.toList
  rw [headline_of_framed first framed]
  split
  · exact tidy_fallbackMessage
  · rename_i visible
    rw [List.all_eq_true, ← framed.core_eq_nil_iff] at visible
    have unbroken := first.unbroken
    rw [framed.spelled] at unbroken
    refine ⟨?_, ?_, ?_⟩
    · rwa [Ne, String.ofList_eq_empty_iff]
    · rw [String.toList_ofList]
      exact fun member => unbroken (by simp [member])
    · rw [String.toList_ofList]
      exact framed.bare

theorem headline_of_tidy {message : String} (tidy : Tidy message) : headline message = message := by
  have first : FirstLine message.toList message.toList [] [] :=
    ⟨by simp, tidy.unbroken, .inr (.inr ⟨rfl, rfl⟩)⟩
  have framed : Framed message.toList [] message.toList [] := ⟨by simp, by simp, by simp, tidy.bare⟩
  rw [headline_of_framed first framed, if_neg, String.ofList_toList]
  rw [List.all_eq_true, ← framed.core_eq_nil_iff, String.toList_eq_nil_iff]
  exact tidy.filled

theorem scanDigits_headline {text : String} {line ending more lead core trail keyword : List Char}
    (first : FirstLine text.toList line ending more) (framed : Framed line lead core trail) :
    scanDigits keyword none (headline text).toList = scanDigits keyword none core := by
  rw [headline_of_framed first framed]
  split
  · rename_i blank
    rw [List.all_eq_true, ← framed.core_eq_nil_iff] at blank
    rw [blank, scanDigits, scanDigits_of_undigit (by decide)]
  · rw [String.toList_ofList]

/-- How the position that a message gives by itself compares to the one of the text that it heads. -/
structure Carries (keyword text : List Char) (whole alone : Option Nat) : Prop where
  within : OnFirstLine keyword text → alone = whole
  beyond : ¬ OnFirstLine keyword text → alone = none

theorem headline_carries (keyword text : String) (filled : keyword.toList ≠ [])
    (letters : ∀ k ∈ keyword.toList, isAsciiLetter k) :
    Carries keyword.toList text.toList (positionAfter? keyword text)
      (positionAfter? keyword (headline text)) := by
  obtain ⟨line, ending, more, lead, core, trail, first, framed⟩ := exists_framed text.toList
  have headed := headed_of_framed first framed
  rw [positionAfter?, positionAfter?, scanDigits_headline first framed]
  constructor
  · intro onFirst
    rw [headed.onFirstLine_iff filled letters, Option.ne_none_iff_exists'] at onFirst
    obtain ⟨digits, scan⟩ := onFirst
    rw [scan, headed.scanDigits_eq filled letters scan]
  · intro later
    rw [headed.onFirstLine_iff filled letters, not_not] at later
    rw [later, Option.bind_none]

/-- Which message a text gets: its first line without the blanks around it or, for a blank line, the
    fallback. -/
def Heads (text message : String) : Prop :=
  ∃ line ending more lead core trail,
    FirstLine text.toList line ending more ∧ Framed line lead core trail ∧
      message = if line.all isBlank then "SQL parse error" else String.ofList core

theorem heads_headline (text : String) : Heads text (headline text) := by
  obtain ⟨line, ending, more, lead, core, trail, first, framed⟩ := exists_framed text.toList
  exact ⟨line, ending, more, lead, core, trail, first, framed, headline_of_framed first framed⟩

@[simp]
theorem message_ofMessage (text : String) : (ofMessage text).message = headline text := by
  rw [ofMessage, parseError, withPosition, of]

@[simp]
theorem line_ofMessage (text : String) : (ofMessage text).line = positionAfter? "line" text := by
  rw [ofMessage, parseError, withPosition]

@[simp]
theorem column_ofMessage (text : String) :
    (ofMessage text).column = positionAfter? "column" text := by
  rw [ofMessage, parseError, withPosition]

/-- Messages are a normal form of texts. A message by itself has the positions that its text has on the
    first line, and no others. -/
theorem ofMessage_normalForm (text : String) :
    let failure := ofMessage text
    let again := ofMessage failure.message
    Tidy failure.message ∧ Heads text failure.message ∧ again.message = failure.message ∧
      Carries "line".toList text.toList failure.line again.line ∧
      Carries "column".toList text.toList failure.column again.column := by
  simp only [message_ofMessage, line_ofMessage, column_ofMessage]
  have line := headline_carries "line" text (by decide) (by decide)
  have column := headline_carries "column" text (by decide) (by decide)
  have tidy := tidy_headline text
  exact ⟨tidy, heads_headline text, headline_of_tidy tidy, line, column⟩

theorem ofMessage_normalForm_twoLines :
    let text := "  found: line 7\r\nat Column: 12"
    let failure := ofMessage text
    let again := ofMessage failure.message
    OnFirstLine "line".toList text.toList ∧ ¬ OnFirstLine "column".toList text.toList ∧
      failure.message = "found: line 7" ∧ again.message = failure.message ∧
      failure.line = some 7 ∧ again.line = failure.line ∧
      failure.column = some 12 ∧ again.column = none := by
  intro text failure again
  obtain ⟨-, -, same, line, column⟩ := ofMessage_normalForm text
  have headed : Headed text.toList [' ', ' '] "found: line 7".toList
      "\r\nat Column: 12".toList :=
    ⟨by decide +kernel, by decide +kernel, by decide, by decide +kernel⟩
  have onFirst : OnFirstLine "line".toList text.toList :=
    (headed.onFirstLine_iff (by decide) (by decide)).mpr (by decide +kernel)
  have later : ¬ OnFirstLine "column".toList text.toList := by
    rw [headed.onFirstLine_iff (by decide) (by decide), not_not]
    decide +kernel
  exact ⟨onFirst, later, by decide +kernel, same, by decide +kernel, line.within onFirst,
    by decide +kernel, column.beyond later⟩

end JoinDiagram.Failure
