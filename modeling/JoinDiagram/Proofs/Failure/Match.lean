import JoinDiagram.Proofs.Failure.Value

namespace JoinDiagram.Failure

open Text (isAsciiLetter isBlank isDecimalDigit sameIgnoringCase)

def Matched (keyword found digits after : List Char) : Prop :=
  ∃ word colon blanks, found = word ++ (colon ++ (blanks ++ digits)) ∧
    sameIgnoringCase word keyword ∧
      Counted (colon ++ (blanks ++ (digits ++ after))) colon blanks digits after

theorem numbered_iff_matched {keyword text digits : List Char} :
    Numbered keyword text digits ↔
      ∃ found after, text = found ++ after ∧ Matched keyword found digits after := by
  constructor
  · rintro ⟨word, tail, colon, blanks, rest, rfl, spelled, counted⟩
    have split := counted.spelled
    subst split
    exact ⟨_, rest, by simp, word, colon, blanks, rfl, spelled, counted⟩
  · rintro ⟨found, after, rfl, word, colon, blanks, rfl, spelled, counted⟩
    exact ⟨word, _, colon, blanks, after, by simp, spelled, counted⟩

theorem Matched.of_stops {keyword found digits after other : List Char}
    (h : Matched keyword found digits after) (stops : ∀ c ∈ other.head?, isDecimalDigit c = false) :
    Matched keyword found digits other := by
  obtain ⟨word, colon, blanks, rfl, spelled, counted⟩ := h
  exact ⟨word, colon, blanks, rfl, spelled, { counted with spelled := rfl, stops }⟩

theorem Matched.stops {keyword found digits after : List Char}
    (h : Matched keyword found digits after) : ∀ c ∈ after.head?, isDecimalDigit c = false := by
  obtain ⟨word, colon, blanks, -, -, counted⟩ := h
  exact counted.stops

theorem Matched.exists_digit {keyword found digits after : List Char}
    (h : Matched keyword found digits after) : ∃ d ∈ found, isDecimalDigit d := by
  obtain ⟨word, colon, blanks, rfl, -, counted⟩ := h
  obtain ⟨d, listed⟩ := List.exists_mem_of_ne_nil digits counted.filled
  exact ⟨d, by simp [listed], counted.digit d listed⟩

theorem Matched.append {keyword found digits after tail : List Char}
    (h : Matched keyword found digits after) (broken : ∀ c ∈ tail.head?, isBlank c) :
    Matched keyword found digits (after ++ tail) := by
  refine h.of_stops ?_
  intro c first
  cases after with
  | nil => exact Text.isDecimalDigit_of_isBlank (broken c first)
  | cons d more => exact h.stops c first

theorem Matched.of_append {keyword found digits after tail : List Char}
    (h : Matched keyword found digits (after ++ tail)) : Matched keyword found digits after := by
  refine h.of_stops ?_
  intro c first
  rw [Option.mem_def] at first
  exact h.stops c (by simp [first])

theorem Numbered.append {keyword cs tail digits : List Char} (h : Numbered keyword cs digits)
    (broken : ∀ c ∈ tail.head?, isBlank c) : Numbered keyword (cs ++ tail) digits := by
  obtain ⟨found, after, rfl, matched⟩ := numbered_iff_matched.mp h
  exact numbered_iff_matched.mpr ⟨found, _, List.append_assoc .., matched.append broken⟩

theorem Candidate.exists_digit {keyword text digits : List Char} {place : Nat}
    (h : Candidate keyword text place digits) : ∃ d ∈ text.drop place, isDecimalDigit d := by
  obtain ⟨found, after, rest, matched⟩ := numbered_iff_matched.mp h.2.2
  obtain ⟨d, member, digit⟩ := matched.exists_digit
  exact ⟨d, by simp [rest, member], digit⟩

theorem Candidate.append {keyword cs tail digits : List Char} {place : Nat}
    (h : Candidate keyword cs place digits) (broken : ∀ c ∈ tail.head?, isBlank c) :
    Candidate keyword (cs ++ tail) place digits := by
  obtain ⟨inside, opens, numbered⟩ := h
  refine ⟨?_, ?_, ?_⟩
  · rw [List.length_append]
    omega
  · rwa [List.take_append_of_le_length inside]
  · rw [List.drop_append_of_le_length inside]
    exact numbered.append broken

structure FirstMatch (keyword text before found after digits : List Char) : Prop where
  spelled : text = before ++ (found ++ after)
  matched : Matched keyword found digits after
  leftmost : Leftmost keyword text before.length digits

theorem scanDigits_eq_some_iff_firstMatch {keyword text digits : List Char} :
    scanDigits keyword none text = some digits ↔
      ∃ before found after, FirstMatch keyword text before found after digits := by
  rw [scanDigits_eq_some_iff, firstNumber_iff_leftmost]
  constructor
  · rintro ⟨place, leftmost⟩
    obtain ⟨inside, -, numbered⟩ := leftmost.1
    obtain ⟨found, after, rest, matched⟩ := numbered_iff_matched.mp numbered
    have spelled : text = text.take place ++ (found ++ after) := by
      rw [← rest, List.take_append_drop]
    refine ⟨text.take place, found, after, spelled, matched, ?_⟩
    rwa [List.length_take, Nat.min_eq_left inside]
  · rintro ⟨before, found, after, first⟩
    exact ⟨before.length, first.leftmost⟩

theorem scanDigits_of_undigit {keyword text : List Char}
    (undigit : ∀ c ∈ text, isDecimalDigit c = false) : scanDigits keyword none text = none := by
  cases scan : scanDigits keyword none text with
  | none => rfl
  | some digits =>
    obtain ⟨before, found, after, rfl, matched, -⟩ := scanDigits_eq_some_iff_firstMatch.mp scan
    obtain ⟨d, member, digit⟩ := matched.exists_digit
    rw [undigit d (by simp [member])] at digit
    cases digit

theorem opensWord_prepend {lead : List Char} (blank : ∀ c ∈ lead, isBlank c) (before : List Char) :
    OpensWord none (lead ++ before) ↔ OpensWord none before := by
  rw [OpensWord, OpensWord, List.getLast?_append]
  cases before.getLast? with
  | some c => rfl
  | none =>
    rw [Option.none_or, Option.or_none, Option.or_none]
    cases last : lead.getLast? with
    | none => rfl
    | some c =>
      have unworded := Text.isWordChar_of_isBlank (blank c (List.mem_of_getLast? last))
      simp [unworded]

section Keyword

variable {keyword : List Char} (letters : ∀ k ∈ keyword, isAsciiLetter k)
include letters

theorem Matched.undigit {before after rest digits : List Char} {b : Char} (blank : isBlank b)
    (h : Matched keyword (before ++ b :: after) digits rest) :
    ∀ c ∈ before, isDecimalDigit c = false := by
  obtain ⟨word, colon, blanks, split, spelled, counted⟩ := h
  have undigit : ∀ c ∈ word ++ (colon ++ blanks), isDecimalDigit c = false := by
    intro c member
    rcases List.mem_append.mp member with letter | member
    · exact Text.isDecimalDigit_of_isAsciiLetter
        (Text.isAsciiLetter_of_sameIgnoringCase spelled letters c letter)
    rcases List.mem_append.mp member with sign | space
    · rcases counted.colon with rfl | rfl
      · cases sign
      · rw [List.mem_singleton.mp sign]
        decide
    · exact Text.isDecimalDigit_of_isBlank (counted.blank c space)
  -- The blank is none of the digits, so it stands in front of them and all before it does.
  have regrouped : before ++ b :: after = (word ++ (colon ++ blanks)) ++ digits := by simp [split]
  rcases List.append_eq_append_iff.mp regrouped with ⟨more, front, -⟩ | ⟨more, -, number⟩
  · intro c member
    exact undigit c (front ▸ List.mem_append_left more member)
  · have digit := counted.digit b (by simp [number])
    rw [Text.isDecimalDigit_of_isBlank blank] at digit
    cases digit

theorem Numbered.of_append {cs tail digits : List Char} (broken : ∀ c ∈ tail.head?, isBlank c)
    (h : Numbered keyword (cs ++ tail) digits) {d : Char} (member : d ∈ cs)
    (digit : isDecimalDigit d) : Numbered keyword cs digits := by
  obtain ⟨found, after, split, matched⟩ := numbered_iff_matched.mp h
  rcases List.append_eq_append_iff.mp split with ⟨more, rfl, rest⟩ | ⟨more, rfl, rfl⟩
  · cases more with
    | nil =>
      rw [List.append_nil] at matched
      exact numbered_iff_matched.mpr ⟨cs, [], (List.append_nil cs).symm, matched.of_stops (by simp)⟩
    | cons b more =>
      have blank := broken b (by simp [rest])
      rw [matched.undigit letters blank d member] at digit
      cases digit
  · exact numbered_iff_matched.mpr ⟨found, more, rfl, matched.of_append⟩

theorem Numbered.not_blank {cs digits : List Char} {b : Char} (filled : keyword ≠ [])
    (h : Numbered keyword (b :: cs) digits) : isBlank b = false := by
  obtain ⟨word, tail, colon, blanks, rest, split, spelled, -⟩ := h
  cases word with
  | nil =>
    have lengths := Text.sameIgnoringCase_length spelled
    exact absurd (List.length_eq_zero_iff.mp lengths.symm) filled
  | cons c word =>
    obtain ⟨rfl, -⟩ := List.cons.inj split
    exact Text.isBlank_of_isAsciiLetter
      (Text.isAsciiLetter_of_sameIgnoringCase spelled letters b List.mem_cons_self)

theorem Candidate.of_append {cs tail digits : List Char} {place : Nat}
    (broken : ∀ c ∈ tail.head?, isBlank c) (h : Candidate keyword (cs ++ tail) place digits)
    {d : Char} (member : d ∈ cs.drop place) (digit : isDecimalDigit d) :
    Candidate keyword cs place digits := by
  obtain ⟨-, opens, numbered⟩ := h
  have inside : place ≤ cs.length := by
    by_contra outside
    rw [List.drop_eq_nil_of_le (by omega)] at member
    cases member
  rw [List.take_append_of_le_length inside] at opens
  rw [List.drop_append_of_le_length inside] at numbered
  exact ⟨inside, opens, numbered.of_append letters broken member digit⟩

theorem Leftmost.append {cs tail digits : List Char} {place : Nat}
    (broken : ∀ c ∈ tail.head?, isBlank c) (h : Leftmost keyword cs place digits) :
    Leftmost keyword (cs ++ tail) place digits := by
  refine ⟨h.1.append broken, ?_⟩
  intro earlier number candidate
  by_contra before
  -- An earlier match is one of the first text, too, as it cannot run over the digits at `place`.
  obtain ⟨d, member, digit⟩ := h.1.exists_digit
  have later : d ∈ cs.drop earlier :=
    (List.drop_sublist_drop_left cs (Nat.le_of_not_le before)).subset member
  exact before (h.2 earlier number (candidate.of_append letters broken later digit))

theorem Candidate.length_le {lead cs digits : List Char} {place : Nat} (filled : keyword ≠ [])
    (blank : ∀ c ∈ lead, isBlank c) (h : Candidate keyword (lead ++ cs) place digits) :
    lead.length ≤ place := by
  by_contra before
  have within : place < lead.length := Nat.lt_of_not_le before
  have split : (lead ++ cs).drop place = lead[place] :: (lead.drop (place + 1) ++ cs) := by
    rw [List.drop_append_of_le_length (Nat.le_of_lt within), List.drop_eq_getElem_cons within,
      List.cons_append]
  have unblank := (split ▸ h.2.2).not_blank letters filled
  rw [blank _ (List.getElem_mem within)] at unblank
  cases unblank

theorem candidate_prepend {lead cs digits : List Char} {place : Nat} (filled : keyword ≠ [])
    (blank : ∀ c ∈ lead, isBlank c) :
    Candidate keyword (lead ++ cs) place digits ↔
      ∃ inner, place = lead.length + inner ∧ Candidate keyword cs inner digits := by
  constructor
  · intro candidate
    obtain ⟨inner, rfl⟩ := Nat.exists_eq_add_of_le (candidate.length_le letters filled blank)
    obtain ⟨inside, opens, numbered⟩ := candidate
    rw [List.take_length_add_append, opensWord_prepend blank] at opens
    rw [List.drop_length_add_append] at numbered
    rw [List.length_append] at inside
    exact ⟨inner, rfl, by omega, opens, numbered⟩
  · rintro ⟨inner, rfl, inside, opens, numbered⟩
    refine ⟨?_, ?_, ?_⟩
    · rw [List.length_append]
      omega
    · rwa [List.take_length_add_append, opensWord_prepend blank]
    · rwa [List.drop_length_add_append]

theorem Leftmost.prepend {lead cs digits : List Char} {place : Nat} (filled : keyword ≠ [])
    (blank : ∀ c ∈ lead, isBlank c) (h : Leftmost keyword cs place digits) :
    Leftmost keyword (lead ++ cs) (lead.length + place) digits := by
  refine ⟨(candidate_prepend letters filled blank).mpr ⟨place, rfl, h.1⟩, ?_⟩
  intro earlier number candidate
  obtain ⟨inner, rfl, found⟩ := (candidate_prepend letters filled blank).mp candidate
  exact Nat.add_le_add_left (h.2 inner number found) lead.length

theorem FirstMatch.within {lead cs tail before found after digits : List Char}
    (filled : keyword ≠ []) (blank : ∀ c ∈ lead, isBlank c) (broken : ∀ c ∈ tail.head?, isBlank c)
    (h : FirstMatch keyword cs before found after digits) :
    FirstMatch keyword (lead ++ (cs ++ tail)) (lead ++ before) found (after ++ tail) digits where
  spelled := by simp [h.spelled]
  matched := h.matched.append broken
  leftmost := by
    rw [List.length_append]
    exact (h.leftmost.append letters broken).prepend letters filled blank

end Keyword

end JoinDiagram.Failure
