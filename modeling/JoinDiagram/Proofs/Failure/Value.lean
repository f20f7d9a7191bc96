import JoinDiagram.Proofs.Failure.Scan
import Mathlib.Data.List.Induction
import Mathlib.Data.Nat.Digits.Defs

namespace JoinDiagram.Failure

open Text (isAsciiDigit)

def digitValue (c : Char) : Nat := c.toNat - '0'.toNat

def decimalValue (digits : List Char) : Nat := Nat.ofDigits 10 (digits.reverse.map digitValue)

theorem decimalValue_concat (digits : List Char) (d : Char) :
    decimalValue (digits ++ [d]) = decimalValue digits * 10 + digitValue d := by
  rw [decimalValue, List.reverse_concat, List.map_cons, Nat.ofDigits_cons, decimalValue]
  omega

theorem decimalValue_toDigits (n : Nat) : decimalValue (Nat.toDigits 10 n) = n := by
  have fold : ∀ digits : List Char, decimalValue digits = Nat.ofDigitChars 10 digits 0 := by
    intro digits
    induction digits using List.reverseRecOn with
    | nil => rfl
    | append_singleton digits d ih =>
      rw [decimalValue_concat, ih, Nat.ofDigitChars_append, Nat.ofDigitChars_cons,
        Nat.ofDigitChars_nil, Nat.mul_comm]
      rfl
  rw [fold, Nat.ofDigitChars_ten_toDigits]

theorem pushDigit?_eq_some_iff {n next : Nat} {d : Char} :
    pushDigit? n d = some next ↔
      isAsciiDigit d ∧ n * 10 + digitValue d = next ∧ next < UInt32.size := by
  rw [pushDigit?, digitValue]
  split
  · rename_i ascii
    simp only [ascii, true_and]
    split
    · rename_i fits
      constructor
      · rintro ⟨⟩
        exact ⟨rfl, fits⟩
      · rintro ⟨rfl, -⟩
        rfl
    · rename_i outgrown
      constructor
      · rintro ⟨⟩
      · rintro ⟨rfl, fits⟩
        exact absurd fits outgrown
  · rename_i foreign
    constructor
    · rintro ⟨⟩
    · rintro ⟨ascii, -⟩
      exact absurd ascii foreign

/-- Digits are read one by one and the bound is checked at each. A number below the bound has all its
    leading parts below it, so this reads exactly the numbers below the bound. -/
theorem positionValue?_eq_some_iff {digits : List Char} {n : Nat} :
    positionValue? digits = some n ↔
      (∀ d ∈ digits, isAsciiDigit d) ∧ decimalValue digits = n ∧ n < UInt32.size := by
  induction digits using List.reverseRecOn generalizing n with
  | nil =>
    constructor
    · rintro ⟨⟩
      exact ⟨List.forall_mem_nil _, rfl, by decide⟩
    · rintro ⟨-, rfl, -⟩
      rfl
  | append_singleton digits d ih =>
    have last : positionValue? (digits ++ [d]) =
        (positionValue? digits).bind fun n => pushDigit? n d := by
      rw [positionValue?, List.foldlM_append]
      simp only [List.foldlM_cons, List.foldlM_nil, bind_pure]
      rfl
    rw [last, Option.bind_eq_some_iff, decimalValue_concat]
    constructor
    · rintro ⟨start, read, pushed⟩
      obtain ⟨leading, rfl, -⟩ := ih.mp read
      obtain ⟨ascii, value, fits⟩ := pushDigit?_eq_some_iff.mp pushed
      refine ⟨?_, value, fits⟩
      intro c member
      rcases List.mem_append.mp member with early | final
      · exact leading c early
      · exact List.mem_singleton.mp final ▸ ascii
    · rintro ⟨ascii, rfl, fits⟩
      have read : positionValue? digits = some (decimalValue digits) :=
        ih.mpr ⟨fun c member => ascii c (List.mem_append_left _ member), rfl, by omega⟩
      have own : isAsciiDigit d := ascii d (List.mem_append_right _ List.mem_cons_self)
      exact ⟨_, read, pushDigit?_eq_some_iff.mpr ⟨own, rfl, fits⟩⟩

theorem positionValue?_eq_none_iff {digits : List Char} :
    positionValue? digits = none ↔
      (∃ d ∈ digits, isAsciiDigit d = false) ∨ UInt32.size ≤ decimalValue digits := by
  rw [Option.eq_none_iff_forall_ne_some]
  simp only [ne_eq, positionValue?_eq_some_iff]
  constructor
  · intro none
    by_contra readable
    push Not at readable
    obtain ⟨ascii, fits⟩ := readable
    refine none (decimalValue digits) ⟨?_, rfl, fits⟩
    intro d member
    simpa using ascii d member
  · rintro (⟨d, member, foreign⟩ | large) n ⟨ascii, value, fits⟩
    · have own := ascii d member
      rw [foreign] at own
      cases own
    · omega

def Candidate (keyword text : List Char) (place : Nat) (digits : List Char) : Prop :=
  place ≤ text.length ∧ OpensWord none (text.take place) ∧ Numbered keyword (text.drop place) digits

def Leftmost (keyword text : List Char) (place : Nat) (digits : List Char) : Prop :=
  Candidate keyword text place digits ∧
    ∀ earlier number, Candidate keyword text earlier number → place ≤ earlier

theorem firstNumber_iff_leftmost {keyword text digits : List Char} :
    FirstNumber keyword none text digits ↔ ∃ place, Leftmost keyword text place digits := by
  constructor
  · rintro ⟨before, rest, rfl, opens, numbered, first⟩
    refine ⟨before.length, ⟨by simp, by rwa [List.take_left], by rwa [List.drop_left]⟩, ?_⟩
    rintro earlier number ⟨inside, opened, found⟩
    have shorter := first _ _ number (List.take_append_drop earlier _).symm opened found
    rwa [List.length_take, Nat.min_eq_left inside] at shorter
  · rintro ⟨place, ⟨inside, opens, numbered⟩, first⟩
    refine ⟨text.take place, text.drop place, (List.take_append_drop ..).symm, opens, numbered, ?_⟩
    rintro earlier later number rfl opened found
    rw [List.length_take, Nat.min_eq_left inside]
    exact first earlier.length number
      ⟨by simp, by rwa [List.take_left], by rwa [List.drop_left]⟩

theorem Candidate.exists_leftmost {keyword text digits : List Char} {place : Nat}
    (h : Candidate keyword text place digits) :
    ∃ first number, first ≤ place ∧ Leftmost keyword text first number := by
  induction place using Nat.strong_induction_on generalizing digits with
  | _ place ih =>
    by_cases least : ∀ earlier number, Candidate keyword text earlier number → place ≤ earlier
    · exact ⟨place, digits, Nat.le_refl place, h, least⟩
    · push Not at least
      obtain ⟨earlier, number, candidate, before⟩ := least
      obtain ⟨first, number, early, leftmost⟩ := ih earlier before candidate
      exact ⟨first, number, by omega, leftmost⟩

/-- The position is the number at the leftmost place where the keyword has one. If that number cannot
    be a position there is none, whatever follows later in the text. -/
structure Reads (keyword text : String) (position : Option Nat) : Prop where
  found : ∀ n, position = some n ↔
    ∃ place digits, Leftmost keyword.toList text.toList place digits ∧
      (∀ d ∈ digits, isAsciiDigit d) ∧ decimalValue digits = n ∧ n < UInt32.size
  missing : position = none ↔
    ∀ place digits, Leftmost keyword.toList text.toList place digits →
      (∃ d ∈ digits, isAsciiDigit d = false) ∨ UInt32.size ≤ decimalValue digits
  least : ∀ place digits, Candidate keyword.toList text.toList place digits →
    ∃ first number, first ≤ place ∧ Leftmost keyword.toList text.toList first number

theorem positionAfter?_reads (keyword text : String) :
    Reads keyword text (positionAfter? keyword text) where
  found n := by
    simp only [positionAfter?, Option.bind_eq_some_iff, scanDigits_eq_some_iff,
      positionValue?_eq_some_iff, firstNumber_iff_leftmost]
    constructor
    · rintro ⟨digits, ⟨place, leftmost⟩, value⟩
      exact ⟨place, digits, leftmost, value⟩
    · rintro ⟨place, digits, leftmost, value⟩
      exact ⟨digits, ⟨place, leftmost⟩, value⟩
  missing := by
    simp only [positionAfter?, Option.bind_eq_none_iff, scanDigits_eq_some_iff,
      positionValue?_eq_none_iff, firstNumber_iff_leftmost]
    constructor
    · exact fun unread place digits leftmost => unread digits ⟨place, leftmost⟩
    · exact fun unread digits ⟨place, leftmost⟩ => unread place digits leftmost
  least _ _ candidate := candidate.exists_leftmost

theorem ofMessage_leftmost (message : String) :
    Reads "line" message (ofMessage message).line ∧
      Reads "column" message (ofMessage message).column :=
  ⟨positionAfter?_reads "line" message, positionAfter?_reads "column" message⟩

example :
    let failure := ofMessage "outline 3 LINE: 07 column 4294967296 column 2"
    failure.line = some 7 ∧ failure.column = none := by decide +kernel

end JoinDiagram.Failure
