import JoinDiagram.Text.CharClass
import Mathlib.Data.List.Basic
import Mathlib.Data.List.TakeWhile

namespace JoinDiagram.Text

-- Characters are a finite type: without this instance all of them would be searched.
instance (priority := high) decidableForallMem {p : Char → Prop} [DecidablePred p] (cs : List Char) :
    Decidable (∀ c ∈ cs, p c) := List.decidableBAll p cs

theorem sameIgnoringCase_length {s t : List Char} (same : sameIgnoringCase s t) :
    s.length = t.length := by
  have lengths := congrArg List.length (beq_iff_eq.mp same)
  rwa [List.length_map, List.length_map] at lengths

theorem sameIgnoringCase_take_append (before after : List Char) {keyword : List Char} {c : Char}
    (foreign : asciiUpper c ∉ keyword.map asciiUpper) :
    sameIgnoringCase ((before ++ c :: after).take keyword.length) keyword =
      sameIgnoringCase (before.take keyword.length) keyword := by
  by_cases long : keyword.length ≤ before.length
  · rw [List.take_append_of_le_length long]
  · have reached : sameIgnoringCase ((before ++ c :: after).take keyword.length) keyword =
        false := by
      rw [sameIgnoringCase, beq_eq_false_iff_ne]
      intro same
      apply foreign
      obtain ⟨n, more⟩ : ∃ n, keyword.length = before.length + (n + 1) :=
        ⟨keyword.length - before.length - 1, by omega⟩
      rw [← same, more, List.take_length_add_append, List.take_succ_cons, List.map_append,
        List.map_cons]
      exact List.mem_append_right _ List.mem_cons_self
    rw [reached, eq_comm, Bool.eq_false_iff]
    intro same
    have lengths := sameIgnoringCase_length same
    rw [List.length_take] at lengths
    omega

theorem inRanges_disjoint {xs ys : List (Nat × Nat)} {point : Nat}
    (apart : ∀ x ∈ xs, ∀ y ∈ ys, x.2 < y.1 ∨ y.2 < x.1) (inside : inRanges xs point) :
    inRanges ys point = false := by
  rw [inRanges, List.any_eq_true] at inside
  obtain ⟨x, listed, within⟩ := inside
  rw [inRanges, List.any_eq_false]
  intro y other
  have separate := apart x listed y other
  simp only [Bool.and_eq_true, decide_eq_true_eq] at within ⊢
  omega

theorem isAsciiDigit_eq (c : Char) : isAsciiDigit c = c.isDigit := by
  rw [isAsciiDigit, Char.isDigit, Bool.eq_iff_iff]
  simp [Char.le_def]

theorem isAsciiDigit_of_mem_toDigits {n : Nat} {c : Char} (member : c ∈ Nat.toDigits 10 n) :
    isAsciiDigit c := by
  rw [isAsciiDigit_eq]
  exact Nat.isDigit_of_mem_toDigits (by decide) (by decide) member

theorem head_toDigits {n : Nat} (positive : 0 < n) : (Nat.toDigits 10 n).head? ≠ some '0' := by
  induction n using Nat.strong_induction_on with
  | _ n ih =>
    by_cases small : n < 10
    · rw [Nat.toDigits_of_lt_base small, List.head?_cons]
      have each : ∀ m < 10, 0 < m → some m.digitChar ≠ some '0' := by decide
      exact each n small positive
    · have shorter := ih (n / 10) (by omega) (by omega)
      rw [Nat.toDigits_of_base_le (by decide) (by omega), List.head?_append_of_ne_nil]
      · exact shorter
      · exact Nat.toDigits_ne_nil

theorem isAsciiDigit_bounds {c : Char} (digit : isAsciiDigit c) : 48 ≤ c.toNat ∧ c.toNat ≤ 57 := by
  rw [isAsciiDigit, Bool.and_eq_true, decide_eq_true_eq, decide_eq_true_eq] at digit
  exact digit

theorem isDecimalDigit_of_isAsciiDigit {c : Char} (digit : isAsciiDigit c) : isDecimalDigit c := by
  have bounds := isAsciiDigit_bounds digit
  rw [isDecimalDigit, if_pos (by omega), digit]

theorem isAsciiLetter_bounds {c : Char} (letter : isAsciiLetter c) :
    65 ≤ c.toNat ∧ c.toNat ≤ 90 ∨ 97 ≤ c.toNat ∧ c.toNat ≤ 122 := by
  simp only [isAsciiLetter, Bool.or_eq_true, Bool.and_eq_true, decide_eq_true_eq] at letter
  exact letter.symm

theorem isBlank_of_visible {c : Char} (visible : 32 < c.toNat ∧ c.toNat < 127) :
    isBlank c = false := by
  simp only [isBlank, inRanges, List.any_cons, List.any_nil, Bool.or_false,
    Bool.or_eq_false_iff, Bool.and_eq_false_iff, decide_eq_false_iff_not]
  omega

theorem isBlank_of_isAsciiLetter {c : Char} (letter : isAsciiLetter c) : isBlank c = false := by
  have bounds := isAsciiLetter_bounds letter
  exact isBlank_of_visible (by omega)

theorem isBlank_of_isDecimalDigit {c : Char} (digit : isDecimalDigit c) : isBlank c = false := by
  rw [isDecimalDigit] at digit
  split at digit
  · have bounds := isAsciiDigit_bounds digit
    exact isBlank_of_visible (by omega)
  · exact inRanges_disjoint (by decide +kernel) digit

theorem isAsciiLetter_of_isBlank {c : Char} (blank : isBlank c) : isAsciiLetter c = false := by
  by_contra letter
  rw [isBlank_of_isAsciiLetter (by simpa using letter)] at blank
  cases blank

theorem isDecimalDigit_of_isBlank {c : Char} (blank : isBlank c) : isDecimalDigit c = false := by
  by_contra digit
  rw [isBlank_of_isDecimalDigit (by simpa using digit)] at blank
  cases blank

theorem isAsciiLetter_of_isAsciiDigit {c : Char} (digit : isAsciiDigit c) :
    isAsciiLetter c = false := by
  by_contra letter
  have bounds := isAsciiLetter_bounds (by simpa using letter)
  have range := isAsciiDigit_bounds digit
  omega

theorem isDecimalDigit_of_isAsciiLetter {c : Char} (letter : isAsciiLetter c) :
    isDecimalDigit c = false := by
  have bounds := isAsciiLetter_bounds letter
  rw [isDecimalDigit, if_pos (by omega), Bool.eq_false_iff]
  intro digit
  rw [isAsciiLetter_of_isAsciiDigit digit] at letter
  cases letter

theorem isWordChar_of_isBlank {c : Char} (blank : isBlank c) : isWordChar c = false := by
  have underscore : (c == '_') = false := by
    rw [beq_eq_false_iff_ne]
    rintro rfl
    exact absurd blank (by decide)
  rw [isWordChar, underscore, isAsciiLetter_of_isBlank blank, isDecimalDigit_of_isBlank blank,
    inRanges_disjoint (by decide +kernel) blank, inRanges_disjoint (by decide +kernel) blank]
  rfl

theorem asciiUpper_of_unlettered {c : Char} (unlettered : isAsciiLetter c = false) :
    asciiUpper c = c := by
  rw [isAsciiLetter, Bool.or_eq_false_iff] at unlettered
  rw [asciiUpper, unlettered.1]
  rfl

theorem asciiUpper_of_isBlank {c : Char} (blank : isBlank c) : asciiUpper c = c :=
  asciiUpper_of_unlettered (isAsciiLetter_of_isBlank blank)

theorem asciiUpper_of_isAsciiDigit {c : Char} (digit : isAsciiDigit c) : asciiUpper c = c :=
  asciiUpper_of_unlettered (isAsciiLetter_of_isAsciiDigit digit)

theorem lower_cases (p : Char → Prop) (each : ∀ n < 26, p (Char.ofNat (97 + n))) {c : Char}
    (lower : 'a' ≤ c ∧ c ≤ 'z') : p c := by
  have first : 97 ≤ c.toNat := lower.1
  have last : c.toNat ≤ 122 := lower.2
  have found := each (c.toNat - 97) (by omega)
  rwa [Nat.add_sub_cancel' first, Char.ofNat_toNat] at found

theorem isAsciiLetter_asciiUpper (c : Char) : isAsciiLetter (asciiUpper c) = isAsciiLetter c := by
  by_cases lower : 'a' ≤ c ∧ c ≤ 'z'
  · exact lower_cases (fun c => isAsciiLetter (asciiUpper c) = isAsciiLetter c) (by decide) lower
  · simp [asciiUpper, lower]

theorem asciiUpper_utf8Size (c : Char) : (asciiUpper c).utf8Size = c.utf8Size := by
  by_cases lower : 'a' ≤ c ∧ c ≤ 'z'
  · exact lower_cases (fun c => (asciiUpper c).utf8Size = c.utf8Size) (by decide) lower
  · simp [asciiUpper, lower]

theorem isAsciiLetter_of_sameIgnoringCase {s t : List Char} (same : sameIgnoringCase s t)
    (letters : ∀ k ∈ t, isAsciiLetter k) : ∀ c ∈ s, isAsciiLetter c := by
  intro c member
  have upper : asciiUpper c ∈ t.map asciiUpper :=
    beq_iff_eq.mp same ▸ List.mem_map_of_mem member
  obtain ⟨k, listed, cased⟩ := List.mem_map.mp upper
  rw [← isAsciiLetter_asciiUpper, ← cased, isAsciiLetter_asciiUpper]
  exact letters k listed

end JoinDiagram.Text
