import JoinDiagram.Analysis.Check
import JoinDiagram.Proofs.Text.CharClass
import JoinDiagram.Proofs.Text.Trim
import Mathlib.Data.List.TakeWhile

namespace JoinDiagram

namespace Text

theorem length_le_utf8ByteSize (s : String) : s.length ≤ s.utf8ByteSize := by
  induction s using String.push_induction with
  | empty => simp
  | push s c ih =>
    have taken := c.utf8Size_pos
    rw [String.length_push, String.utf8ByteSize_push]
    omega

theorem utf8ByteSize_of_single {s : String} (single : ∀ c ∈ s.toList, c.utf8Size = 1) :
    s.utf8ByteSize = s.toList.length := by
  induction s using String.push_induction with
  | empty => simp
  | push s c ih =>
    rw [String.toList_push] at single ⊢
    rw [String.utf8ByteSize_push, ih fun d member => single d (by simp [member]),
      single c (by simp), List.length_append, List.length_singleton]

end Text

namespace Check

open Text (sameIgnoringCase asciiUpper)

theorem notEmpty_eq (sql : String) :
    notEmpty sql = if Text.isBlankText sql then some .emptyInput else none := by
  rw [notEmpty, Text.trim_isEmpty]

theorem length_eq (max : Nat) (sql : String) :
    length max sql = if max < sql.length then some (.tooLong sql.length max) else none := by
  have bytes := Text.length_le_utf8ByteSize sql
  rw [length]
  by_cases short : sql.utf8ByteSize ≤ max
  · have fits : ¬ max < sql.length := by omega
    rw [if_pos short, if_neg fits]
  · rw [if_neg short]

theorem firstBytes?_any {keyword : List Char} (single : ∀ c ∈ keyword, c.utf8Size = 1)
    (cs : List Char) :
    (firstBytes? keyword.length cs).any (fun head => sameIgnoringCase head keyword) =
      sameIgnoringCase (cs.take keyword.length) keyword := by
  induction keyword generalizing cs with
  | nil => cases cs <;> rfl
  | cons k rest ih =>
    have tail := ih fun c member => single c (List.mem_cons_of_mem _ member)
    cases cs with
    | nil => rfl
    | cons c cs =>
      rw [List.length_cons, List.take_succ_cons, firstBytes?]
      by_cases one : c.utf8Size = 1
      · have same : ∀ head, sameIgnoringCase (c :: head) (k :: rest) =
            (asciiUpper c == asciiUpper k && sameIgnoringCase head rest) := fun _ => rfl
        rw [if_pos (by omega), one, Nat.add_sub_cancel, same, ← tail]
        cases firstBytes? rest.length cs <;> simp [same]
      · have other : ∀ head, sameIgnoringCase (c :: head) (k :: rest) = false := by
          intro head
          have different : asciiUpper c ≠ asciiUpper k := by
            intro same
            apply one
            rw [← Text.asciiUpper_utf8Size, same, Text.asciiUpper_utf8Size, single k (by simp)]
          simp [sameIgnoringCase, different]
        rw [other]
        split
        · cases firstBytes? (rest.length + 1 - c.utf8Size) cs <;> simp [other]
        · rfl

theorem startsWith_eq {keyword : String} (single : ∀ c ∈ keyword.toList, c.utf8Size = 1)
    (cs : List Char) :
    startsWith keyword cs = sameIgnoringCase (cs.take keyword.length) keyword.toList := by
  rw [startsWith, Text.utf8ByteSize_of_single single, firstBytes?_any single, String.length_toList]

/-- Behind leading blanks the text goes on with one of the keywords, in any case. -/
def BeginsQuery (sql : String) : Prop :=
  sameIgnoringCase ((Text.trimStartChars sql.toList).take 6) ['S', 'E', 'L', 'E', 'C', 'T'] ∨
    sameIgnoringCase ((Text.trimStartChars sql.toList).take 4) ['W', 'I', 'T', 'H']

instance (sql : String) : Decidable (BeginsQuery sql) :=
  inferInstanceAs (Decidable (_ ∨ _))

theorem statementKind_eq (sql : String) :
    statementKind sql = if BeginsQuery sql then none else some .unsupportedStatement := by
  have single : ∀ keyword ∈ supportedKeywords, ∀ c ∈ keyword.toList, c.utf8Size = 1 := by
    have keywords : (supportedKeywords.all fun keyword =>
        keyword.toList.all fun c => c.utf8Size == 1) = true := by decide
    simpa only [List.all_eq_true, beq_iff_eq] using keywords
  have select := startsWith_eq (single "SELECT" (by simp [supportedKeywords]))
    (Text.trimStartChars sql.toList)
  have define := startsWith_eq (single "WITH" (by simp [supportedKeywords]))
    (Text.trimStartChars sql.toList)
  have same : supportedKeywords.any (startsWith · (Text.trimStartChars sql.toList)) =
      decide (BeginsQuery sql) := by
    simp only [supportedKeywords, List.any_cons, List.any_nil, Bool.or_false, select, define]
    rw [Bool.eq_iff_iff, Bool.or_eq_true, decide_eq_true_iff]
    rfl
  rw [statementKind, same]
  simp only [decide_eq_true_eq]

theorem firstFailure_standard (max : Nat) (sql : String) :
    firstFailure (standard max) sql =
      if Text.isBlankText sql then some .emptyInput
      else if max < sql.length then some (.tooLong sql.length max)
      else if BeginsQuery sql then none
      else some .unsupportedStatement := by
  simp only [firstFailure, standard, List.findSome?_cons, List.findSome?_nil, notEmpty_eq,
    length_eq, statementKind_eq]
  by_cases blank : Text.isBlankText sql = true
  · simp [blank]
  · by_cases long : max < sql.length
    · simp [blank, long]
    · by_cases query : BeginsQuery sql
      · simp [blank, long, query]
      · simp [blank, long, query]

end Check

end JoinDiagram
