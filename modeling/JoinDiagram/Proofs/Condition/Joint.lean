import JoinDiagram.Proofs.Condition.References

namespace JoinDiagram.Condition

/-- A text that keeps the words before it apart from the words behind it and names no relation. -/
structure Joint (text : String) : Prop where
  opens : text.toList.head?.any isSeparator
  closes : text.toList.getLast?.any isSeparator
  nameless : references text = []

instance : DecidablePred Joint := fun text =>
  decidable_of_iff (text.toList.head?.any isSeparator ∧ text.toList.getLast?.any isSeparator ∧
      references text = [])
    ⟨fun ⟨opens, closes, nameless⟩ => ⟨opens, closes, nameless⟩,
      fun joint => ⟨joint.opens, joint.closes, joint.nameless⟩⟩

theorem inferSource_eq_named (condition target default : String) :
    inferSource condition target default =
      ((namedIn condition.toList).find? (· != target)).getD default := by
  rw [inferSource, references_eq_namedIn, find_eraseDups]

theorem inferSource_of_named {condition target : String}
    (named : ∃ reference ∈ references condition, reference ≠ target) (default other : String) :
    inferSource condition target default = inferSource condition target other := by
  obtain ⟨reference, member, different⟩ := named
  have found : ((references condition).find? (· != target)).isSome := by
    rw [List.find?_isSome]
    exact ⟨reference, member, by simpa using different⟩
  obtain ⟨source, first⟩ := Option.isSome_iff_exists.mp found
  rw [inferSource, inferSource, first, Option.getD_some, Option.getD_some]

namespace Joint

variable {joint : String}

theorem beginsApart (h : Joint joint) (after : List Char) :
    BeginsApart (joint.toList ++ after) := by
  obtain ⟨c, first, separator⟩ := (Option.any_eq_true _ _).mp h.opens
  obtain ⟨rest, spelled⟩ := List.head?_eq_some_iff.mp first
  exact .inr ⟨c, rest ++ after, by rw [spelled, List.cons_append], separator⟩

theorem endsApart (h : Joint joint) : EndsApart joint.toList := by
  obtain ⟨c, last, separator⟩ := (Option.any_eq_true _ _).mp h.closes
  obtain ⟨start, spelled⟩ := List.getLast?_eq_some_iff.mp last
  exact .inr ⟨start, c, spelled, separator⟩

theorem namedIn_eq_nil (h : Joint joint) : namedIn joint.toList = [] := by
  have nameless := h.nameless
  rw [references_eq_namedIn] at nameless
  rw [List.eq_nil_iff_forall_not_mem]
  intro name named
  rw [← List.mem_eraseDups, nameless] at named
  cases named

theorem namedIn_joined (h : Joint joint) (before after : String) :
    namedIn (before ++ joint ++ after).toList = namedIn before.toList ++ namedIn after.toList := by
  rw [String.toList_append, String.toList_append, List.append_assoc,
    namedIn_append_begins (h.beginsApart _), namedIn_append_ends h.endsApart, h.namedIn_eq_nil,
    List.nil_append]

end Joint

/-- Two conditions with a joint between them name the relations of the first and then those of the
    second. A join starts where the first condition says; the second counts only if the first names
    no other relation than the joined one, and which joint stands between them never counts. -/
theorem inferSource_joined {joint : String} (h : Joint joint) (before after : String) :
    references (before ++ joint ++ after) = (references before ++ references after).eraseDups ∧
    (∀ target default, inferSource (before ++ joint ++ after) target default =
      inferSource before target (inferSource after target default)) ∧
    (∀ target default, (∃ reference ∈ references before, reference ≠ target) →
      inferSource (before ++ joint ++ after) target default = inferSource before target default) ∧
    ∀ other, Joint other →
      references (before ++ other ++ after) = references (before ++ joint ++ after) ∧
      ∀ target default, inferSource (before ++ other ++ after) target default =
        inferSource (before ++ joint ++ after) target default := by
  have named : ∀ other, Joint other → references (before ++ other ++ after) =
      (references before ++ references after).eraseDups := by
    intro other isJoint
    simp only [references_eq_namedIn, isJoint.namedIn_joined, eraseDups_append_eraseDups]
  have composed : ∀ other, Joint other → ∀ target default,
      inferSource (before ++ other ++ after) target default =
        inferSource before target (inferSource after target default) := by
    intro other isJoint target default
    simp only [inferSource_eq_named, isJoint.namedIn_joined, List.find?_append]
    cases (namedIn before.toList).find? (· != target) with
    | some reference => rfl
    | none => rfl
  refine ⟨named joint h, composed joint h, ?_, ?_⟩
  · intro target default other
    rw [composed joint h]
    exact inferSource_of_named other _ default
  · intro other isJoint
    refine ⟨by rw [named other isJoint, named joint h], ?_⟩
    intro target default
    rw [composed other isJoint, composed joint h]

theorem inferSource_joined_limits :
    Joint ") < 1.5 OR (" ∧ Joint "=" ∧
      references "lower(b.x) < 1.5 OR (c.y) > b.z" = ["b", "c"] ∧
      inferSource "lower(b.x) < 1.5 OR (c.y) > b.z" "b" "a" = "c" ∧
      inferSource "lower(b.x) < 1.5 OR (c.y) > b.z" "c" "a" = "b" ∧
      references "lower(b.x=c.y) > b.z" = ["b", "c"] := by
  have limits : Joint ") < 1.5 OR (" := by decide +kernel
  have equals : Joint "=" := by decide +kernel
  have spelled : "lower(b.x" ++ ") < 1.5 OR (" ++ "c.y) > b.z" =
      "lower(b.x) < 1.5 OR (c.y) > b.z" := by decide
  have exchanged : "lower(b.x" ++ "=" ++ "c.y) > b.z" = "lower(b.x=c.y) > b.z" := by decide
  obtain ⟨names, source, kept, others⟩ := inferSource_joined limits "lower(b.x" "c.y) > b.z"
  have same := (others "=" equals).1
  rw [spelled] at names source kept same
  rw [exchanged] at same
  have distinct : (references "lower(b.x" ++ references "c.y) > b.z").eraseDups = ["b", "c"] := by
    decide +kernel
  refine ⟨limits, equals, names.trans distinct, ?_, ?_, same.trans (names.trans distinct)⟩
  · rw [source]
    decide +kernel
  · rw [kept "c" "a" ⟨"b", by decide +kernel, by decide⟩]
    decide +kernel

end JoinDiagram.Condition
