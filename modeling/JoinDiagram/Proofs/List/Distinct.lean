import Mathlib.Data.List.Nodup

namespace JoinDiagram

section Key

variable {α β : Type} [BEq β] (key : α → β)

/-- Of the members with one key only the first. -/
def firstPer (xs : List α) : List α := xs.eraseDupsBy fun x y => key x == key y

theorem firstPer_cons (x : α) (rest : List α) :
    firstPer key (x :: rest) = x :: firstPer key (rest.filter fun y => key y != key x) := by
  have other : (fun y => decide ((key y == key x) = false)) = fun y => key y != key x := by
    funext y
    cases same : key y == key x <;> simp [bne, same]
  rw [firstPer, List.eraseDupsBy_cons, other]
  rfl

theorem firstPer_subset (xs : List α) : firstPer key xs ⊆ xs := by
  match xs with
  | [] => simp [firstPer]
  | x :: rest =>
    have shorter := List.length_filter_le (fun y => key y != key x) rest
    have ih := firstPer_subset (rest.filter fun y => key y != key x)
    rw [firstPer_cons]
    exact List.cons_subset_cons x fun y member => List.mem_of_mem_filter (ih member)
termination_by xs.length
decreasing_by simp only [List.length_cons]; omega

variable [LawfulBEq β]

theorem mem_map_filter_ne (xs : List α) {k other : β} (different : k ≠ other) :
    k ∈ (xs.filter fun x => key x != other).map key ↔ k ∈ xs.map key := by
  simp only [List.mem_map, List.mem_filter, bne_iff_ne]
  constructor
  · rintro ⟨x, ⟨member, -⟩, equal⟩
    exact ⟨x, member, equal⟩
  · rintro ⟨x, member, equal⟩
    exact ⟨x, ⟨member, equal ▸ different⟩, equal⟩

theorem firstPer_filter (keep : β → Bool) (xs : List α) :
    firstPer key (xs.filter fun x => keep (key x)) =
      (firstPer key xs).filter fun x => keep (key x) := by
  match xs with
  | [] => rfl
  | x :: rest =>
    have shorter := List.length_filter_le (fun y => key y != key x) rest
    have ih := firstPer_filter keep (rest.filter fun y => key y != key x)
    have swap : (rest.filter fun y => keep (key y)).filter (fun y => key y != key x) =
        (rest.filter fun y => key y != key x).filter fun y => keep (key y) := by
      rw [List.filter_filter, List.filter_filter]
      exact List.filter_congr fun y _ => Bool.and_comm ..
    simp only [List.filter_cons, firstPer_cons]
    by_cases kept : keep (key x) = true
    · rw [if_pos kept, if_pos kept, firstPer_cons, swap, ih]
    · have other : ∀ y ∈ rest.filter fun y => keep (key y), (key y != key x) = true := by
        intro y member
        have keeps := (List.mem_filter.mp member).2
        simpa using fun same : key y = key x => kept (same ▸ keeps)
      rw [if_neg kept, if_neg kept, ← ih, ← swap, List.filter_eq_self.mpr other]
termination_by xs.length
decreasing_by simp only [List.length_cons]; omega

theorem firstPer_append (xs ys : List α) :
    firstPer key (xs ++ ys) =
      firstPer key xs ++ (firstPer key ys).filter fun y => !(xs.map key).contains (key y) := by
  match xs with
  | [] => simp [firstPer]
  | x :: rest =>
    have shorter := List.length_filter_le (fun y => key y != key x) rest
    have ih := firstPer_append (rest.filter fun y => key y != key x)
      (ys.filter fun y => key y != key x)
    have apart := firstPer_filter key (fun k => k != key x) ys
    have known : ∀ y, (!((x :: rest).map key).contains (key y)) =
        (!((rest.filter fun y => key y != key x).map key).contains (key y) &&
          (key y != key x)) := by
      intro y
      by_cases same : key y = key x
      · simp [same]
      · have listed := mem_map_filter_ne key rest same
        rw [Bool.eq_iff_iff]
        simp only [Bool.not_eq_true', Bool.and_eq_true, List.contains_iff_mem, Bool.eq_false_iff,
          ne_eq, listed, List.map_cons, List.mem_cons, bne_iff_ne]
        tauto
    rw [List.cons_append, firstPer_cons, firstPer_cons, List.filter_append, ih, apart,
      List.filter_filter, List.cons_append]
    simp only [known]
termination_by xs.length
decreasing_by simp only [List.length_cons]; omega

theorem firstPer_eq_self {xs : List α} (distinct : (xs.map key).Nodup) : firstPer key xs = xs := by
  induction xs with
  | nil => rfl
  | cons x rest ih =>
    rw [List.map_cons, List.nodup_cons] at distinct
    have others : ∀ y ∈ rest, (key y != key x) = true := by
      intro y member
      rw [bne_iff_ne]
      intro same
      exact distinct.1 (List.mem_map.mpr ⟨y, member, same⟩)
    rw [firstPer_cons, List.filter_eq_self.mpr others, ih distinct.2]

theorem mem_map_firstPer (xs : List α) (k : β) :
    k ∈ (firstPer key xs).map key ↔ k ∈ xs.map key := by
  match xs with
  | [] => rfl
  | x :: rest =>
    have shorter := List.length_filter_le (fun y => key y != key x) rest
    have ih := mem_map_firstPer (rest.filter fun y => key y != key x) k
    rw [firstPer_cons, List.map_cons, List.map_cons, List.mem_cons, List.mem_cons, ih]
    by_cases same : k = key x
    · simp [same]
    · rw [mem_map_filter_ne key rest same]
termination_by xs.length
decreasing_by simp only [List.length_cons]; omega

theorem firstPer_nodup (xs : List α) : ((firstPer key xs).map key).Nodup := by
  match xs with
  | [] => exact List.nodup_nil
  | x :: rest =>
    have shorter := List.length_filter_le (fun y => key y != key x) rest
    have ih := firstPer_nodup (rest.filter fun y => key y != key x)
    have apart : key x ∉ (firstPer key (rest.filter fun y => key y != key x)).map key := by
      rw [mem_map_firstPer]
      simp
    rw [firstPer_cons, List.map_cons]
    exact List.nodup_cons.mpr ⟨apart, ih⟩
termination_by xs.length
decreasing_by simp only [List.length_cons]; omega

theorem find_firstPer (xs : List α) (k : β) :
    (firstPer key xs).find? (fun x => key x == k) = xs.find? fun x => key x == k := by
  match xs with
  | [] => rfl
  | x :: rest =>
    have shorter := List.length_filter_le (fun y => key y != key x) rest
    have ih := find_firstPer (rest.filter fun y => key y != key x) k
    rw [firstPer_cons]
    by_cases found : key x = k
    · rw [List.find?_cons_of_pos (by simpa using found),
        List.find?_cons_of_pos (by simpa using found)]
    · have other : ∀ y, decide ((key y != key x) = true ∧ (key y == k) = true) = (key y == k) := by
        intro y
        by_cases here : key y = k
        · simp [here, Ne.symm found]
        · simp [here]
      rw [List.find?_cons_of_neg (by simpa using found),
        List.find?_cons_of_neg (by simpa using found), ih, List.find?_filter]
      simp only [other]
termination_by xs.length
decreasing_by simp only [List.length_cons]; omega

theorem firstPer_append_known {xs ys : List α} (known : ∀ y ∈ ys, key y ∈ xs.map key)
    (zs : List α) : firstPer key (xs ++ (ys ++ zs)) = firstPer key (xs ++ zs) := by
  have passed : ys.filter (fun y => !(xs.map key).contains (key y)) = [] := by
    rw [List.filter_eq_nil_iff]
    intro y member
    simpa using known y member
  have unseen := firstPer_filter key fun k => !(xs.map key).contains k
  rw [firstPer_append key xs (ys ++ zs), firstPer_append key xs zs, ← unseen, ← unseen,
    List.filter_append, passed, List.nil_append]

end Key

end JoinDiagram
