import Mathlib.Data.List.Count
import Mathlib.Data.List.Sort
import Mathlib.Order.Lattice

/-! Stable sorting by a key. Elements of equal keys keep their order, so the last element of the
sorted list is the last one among those of the greatest key. -/
namespace KeyedSort
variable {α κ : Type*} [LinearOrder κ]

def sortBy (key : α → κ) (l : List α) : List α := l.insertionSort fun a b => key a ≤ key b

variable (key : α → κ) (l : List α)

theorem sortBy_perm : (sortBy key l).Perm l := List.perm_insertionSort _ l

theorem sortBy_pairwise : (sortBy key l).Pairwise fun a b => key a ≤ key b := by
  have htotal : Std.Total fun a b : α => key a ≤ key b := ⟨fun _ _ => le_total _ _⟩
  have htrans : IsTrans α fun a b : α => key a ≤ key b := ⟨fun _ _ _ => le_trans⟩
  exact List.pairwise_insertionSort _ l

variable {key l} in
/-- A list in order is sorted already. -/
theorem sortBy_eq_self (h : l.Pairwise fun a b => key a ≤ key b) : sortBy key l = l :=
  h.insertionSort_eq

variable {key l} in
/-- Where the keys differ, the sorted list is strictly ordered. -/
theorem sortBy_lt (h : (l.map key).Nodup) :
    (sortBy key l).Pairwise fun a b => key a < key b := by
  have hnodup : ((sortBy key l).map key).Nodup := ((sortBy_perm key l).map key).nodup_iff.mpr h
  exact (sortBy_pairwise key l).imp₂ (fun _ _ => lt_of_le_of_ne) (List.pairwise_map.mp hnodup)

/-- Sorting does not reorder the elements of one key. -/
theorem filter_sortBy (k : κ) :
    (sortBy key l).filter (fun a => key a = k) = l.filter fun a => key a = k := by
  have hequal : (l.filter fun a => key a = k).Pairwise fun a b => key a ≤ key b := by
    apply List.Pairwise.imp_of_mem (R := fun _ _ => True)
    · intro a b ha hb _
      have hka : key a = k := by simpa using (List.mem_filter.mp ha).2
      have hkb : key b = k := by simpa using (List.mem_filter.mp hb).2
      rw [hka, hkb]
    · exact List.pairwise_of_forall fun _ _ => trivial
  have hsub : (l.filter fun a => key a = k).Sublist (sortBy key l) :=
    List.sublist_insertionSort hequal List.filter_sublist
  have hfilter := hsub.filter fun a => key a = k
  rw [List.filter_filter] at hfilter
  simp only [Bool.and_self] at hfilter
  have hlength := ((sortBy_perm key l).filter fun a => key a = k).length_eq
  exact (hfilter.eq_of_length hlength.symm).symm

theorem getLast?_sortBy {a : α} (h : (sortBy key l).getLast? = some a) :
    (∀ b ∈ l, key b ≤ key a) ∧ (l.filter fun b => key b = key a).getLast? = some a := by
  obtain ⟨init, hinit⟩ := List.getLast?_eq_some_iff.mp h
  constructor
  · intro b hb
    have hmem : b ∈ init ++ [a] := by
      rw [← hinit]
      exact (sortBy_perm key l).mem_iff.mpr hb
    rcases List.mem_append.mp hmem with hb | hb
    · have hsorted := sortBy_pairwise key l
      rw [hinit] at hsorted
      exact (List.pairwise_append.mp hsorted).2.2 b hb a List.mem_cons_self
    · rw [List.mem_singleton.mp hb]
  · rw [← filter_sortBy, hinit, List.filter_append]
    simp

omit [LinearOrder κ] in
/-- Two lists with the same elements of each key, in the same order, are rearrangements. -/
theorem perm_of_filter_key [DecidableEq κ] {l l' : List α}
    (h : ∀ k, l.filter (fun a => key a = k) = l'.filter fun a => key a = k) : l.Perm l' := by
  classical
  rw [List.perm_iff_count]
  intro a
  have hkey : decide (key a = key a) = true := decide_eq_true rfl
  calc l.count a = (l.filter fun b => key b = key a).count a :=
        (List.count_filter (p := fun b => decide (key b = key a)) hkey).symm
    _ = (l'.filter fun b => key b = key a).count a := by rw [h]
    _ = l'.count a := List.count_filter (p := fun b => decide (key b = key a)) hkey

omit [LinearOrder κ] in
/-- Cutting a list into its groups keeps each group whole. -/
theorem filter_flatMap_groups [DecidableEq κ] {ks : List κ} (hks : ks.Nodup) (k : κ) :
    (ks.flatMap fun k' => l.filter fun a => key a = k').filter (fun a => key a = k) =
      if k ∈ ks then l.filter fun a => key a = k else [] := by
  induction ks with
  | nil => rfl
  | cons k' ks ih =>
    rw [List.nodup_cons] at hks
    rw [List.flatMap_cons, List.filter_append, ih hks.2, List.filter_filter]
    by_cases hk : k = k'
    · subst hk
      simp only [Bool.and_self, if_neg hks.1, List.append_nil, List.mem_cons, true_or, if_true]
    · have hnone : (l.filter fun a => decide (key a = k) && decide (key a = k')) = [] := by
        apply List.filter_eq_nil_iff.mpr
        intro a _ ha
        simp only [Bool.and_eq_true, decide_eq_true_eq] at ha
        exact hk (ha.1.symm.trans ha.2)
      rw [hnone, List.nil_append]
      simp only [List.mem_cons, hk, false_or]

end KeyedSort
