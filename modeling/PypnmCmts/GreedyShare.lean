import Mathlib.Algebra.BigOperators.Group.List.Basic
import Mathlib.Algebra.Order.BigOperators.Group.Finset
import Mathlib.Algebra.GroupWithZero.Nat
import Mathlib.Data.Finset.Card
import Mathlib.Data.Finset.Union

/-! Agents that in turn take free items of a finite stock, each in an order of its own and
up to a capacity of its own. -/
namespace GreedyShare

variable {ω α : Type*} [DecidableEq ω] [DecidableEq α]

/-- The items of `base` that `o` owns. -/
def share (base : Finset α) (owned : α → Option ω) (o : ω) : Finset α :=
  base.filter fun x => owned x = some o

def free (base : Finset α) (owned : α → Option ω) : Finset α :=
  base.filter fun x => owned x = none

variable (base : Finset α) (prefs : ω → List α) (cap : ω → ℕ)

/-- The items that `o` takes when its turn comes. -/
def taken (owned : α → Option ω) (o : ω) : List α :=
  ((prefs o).filter fun x => owned x = none).take (cap o-(share base owned o).card)

def turn (owned : α → Option ω) (o : ω) : α → Option ω := fun x =>
  if x ∈ taken base prefs cap owned o then some o else owned x

def turns (owned : α → Option ω) (os : List ω) : α → Option ω :=
  os.foldl (turn base prefs cap) owned

variable {base prefs cap} {owned : α → Option ω} {o o' : ω}

omit [DecidableEq α] in
@[simp] theorem mem_share {x : α} : x ∈ share base owned o ↔ x ∈ base ∧ owned x = some o :=
  Finset.mem_filter

omit [DecidableEq α] [DecidableEq ω] in
@[simp] theorem mem_free {x : α} : x ∈ free base owned ↔ x ∈ base ∧ owned x = none :=
  Finset.mem_filter

theorem turns_cons (os : List ω) :
    turns base prefs cap owned (o :: os) = turns base prefs cap (turn base prefs cap owned o) os :=
  rfl

theorem turns_append (os os' : List ω) :
    turns base prefs cap owned (os ++ os') =
      turns base prefs cap (turns base prefs cap owned os) os' := List.foldl_append

omit [DecidableEq α] in
theorem mem_taken {x : α} (h : x ∈ taken base prefs cap owned o) :
    x ∈ prefs o ∧ owned x = none := by
  simpa using List.mem_filter.mp (List.mem_of_mem_take h)

omit [DecidableEq α] in
/-- Shares of different agents have nothing in common. -/
theorem disjoint_share (h : o ≠ o') : Disjoint (share base owned o) (share base owned o') := by
  rw [Finset.disjoint_left]
  intro x hx hx'
  rw [mem_share] at hx hx'
  exact h (Option.some.inj (hx.2.symm.trans hx'.2))

/-- A turn leaves the shares of the others alone. -/
theorem share_turn_of_ne (h : o' ≠ o) :
    share base (turn base prefs cap owned o) o' = share base owned o' := by
  ext x
  simp only [mem_share, turn]
  split
  · next hx =>
    have hfree := (mem_taken hx).2
    simp [hfree, Ne.symm h]
  · rfl

section Listing
variable (hprefs : ∀ o, (prefs o).Nodup ∧ ∀ x, x ∈ prefs o ↔ x ∈ base)
include hprefs

theorem length_taken :
    (taken base prefs cap owned o).length =
      min (cap o-(share base owned o).card) (free base owned).card := by
  have hfree : (free base owned).card = ((prefs o).filter fun x => owned x = none).length := by
    rw [← List.toFinset_card_of_nodup ((hprefs o).1.filter _)]
    congr 1
    ext x
    simp [free, (hprefs o).2]
  rw [taken, List.length_take, hfree]

omit [DecidableEq α] in
theorem nodup_taken : (taken base prefs cap owned o).Nodup :=
  ((hprefs o).1.filter _).sublist (List.take_sublist _ _)

theorem share_turn_self :
    share base (turn base prefs cap owned o) o =
      share base owned o ∪ (taken base prefs cap owned o).toFinset := by
  ext x
  simp only [mem_share, turn, Finset.mem_union, List.mem_toFinset]
  by_cases hx : x ∈ taken base prefs cap owned o
  · simp [hx, ((hprefs o).2 x).mp (mem_taken hx).1]
  · simp [hx]

theorem card_share_turn_self :
    (share base (turn base prefs cap owned o) o).card =
      (share base owned o).card+min (cap o-(share base owned o).card) (free base owned).card := by
  rw [share_turn_self hprefs, Finset.card_union_of_disjoint,
    List.toFinset_card_of_nodup (nodup_taken hprefs), length_taken hprefs]
  rw [Finset.disjoint_left]
  intro x hx hx'
  rw [mem_share] at hx
  have hfree := (mem_taken (List.mem_toFinset.mp hx')).2
  simp [hfree] at hx

/-- A turn uses up as many free items as it takes. -/
theorem card_free_turn :
    (free base (turn base prefs cap owned o)).card+
      min (cap o-(share base owned o).card) (free base owned).card = (free base owned).card := by
  have hsplit : free base owned = free base (turn base prefs cap owned o) ∪
      (taken base prefs cap owned o).toFinset := by
    ext x
    simp only [mem_free, turn, Finset.mem_union, List.mem_toFinset]
    by_cases hx : x ∈ taken base prefs cap owned o
    · simp [hx, ((hprefs o).2 x).mp (mem_taken hx).1, (mem_taken hx).2]
    · simp [hx]
  have hdisj : Disjoint (free base (turn base prefs cap owned o))
      (taken base prefs cap owned o).toFinset := by
    rw [Finset.disjoint_left]
    intro x hx hx'
    rw [mem_free, turn, if_pos (List.mem_toFinset.mp hx')] at hx
    simp at hx
  conv_rhs => rw [hsplit, Finset.card_union_of_disjoint hdisj,
    List.toFinset_card_of_nodup (nodup_taken hprefs), length_taken hprefs]

/-- Nothing is left for `o` to take. -/
def Saturated (base : Finset α) (cap : ω → ℕ) (owned : α → Option ω) (o : ω) : Prop :=
  cap o ≤ (share base owned o).card ∨ (free base owned).card = 0

theorem turn_of_saturated (h : Saturated base cap owned o) :
    turn base prefs cap owned o = owned := by
  have hnil : taken base prefs cap owned o = [] := by
    rw [← List.length_eq_zero_iff, length_taken hprefs]
    rcases h with h | h <;> omega
  funext x
  simp [turn, hnil]

theorem saturated_turn_self : Saturated base cap (turn base prefs cap owned o) o := by
  have hshare : (share base (turn base prefs cap owned o) o).card = _ := card_share_turn_self hprefs
  have hfree : (free base (turn base prefs cap owned o)).card+_ = _ := card_free_turn hprefs
  simp only [Saturated]
  omega

theorem saturated_turn (h : Saturated base cap owned o') :
    Saturated base cap (turn base prefs cap owned o) o' := by
  by_cases ho : o' = o
  · subst ho
    exact saturated_turn_self hprefs
  · have hfree : (free base (turn base prefs cap owned o)).card+_ = _ := card_free_turn hprefs
    rcases h with h | h
    · exact Or.inl (by rwa [share_turn_of_ne ho])
    · exact Or.inr (by omega)

theorem saturated_turns (os : List ω) (h : Saturated base cap owned o) :
    Saturated base cap (turns base prefs cap owned os) o := by
  induction os generalizing owned with
  | nil => exact h
  | cons a os ih => exact ih (saturated_turn hprefs h)

theorem saturated_of_mem (os : List ω) (h : o ∈ os) :
    Saturated base cap (turns base prefs cap owned os) o := by
  induction os generalizing owned with
  | nil => simp at h
  | cons a os ih =>
    rcases List.mem_cons.mp h with rfl | h
    · exact saturated_turns hprefs os (saturated_turn_self hprefs)
    · exact ih h

/-- Agents that have had their turn get nothing more from further turns. -/
theorem turns_of_saturated (os : List ω) (h : ∀ o ∈ os, Saturated base cap owned o) :
    turns base prefs cap owned os = owned := by
  induction os with
  | nil => rfl
  | cons a os ih =>
    obtain ⟨ha, hos⟩ := List.forall_mem_cons.mp h
    rw [turns_cons, turn_of_saturated hprefs ha, ih hos]

omit hprefs in
theorem share_turns_of_notMem (os : List ω) (h : o ∉ os) :
    share base (turns base prefs cap owned os) o = share base owned o := by
  induction os generalizing owned with
  | nil => rfl
  | cons a os ih =>
    obtain ⟨ha, hos⟩ : o ≠ a ∧ o ∉ os := by simpa using h
    rw [turns_cons, ih hos, share_turn_of_ne ha]

/-- What agents without a share leave free, each of them having had one turn. -/
theorem card_free_turns (os : List ω) (hnd : os.Nodup) (hnew : ∀ o ∈ os, share base owned o = ∅) :
    (free base (turns base prefs cap owned os)).card = (free base owned).card-(os.map cap).sum := by
  induction os generalizing owned with
  | nil => simp [turns]
  | cons a os ih =>
    obtain ⟨hnot, hnd'⟩ := List.nodup_cons.mp hnd
    obtain ⟨ha, hos⟩ := List.forall_mem_cons.mp hnew
    have hfree : (free base (turn base prefs cap owned a)).card+_ = _ := card_free_turn hprefs
    rw [ha, Finset.card_empty, Nat.sub_zero] at hfree
    have hos' : ∀ o ∈ os, share base (turn base prefs cap owned a) o = ∅ := by
      intro o ho
      rw [share_turn_of_ne (fun he : o = a => hnot (he ▸ ho)), hos o ho]
    rw [turns_cons, ih hnd' hos', List.map_cons, List.sum_cons]
    omega

end Listing

theorem owner_of_turns {os : List ω} {x : α} (h : turns base prefs cap owned os x = some o) :
    o ∈ os ∨ owned x = some o := by
  induction os generalizing owned with
  | nil => exact Or.inr h
  | cons a os ih =>
    rcases ih h with hmem | hturn
    · exact Or.inl (List.mem_cons_of_mem _ hmem)
    · simp only [turn] at hturn
      split at hturn
      · exact Or.inl (Option.some.inj hturn ▸ List.mem_cons_self)
      · exact Or.inr hturn

/-- What the agents of `os` own and what is free make up the stock. -/
theorem card_biUnion_share (os : List ω) (h : ∀ x o, owned x = some o → o ∈ os) :
    (os.toFinset.biUnion (share base owned)).card+(free base owned).card = base.card := by
  have hdisj : Disjoint (os.toFinset.biUnion (share base owned)) (free base owned) := by
    rw [Finset.disjoint_left]
    intro x hx hx'
    obtain ⟨o, -, hxo⟩ := Finset.mem_biUnion.mp hx
    rw [mem_share] at hxo
    rw [mem_free, hxo.2] at hx'
    simp at hx'
  rw [← Finset.card_union_of_disjoint hdisj]
  congr 1
  ext x
  rw [Finset.mem_union, Finset.mem_biUnion, mem_free]
  cases hx : owned x with
  | none => simp [hx]
  | some o => simp [hx, h x o hx]

/-- A turn takes nothing from anybody. -/
theorem share_subset_turn : share base owned o ⊆ share base (turn base prefs cap owned o') o := by
  intro x hx
  obtain ⟨hbase, hown⟩ := mem_share.mp hx
  have hnot : x ∉ taken base prefs cap owned o' := by
    intro htaken
    have hfree := (mem_taken htaken).2
    simp [hown] at hfree
  exact mem_share.mpr ⟨hbase, by rw [turn, if_neg hnot, hown]⟩

theorem share_subset_turns (os : List ω) :
    share base owned o ⊆ share base (turns base prefs cap owned os) o := by
  induction os generalizing owned with
  | nil => exact Finset.Subset.refl _
  | cons a os ih => exact share_subset_turn.trans ih

/-- Saturated owners that keep to their capacities own as much as these come to, or everything. -/
theorem card_biUnion_of_saturated (os : List ω) (h : ∀ x o, owned x = some o → o ∈ os)
    (hcap : ∀ o ∈ os, (share base owned o).card ≤ cap o)
    (hsat : ∀ o ∈ os, Saturated base cap owned o) :
    (os.toFinset.biUnion (share base owned)).card = min base.card (∑ o ∈ os.toFinset, cap o) := by
  have hsum : (os.toFinset.biUnion (share base owned)).card =
      ∑ o ∈ os.toFinset, (share base owned o).card :=
    Finset.card_biUnion fun o _ o' _ hne => disjoint_share hne
  have hall : (os.toFinset.biUnion (share base owned)).card+(free base owned).card = base.card :=
    card_biUnion_share os h
  have hle : ∑ o ∈ os.toFinset, (share base owned o).card ≤ ∑ o ∈ os.toFinset, cap o :=
    Finset.sum_le_sum fun o ho => hcap o (List.mem_toFinset.mp ho)
  by_cases hfree : (free base owned).card = 0
  · omega
  · have hfull : ∑ o ∈ os.toFinset, (share base owned o).card = ∑ o ∈ os.toFinset, cap o := by
      refine Finset.sum_congr rfl fun o ho => ?_
      have ho' := List.mem_toFinset.mp ho
      exact le_antisymm (hcap o ho') ((hsat o ho').resolve_right hfree)
    omega

end GreedyShare
