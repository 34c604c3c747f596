import Mathlib.Algebra.Order.Group.Basic
import Mathlib.Data.List.Chain

/-! Times in their order, how many of them fall into any window of one width, and the part that
a moving cutoff leaves. -/
namespace SlidingWindow
variable {α : Type*} [LinearOrder α]

/-- The times that a cutoff leaves. -/
def since (cutoff : α) (times : List α) : List α := times.filter fun t => cutoff ≤ t

theorem mem_since {cutoff t : α} {times : List α} :
    t ∈ since cutoff times ↔ t ∈ times ∧ cutoff ≤ t := by
  rw [since, List.mem_filter, decide_eq_true_iff]

theorem since_since {a b : α} (hab : a ≤ b) (times : List α) :
    since b (since a times) = since b times := by
  rw [since, since, List.filter_filter]
  apply List.filter_congr
  intro t _
  rw [Bool.and_eq_left_iff_imp, decide_eq_true_iff, decide_eq_true_iff]
  exact hab.trans

theorem since_concat {cutoff now : α} (h : cutoff ≤ now) (times : List α) :
    since cutoff (times ++ [now]) = since cutoff times ++ [now] := by
  have hnow : since cutoff [now] = [now] := List.filter_cons_of_pos (decide_eq_true h)
  rw [since, List.filter_append, ← since, ← since, hnow]

theorem length_since_anti {a b : α} (hab : a ≤ b) (times : List α) :
    (since b times).length ≤ (since a times).length := by
  rw [← since_since hab]
  exact List.length_filter_le _ _

/-- Sorted times are cut off from the front. -/
theorem dropWhile_lt_eq_since {times : List α} (hsorted : times.Pairwise (· ≤ ·)) (cutoff : α) :
    times.dropWhile (fun t => t < cutoff) = since cutoff times := by
  induction times with
  | nil => rfl
  | cons t times ih =>
    obtain ⟨hfirst, hrest⟩ := List.pairwise_cons.mp hsorted
    by_cases ht : t < cutoff
    · have hcut : since cutoff (t :: times) = since cutoff times :=
        List.filter_cons_of_neg (by simpa using ht)
      rw [hcut, ← ih hrest]
      exact List.dropWhile_cons_of_pos (decide_eq_true ht)
    · have hle : cutoff ≤ t := not_lt.mp ht
      have hkept : since cutoff (t :: times) = t :: times := by
        apply List.filter_eq_self.mpr
        intro a ha
        rcases List.mem_cons.mp ha with rfl | ha
        · exact decide_eq_true hle
        · exact decide_eq_true (hle.trans (hfirst a ha))
      rw [hkept]
      exact List.dropWhile_cons_of_neg (by simpa using hle)

theorem since_suffix {times : List α} (hsorted : times.Pairwise (· ≤ ·)) (cutoff : α) :
    since cutoff times <:+ times := by
  rw [← dropWhile_lt_eq_since hsorted]
  exact List.dropWhile_suffix _

theorem getLast?_since {cutoff last : α} {times : List α} (hlast : last ∈ times.getLast?)
    (h : cutoff ≤ last) : last ∈ (since cutoff times).getLast? := by
  obtain ⟨init, rfl⟩ := List.getLast?_eq_some_iff.mp hlast
  rw [since_concat h, List.getLast?_concat]
  rfl

theorem getLast?_of_since {cutoff last : α} {times : List α} (hsorted : times.Pairwise (· ≤ ·))
    (hlast : last ∈ (since cutoff times).getLast?) : last ∈ times.getLast? := by
  obtain ⟨front, hfront⟩ := since_suffix hsorted cutoff
  rw [← hfront, List.getLast?_append, Option.mem_def.mp hlast, Option.some_or]
  rfl

theorem pairwise_concat {times : List α} {now : α} (hsorted : times.Pairwise (· ≤ ·))
    (hpast : ∀ t ∈ times, t ≤ now) : (times ++ [now]).Pairwise (· ≤ ·) := by
  rw [List.pairwise_append]
  refine ⟨hsorted, List.pairwise_singleton _ _, ?_⟩
  intro t ht a ha
  rw [List.mem_singleton.mp ha]
  exact hpast t ht

variable [AddCommGroup α] [IsOrderedAddMonoid α]

/-- No window of the width holds more than `n` of the times. -/
def AtMost (n : ℕ) (width : α) (times : List α) : Prop :=
  ∀ start, (times.filter fun t => start ≤ t ∧ t ≤ start+width).length ≤ n

/-- A window that a new time falls into reaches back no further than its own width. -/
theorem AtMost.concat {n : ℕ} {width now : α} {times : List α} (h : AtMost n width times)
    (hroom : (since (now-width) times).length < n) : AtMost n width (times ++ [now]) := by
  intro start
  rw [List.filter_append, List.length_append]
  by_cases hnow : start ≤ now ∧ now ≤ start+width
  · have hback : now-width ≤ start := sub_le_iff_le_add.mpr hnow.2
    have hwindow : (times.filter fun t => start ≤ t ∧ t ≤ start+width).length ≤
        (since (now-width) times).length := by
      apply List.Sublist.length_le
      apply List.monotone_filter_right
      intro t ht
      exact decide_eq_true (hback.trans (of_decide_eq_true ht).1)
    have hone : ([now].filter fun t => start ≤ t ∧ t ≤ start+width).length ≤ 1 :=
      List.length_filter_le _ [now]
    omega
  · have hnone : [now].filter (fun t => start ≤ t ∧ t ≤ start+width) = [] :=
      List.filter_cons_of_neg (by simpa using hnow)
    rw [hnone, List.length_nil]
    exact h start

end SlidingWindow
