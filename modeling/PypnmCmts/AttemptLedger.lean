import Mathlib.Algebra.BigOperators.Group.List.Basic
import Mathlib.Algebra.GroupWithZero.Nat
import Mathlib.Data.List.Count
import Mathlib.Data.List.Nodup
import Mathlib.Data.List.Perm.Basic

/-! Bookkeeping for keys that are worked on in attempts. A token stands for a key and carries the
number of attempts already used up; it waits for its next attempt, or its attempt has been
submitted. Each key has one token, and the submissions are the attempts paid for. -/
namespace AttemptLedger

variable {τ κ : Type*} [DecidableEq κ] (key : τ → κ) (attempt : τ → ℕ)

/-- The tokens of `k` in `ts`. -/
def located (k : κ) (ts : List τ) : ℕ := ts.countP fun t => key t = k

/-- The attempts used up by the tokens of `k` in `ts`. -/
def spent (k : κ) (ts : List τ) : ℕ := (ts.map fun t => if key t = k then attempt t else 0).sum

@[simp] theorem located_nil (k : κ) : located key k [] = 0 := rfl

@[simp] theorem spent_nil (k : κ) : spent key attempt k [] = 0 := rfl

@[simp] theorem located_cons (k : κ) (t : τ) (ts : List τ) :
    located key k (t :: ts) = located key k ts+(if key t = k then 1 else 0) := by
  simp only [located, List.countP_cons, decide_eq_true_eq]

@[simp] theorem spent_cons (k : κ) (t : τ) (ts : List τ) :
    spent key attempt k (t :: ts) =
      (if key t = k then attempt t else 0)+spent key attempt k ts := by
  simp only [spent, List.map_cons, List.sum_cons]

@[simp] theorem located_append (k : κ) (ts us : List τ) :
    located key k (ts ++ us) = located key k ts+located key k us := List.countP_append

variable {key attempt}

theorem located_perm {ts us : List τ} (h : ts.Perm us) (k : κ) :
    located key k ts = located key k us := h.countP_eq _

theorem spent_perm {ts us : List τ} (h : ts.Perm us) (k : κ) :
    spent key attempt k ts = spent key attempt k us := (h.map _).sum_eq

theorem count_map_key (ts : List τ) (k : κ) : (ts.map key).count k = located key k ts := by
  rw [List.count, List.countP_map]
  refine List.countP_congr fun t _ => ?_
  simp only [decide_eq_true_eq, Function.comp_apply, beq_iff_eq]

variable (key) in
/-- Attempts within a limit are paid for by the tokens that use them. -/
theorem spent_le {ts : List τ} {limit : ℕ} (h : ∀ t ∈ ts, attempt t ≤ limit) (k : κ) :
    spent key attempt k ts ≤ limit*located key k ts := by
  induction ts with
  | nil => exact Nat.zero_le _
  | cons t ts ih =>
    have hrest := ih fun u hu => h u (List.mem_cons_of_mem _ hu)
    have hhead := h t List.mem_cons_self
    rw [spent_cons, located_cons, Nat.mul_add]
    split
    · omega
    · omega

variable (key attempt) in
/-- The books for the keys `keys`, with at most `limit` attempts after the first. -/
structure Ledger (keys : List κ) (limit : ℕ) (submitted waiting active : List τ) : Prop where
  once : ∀ k, located key k waiting+located key k active = keys.count k
  paid : ∀ k, located key k submitted =
    spent key attempt k waiting+(spent key attempt k active+located key k active)
  waiting_le : ∀ t ∈ waiting, attempt t ≤ limit
  active_le : ∀ t ∈ active, attempt t ≤ limit

namespace Ledger
variable {keys : List κ} {limit : ℕ} {submitted waiting active waiting' active' : List τ} {t t' : τ}

/-- At the start every key waits for its first attempt. -/
theorem start {ts : List τ} (h : ∀ t ∈ ts, attempt t = 0) :
    Ledger key attempt (ts.map key) limit [] ts [] := by
  refine ⟨?_, ?_, ?_, ?_⟩
  · intro k
    rw [located_nil, Nat.add_zero, count_map_key]
  · intro k
    have hspent := spent_le key (fun t ht => Nat.le_of_eq (h t ht)) k
    simp only [located_nil, spent_nil]
    omega
  · intro t ht
    rw [h t ht]
    exact Nat.zero_le _
  · intro t ht
    exact absurd ht List.not_mem_nil

/-- The order of the tokens does not matter. -/
theorem perm (h : Ledger key attempt keys limit submitted waiting active)
    (hw : waiting.Perm waiting') (ha : active.Perm active') :
    Ledger key attempt keys limit submitted waiting' active' := by
  refine ⟨?_, ?_, ?_, ?_⟩
  · intro k
    rw [← located_perm hw, ← located_perm ha]
    exact h.once k
  · intro k
    rw [← spent_perm hw, ← spent_perm ha, ← located_perm ha]
    exact h.paid k
  · exact fun t ht => h.waiting_le t (hw.mem_iff.mpr ht)
  · exact fun t ht => h.active_le t (ha.mem_iff.mpr ht)

/-- A waiting token is submitted. -/
theorem submit (h : Ledger key attempt keys limit submitted (t :: waiting) active) :
    Ledger key attempt keys limit (submitted ++ [t]) waiting (t :: active) := by
  refine ⟨?_, ?_, ?_, ?_⟩
  · intro k
    have honce := h.once k
    simp only [located_cons] at honce ⊢
    omega
  · intro k
    have hpaid := h.paid k
    simp only [located_append, located_cons, located_nil, spent_cons] at hpaid ⊢
    omega
  · exact fun u hu => h.waiting_le u (List.mem_cons_of_mem _ hu)
  · intro u hu
    rcases List.mem_cons.mp hu with rfl | hu
    · exact h.waiting_le u List.mem_cons_self
    · exact h.active_le u hu

/-- An attempt that failed within the limit has its key wait again. -/
theorem retry (h : Ledger key attempt keys limit submitted waiting (t :: active))
    (hkey : key t' = key t) (hattempt : attempt t' = attempt t+1) (hlimit : attempt t < limit) :
    Ledger key attempt keys limit submitted (t' :: waiting) active := by
  refine ⟨?_, ?_, ?_, ?_⟩
  · intro k
    have honce := h.once k
    simp only [located_cons, hkey] at honce ⊢
    omega
  · intro k
    have hpaid := h.paid k
    simp only [located_cons, spent_cons, hkey, hattempt] at hpaid ⊢
    by_cases hk : key t = k
    · simp only [if_pos hk] at hpaid ⊢
      omega
    · simp only [if_neg hk] at hpaid ⊢
      omega
  · intro u hu
    rcases List.mem_cons.mp hu with rfl | hu
    · omega
    · exact h.waiting_le u hu
  · exact fun u hu => h.active_le u (List.mem_cons_of_mem _ hu)

/-- No key is submitted more often than the limit allows. -/
theorem located_submitted_le (h : Ledger key attempt keys limit submitted waiting active)
    (hkeys : keys.Nodup) (k : κ) : located key k submitted ≤ limit+1 := by
  have hwaiting := spent_le key h.waiting_le k
  have hactive := spent_le key h.active_le k
  have honce : located key k waiting+located key k active ≤ 1 := by
    rw [h.once k]
    exact List.nodup_iff_count_le_one.mp hkeys k
  calc located key k submitted
      = spent key attempt k waiting+(spent key attempt k active+located key k active) := h.paid k
    _ ≤ limit*(located key k waiting+located key k active)+located key k active := by
        rw [Nat.mul_add]
        omega
    _ ≤ limit*1+1 := Nat.add_le_add (Nat.mul_le_mul_left limit honce) (by omega)
    _ = limit+1 := by rw [Nat.mul_one]

/-- When nothing waits any more, the submitted tokens are those of all keys, each once. -/
theorem perm_keys (h : Ledger key attempt keys limit submitted [] active) :
    (active.map key).Perm keys := by
  rw [List.perm_iff_count]
  intro k
  have honce := h.once k
  rw [located_nil, Nat.zero_add] at honce
  rw [count_map_key, honce]

/-- No key has two tokens. -/
theorem nodup_active (h : Ledger key attempt keys limit submitted waiting active)
    (hkeys : keys.Nodup) : (active.map key).Nodup := by
  rw [List.nodup_iff_count_le_one]
  intro k
  rw [count_map_key]
  have honce := h.once k
  have hle := List.nodup_iff_count_le_one.mp hkeys k
  omega

end Ledger
end AttemptLedger
