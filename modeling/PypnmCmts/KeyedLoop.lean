import Mathlib.Data.List.Nodup

/-! Loops over keys whose body touches only the cell of its own key. Such a loop treats each
key as if it were alone, in whatever order the keys come. -/
namespace KeyedLoop

variable {σ κ γ : Type*}

/-- The body leaves every cell but that of its key alone. -/
def Framed (cell : σ → κ → γ) (f : σ → κ → σ) : Prop :=
  ∀ s j k, k ≠ j → cell (f s j) k = cell s k

variable {cell : σ → κ → γ} {f f' : σ → κ → σ}

theorem Framed.cell_foldl (hf : Framed cell f) {ks : List κ} {k : κ} (hk : k ∉ ks) (s : σ) :
    cell (ks.foldl f s) k = cell s k := by
  induction ks generalizing s with
  | nil => rfl
  | cons j ks ih =>
    rw [List.foldl_cons, ih (List.not_mem_of_not_mem_cons hk)]
    exact hf s j k (List.ne_of_not_mem_cons hk)

/-- A key that comes once has one turn, taken from the cell as it was before the loop. -/
theorem Framed.exists_turn (hf : Framed cell f) {ks : List κ} (hks : ks.Nodup) {k : κ}
    (hk : k ∈ ks) (s : σ) :
    ∃ t, cell t k = cell s k ∧ cell (ks.foldl f s) k = cell (f t k) k := by
  obtain ⟨as, bs, rfl⟩ := List.append_of_mem hk
  rw [List.nodup_append, List.nodup_cons] at hks
  obtain ⟨-, ⟨hbs, -⟩, hdisj⟩ := hks
  have has : k ∉ as := fun h => hdisj k h k List.mem_cons_self rfl
  refine ⟨as.foldl f s, hf.cell_foldl has s, ?_⟩
  rw [List.foldl_append, List.foldl_cons]
  exact hf.cell_foldl hbs _

/-- Two loops that treat the key `k` alike end with the same cell for it, whatever else they
run over and in whatever order. -/
theorem Framed.cell_foldl_congr (hf : Framed cell f) (hf' : Framed cell f') {k : κ}
    (hown : ∀ s s', cell s k = cell s' k → cell (f s k) k = cell (f' s' k) k)
    {ks ks' : List κ} (hks : ks.Nodup) (hks' : ks'.Nodup) (hk : k ∈ ks) (hk' : k ∈ ks')
    {s s' : σ} (h : cell s k = cell s' k) :
    cell (ks.foldl f s) k = cell (ks'.foldl f' s') k := by
  obtain ⟨t, ht, hend⟩ := hf.exists_turn hks hk s
  obtain ⟨t', ht', hend'⟩ := hf'.exists_turn hks' hk' s'
  rw [hend, hend']
  apply hown
  rw [ht, ht', h]

end KeyedLoop
