import Mathlib.Data.List.Basic

/-! Runs of a deterministic system driven by labels. Every scheduling choice and every
answer of the environment is part of the label, so a run is a list of labels and
the states it visits are the states after its prefixes. -/
namespace LabelledRun

variable {σ α : Type*} (step : σ → α → σ)

/-- The state after the labels `as`. -/
def exec (s : σ) (as : List α) : σ := as.foldl step s

@[simp] theorem exec_nil (s : σ) : exec step s [] = s := rfl

@[simp] theorem exec_cons (s : σ) (a : α) (as : List α) :
    exec step s (a :: as) = exec step (step s a) as := rfl

theorem exec_append (s : σ) (as bs : List α) :
    exec step s (as ++ bs) = exec step (exec step s as) bs := List.foldl_append

theorem exec_concat (s : σ) (as : List α) (a : α) :
    exec step s (as ++ [a]) = step (exec step s as) a := by
  rw [exec_append, exec_cons, exec_nil]

theorem exec_append_cons (s : σ) (as : List α) (a : α) (bs : List α) :
    exec step s (as ++ a :: bs) = exec step (step (exec step s as) a) bs := by
  rw [exec_append, exec_cons]

/-- Each label of the run meets `G` in the state in which it is taken. -/
def Guarded (G : σ → α → Prop) : σ → List α → Prop
  | _, [] => True
  | s, a :: as => G s a ∧ Guarded G (step s a) as

instance decidableGuarded (G : σ → α → Prop) [∀ s a, Decidable (G s a)] :
    ∀ s as, Decidable (Guarded step G s as)
  | _, [] => isTrue trivial
  | s, a :: as =>
    match (inferInstance : Decidable (G s a)), decidableGuarded G (step s a) as with
    | isTrue h, isTrue h' => isTrue ⟨h, h'⟩
    | isFalse h, _ => isFalse fun hh => h hh.1
    | _, isFalse h => isFalse fun hh => h hh.2

variable {step}

theorem guarded_append {G : σ → α → Prop} {s : σ} {as bs : List α} :
    Guarded step G s (as ++ bs) ↔
      Guarded step G s as ∧ Guarded step G (exec step s as) bs := by
  induction as generalizing s with
  | nil => simp [Guarded]
  | cons a as ih => simp only [List.cons_append, Guarded, ih, exec_cons, and_assoc]

/-- A run is guarded when each of its steps meets the guard where it is taken. -/
theorem guarded_iff {G : σ → α → Prop} {s : σ} {as : List α} :
    Guarded step G s as ↔ ∀ bs a cs, as = bs ++ a :: cs → G (exec step s bs) a := by
  constructor
  · rintro h bs a cs rfl
    exact (guarded_append.mp h).2.1
  · intro h
    induction as generalizing s with
    | nil => trivial
    | cons a as ih =>
      refine ⟨h [] a as rfl, ih ?_⟩
      rintro bs b cs rfl
      exact h (a :: bs) b cs rfl

theorem guarded_true {G : σ → α → Prop} (hG : ∀ s a, G s a) (s : σ) (as : List α) :
    Guarded step G s as := by
  induction as generalizing s with
  | nil => trivial
  | cons a as ih => exact ⟨hG s a, ih _⟩

theorem guarded_of_forall {P : α → Prop} {s : σ} {as : List α} (h : ∀ a ∈ as, P a) :
    Guarded step (fun _ a => P a) s as := by
  induction as generalizing s with
  | nil => trivial
  | cons a as ih =>
    exact ⟨h a List.mem_cons_self, ih fun b hb => h b (List.mem_cons_of_mem _ hb)⟩

theorem Guarded.mono {G H : σ → α → Prop} (hGH : ∀ s a, G s a → H s a) {s : σ} {as : List α}
    (hg : Guarded step G s as) : Guarded step H s as := by
  induction as generalizing s with
  | nil => trivial
  | cons a as ih => exact ⟨hGH _ _ hg.1, ih hg.2⟩

theorem Guarded.and {G H : σ → α → Prop} {s : σ} {as : List α} (hg : Guarded step G s as)
    (hh : Guarded step H s as) : Guarded step (fun s a => G s a ∧ H s a) s as := by
  induction as generalizing s with
  | nil => trivial
  | cons a as ih => exact ⟨⟨hg.1, hh.1⟩, ih hg.2 hh.2⟩

/-- The invariant rule: what every guarded step preserves holds after every guarded run. -/
theorem invariant_of_guarded {G : σ → α → Prop} {I : σ → Prop}
    (hstep : ∀ s a, G s a → I s → I (step s a)) {s : σ} {as : List α}
    (hg : Guarded step G s as) (h0 : I s) : I (exec step s as) := by
  induction as generalizing s with
  | nil => exact h0
  | cons a as ih => exact ih hg.2 (hstep s a hg.1 h0)

/-- The unguarded case of the invariant rule. -/
theorem invariant_of_step {I : σ → Prop} (hstep : ∀ s a, I s → I (step s a)) {s : σ}
    (as : List α) (h0 : I s) : I (exec step s as) :=
  invariant_of_guarded (G := fun _ _ => True) (fun s a _ => hstep s a)
    (guarded_true (fun _ _ => trivial) s as) h0

/-- The bound rule: where every guarded step lowers a rank, no guarded run is longer than the rank
that it begins with. -/
theorem length_add_rank_le {G : σ → α → Prop} {I : σ → Prop} (rank : σ → ℕ)
    (hstep : ∀ s a, G s a → I s → I (step s a) ∧ rank (step s a) < rank s) {s : σ} {as : List α}
    (hg : Guarded step G s as) (h0 : I s) : as.length+rank (exec step s as) ≤ rank s := by
  induction as generalizing s with
  | nil => exact Nat.le_of_eq (Nat.zero_add _)
  | cons a as ih =>
    obtain ⟨hinv, hdrop⟩ := hstep s a hg.1 h0
    have hrest := ih hg.2 hinv
    rw [List.length_cons, exec_cons]
    omega

/-- The progress rule: where a rank can be lowered until a goal is reached, some run reaches it. -/
theorem exists_exec {I P : σ → Prop} (rank : σ → ℕ)
    (hprogress : ∀ s, I s → ¬P s → ∃ a, I (step s a) ∧ rank (step s a) < rank s) {s : σ}
    (h0 : I s) : ∃ as, P (exec step s as) := by
  induction hrank : rank s using Nat.strongRecOn generalizing s with
  | _ n ih =>
    by_cases hgoal : P s
    · exact ⟨[], hgoal⟩
    · obtain ⟨a, hinv, hdrop⟩ := hprogress s h0 hgoal
      obtain ⟨as, has⟩ := ih _ (hrank ▸ hdrop) hinv rfl
      exact ⟨a :: as, has⟩

/-- A guarded run of one system is mirrored by a run of another one, label by label. -/
theorem exec_simulation {τ β : Type*} {stepAbs : τ → β → τ} {G : σ → α → Prop}
    (view : σ → τ) (label : α → β)
    (hsim : ∀ s a, G s a → view (step s a) = stepAbs (view s) (label a)) {s : σ} {as : List α}
    (hg : Guarded step G s as) :
    view (exec step s as) = exec stepAbs (view s) (as.map label) := by
  induction as generalizing s with
  | nil => rfl
  | cons a as ih => rw [exec_cons, List.map_cons, exec_cons, ih hg.2, hsim s a hg.1]

section answers
variable {κ β : Type*}

/-- What the calls of a run return, and the state behind them. -/
def answers (call : κ → σ → β × σ) (s : σ) : List κ → List β × σ
  | [] => ([], s)
  | c :: cs => ((call c s).1 :: (answers call (call c s).2 cs).1, (answers call (call c s).2 cs).2)

/-- Two systems answer alike in whole runs if they do so call by call. -/
theorem answers_simulation {τ γ : Type*} {call : κ → σ → β × σ} {call' : κ → τ → γ × τ}
    {R : σ → τ → Prop} {Q : β → γ → Prop} {G : κ → Prop}
    (hsim : ∀ c s t, G c → R s t → Q (call c s).1 (call' c t).1 ∧ R (call c s).2 (call' c t).2)
    {s : σ} {t : τ} {cs : List κ} (hcs : ∀ c ∈ cs, G c) (h : R s t) :
    List.Forall₂ Q (answers call s cs).1 (answers call' t cs).1 ∧
      R (answers call s cs).2 (answers call' t cs).2 := by
  induction cs generalizing s t with
  | nil => exact ⟨List.Forall₂.nil, h⟩
  | cons c cs ih =>
    obtain ⟨hanswer, hstate⟩ := hsim c s t (hcs c List.mem_cons_self) h
    obtain ⟨hanswers, hend⟩ := ih (fun d hd => hcs d (List.mem_cons_of_mem _ hd)) hstate
    exact ⟨List.Forall₂.cons hanswer hanswers, hend⟩

end answers

/-- An entry of a log that has grown by one is an entry of the log, or the last one. -/
theorem split_concat {log before after : List α} {x y : α} (h : log ++ [x] = before ++ y :: after) :
    (after = [] ∧ before = log ∧ y = x) ∨
      ∃ after', after = after' ++ [x] ∧ log = before ++ y :: after' := by
  rcases List.eq_nil_or_concat after with rfl | ⟨after', last, rfl⟩
  · obtain ⟨hlog, hlast⟩ := List.append_inj' h rfl
    exact Or.inl ⟨rfl, hlog.symm, (List.cons.inj hlast).1.symm⟩
  · have h' : log ++ [x] = (before ++ y :: after') ++ [last] := by
      rw [h]
      simp
    obtain ⟨hlog, hlast⟩ := List.append_inj' h' rfl
    exact Or.inr ⟨after', by rw [(List.cons.inj hlast).1]; simp, hlog⟩

end LabelledRun
