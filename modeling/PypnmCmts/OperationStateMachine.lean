import PypnmCmts.OperationSteps

/-! The lifecycle of an operation over whole runs: terminal states are final, and CANCELLING
is left for a terminal state only, unless the runner saves its progress over it. -/
namespace PypnmCmts

open LabelledRun OperationRunner OperationStore

namespace OperationWorld
variable {κ : Type*} [DecidableEq κ]

/-- The step is not a progress save of the runner over a state that is CANCELLING. -/
def SparesCancelling (w : OperationWorld κ) : OperationAction κ → Prop
  | .run _ => ¬ (w.pc.savesProgress = true ∧ w.lifecycle = .cancelling)
  | _ => True

/-- What the copies in memory are in every state of a run. -/
structure CopiesKnown (w : OperationWorld κ) : Prop where
  runner : w.MemoryRunning
  callers : w.CallersCancelling

omit [DecidableEq κ] in
theorem copiesKnown_initial (dir : OperationDir) (clock : ℚ) (epoch : TimestampSec) :
    (initial dir clock epoch : OperationWorld κ).CopiesKnown where
  runner _ hst := by cases hst
  callers _ _ h := by cases h

theorem copiesKnown_exec (mt : Option ServiceStatusCode) {w : OperationWorld κ}
    (h : w.CopiesKnown) (as : List (OperationAction κ)) : (exec (step mt) w as).CopiesKnown := by
  apply invariant_of_step _ as h
  intro s a hs
  exact ⟨step_memory mt a hs.runner, step_callers mt a hs.callers⟩

theorem lifecycle_terminal_step (mt : Option ServiceStatusCode) {w : OperationWorld κ}
    (a : OperationAction κ) (h : isTerminalState w.lifecycle = true) :
    (w.step mt a).lifecycle = w.lifecycle := by
  unfold lifecycle at h ⊢
  rw [step_state]
  cases w.saved a with
  | none => rfl
  | some copy => exact saveStateAtomic_terminal h copy

theorem lifecycle_terminal_exec (mt : Option ServiceStatusCode) {w : OperationWorld κ}
    (as : List (OperationAction κ)) (h : isTerminalState w.lifecycle = true) :
    (exec (step mt) w as).lifecycle = w.lifecycle := by
  induction as generalizing w with
  | nil => rfl
  | cons a as ih =>
    have hstep := lifecycle_terminal_step mt a h
    rw [exec_cons, ih (by rw [hstep]; exact h), hstep]

theorem lifecycle_of_saved (mt : Option ServiceStatusCode) {w : OperationWorld κ}
    {a : OperationAction κ} (hopen : isTerminalState w.lifecycle = false)
    {copy : OperationStateModel} (hs : w.saved a = some copy) :
    (w.step mt a).lifecycle = copy.state := by
  rw [lifecycle, step_state, hs]
  exact congrArg OperationStateModel.state (saveStateAtomic_open hopen copy)

/-- A progress save puts RUNNING into a state file that is not terminal. -/
theorem lifecycle_progress_step (mt : Option ServiceStatusCode) {w : OperationWorld κ}
    (hw : w.CopiesKnown) (done : List ℕ) (hopen : isTerminalState w.lifecycle = false)
    (hprogress : w.pc.savesProgress = true) : (w.step mt (.run done)).lifecycle = .running := by
  obtain ⟨copy, hcopy⟩ := saves_of_savesProgress hprogress
  have hkind := saves_state hw.runner hcopy
  have hsaved : w.saved (.run done) = some copy := hcopy
  rw [if_pos hprogress] at hkind
  rw [lifecycle_of_saved mt hopen hsaved]
  exact hkind

/-- Any other step leaves CANCELLING for a terminal state only. -/
theorem lifecycle_cancelling_step (mt : Option ServiceStatusCode) {w : OperationWorld κ}
    (hw : w.CopiesKnown) (a : OperationAction κ) (hspares : w.SparesCancelling a)
    (h : w.lifecycle = .cancelling) :
    (w.step mt a).lifecycle = .cancelling ∨ isTerminalState (w.step mt a).lifecycle = true := by
  have hopen : isTerminalState w.lifecycle = false := by
    rw [h]
    rfl
  cases hs : w.saved a with
  | none =>
    left
    rw [lifecycle, step_state, hs]
    exact h
  | some copy =>
    rw [lifecycle_of_saved mt hopen hs]
    cases a with
    | run done =>
      right
      have hkind := saves_state hw.runner hs
      rwa [if_neg fun hprogress => hspares ⟨hprogress, h⟩] at hkind
    | cancel caller =>
      left
      simp only [saved] at hs
      split at hs
      next updated hcall =>
        obtain rfl := Option.some_inj.mp hs
        exact hw.callers caller _ hcall
      next => cases hs
    | _ => cases hs

/-- The states a cancelled operation may be in from then on. -/
def CancelKept (w : OperationWorld κ) : Prop :=
  w.lifecycle = .cancelling ∨ isTerminalState w.lifecycle = true

theorem cancelKept_exec (mt : Option ServiceStatusCode) {w : OperationWorld κ}
    (hw : w.CopiesKnown) {as : List (OperationAction κ)}
    (hg : Guarded (step mt) SparesCancelling w as) (h : w.CancelKept) :
    (exec (step mt) w as).CancelKept := by
  induction as generalizing w with
  | nil => exact h
  | cons a as ih =>
    apply ih (copiesKnown_exec mt hw [a]) hg.2
    rcases h with h | h
    · exact lifecycle_cancelling_step mt hw a hg.1 h
    · right
      change isTerminalState (w.step mt a).lifecycle = true
      rw [lifecycle_terminal_step mt a h]
      exact h

/-- The state machine of an operation, for one run of the runner beside any number of
`request_cancel` calls: terminal states are final, and a CANCELLING operation goes back to
QUEUED or RUNNING exactly where the runner saves its progress over it. -/
theorem operation_lifecycle (mt : Option ServiceStatusCode) (dir : OperationDir) (clock : ℚ)
    (epoch : TimestampSec) (as : List (OperationAction κ)) :
    let after (bs : List (OperationAction κ)) :=
      (exec (step mt) (initial dir clock epoch) bs).lifecycle
    (∀ bs cs, bs ++ cs <+: as → isTerminalState (after bs) = true → after (bs ++ cs) = after bs) ∧
    ((∀ bs cs, bs ++ cs <+: as → after bs = .cancelling →
        after (bs ++ cs) ≠ .queued ∧ after (bs ++ cs) ≠ .running) ↔
      Guarded (step mt) SparesCancelling (initial dir clock epoch) as) := by
  intro after
  have hinit : (initial dir clock epoch : OperationWorld κ).CopiesKnown :=
    copiesKnown_initial dir clock epoch
  have hknown := copiesKnown_exec mt hinit
  refine ⟨?_, ?_, ?_⟩
  · intro bs cs _ hterminal
    simp only [after, exec_append]
    exact lifecycle_terminal_exec mt cs hterminal
  · -- a step that breaks the guard is itself a way back to RUNNING
    intro hback
    rw [guarded_iff]
    rintro bs a cs rfl
    cases a with
    | run done =>
      rintro ⟨hprogress, hcancelling⟩
      have hprefix : bs ++ [.run done] <+: bs ++ .run done :: cs :=
        ⟨cs, by rw [List.append_assoc, List.singleton_append]⟩
      have hopen : isTerminalState (after bs) = false := by
        change after bs = .cancelling at hcancelling
        rw [hcancelling]
        rfl
      apply (hback bs [.run done] hprefix hcancelling).2
      simp only [after, exec_concat]
      exact lifecycle_progress_step mt (hknown bs) done hopen hprogress
    | _ => trivial
  · rintro hguard bs cs ⟨ds, rfl⟩ hcancelling
    rw [List.append_assoc, guarded_append, guarded_append] at hguard
    have hkept := cancelKept_exec mt (hknown bs) hguard.2.1 (.inl hcancelling)
    rw [← exec_append] at hkept
    change after (bs ++ cs) = .cancelling ∨ isTerminalState (after (bs ++ cs)) = true at hkept
    constructor
    all_goals
      intro hstate
      rw [hstate] at hkept
      revert hkept
      decide

/-- A cancel that is complete before the runner's thread loads the state: the start of the run
takes the operation from CANCELLING back to RUNNING. -/
theorem start_overwrites_cancelling :
    let w : OperationWorld Unit := created "op"
      { servingGroupIds := [1], macAddresses := ["mac"], execution := { maxWorkers := 1 } } 0 0
    let requested : List (OperationAction Unit) := [.cancel (), .cancel (), .cancel ()]
    (exec (step none) w requested).lifecycle = .cancelling ∧
      (exec (step none) w (requested ++ [.run [], .run []])).lifecycle = .running := by
  decide +kernel

end OperationWorld
end PypnmCmts
