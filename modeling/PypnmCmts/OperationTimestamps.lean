import PypnmCmts.ProgressCounters

/-! The timestamps of an operation. A stamp is a look at the clock before the save that it is
for, and between the two other threads can go on; they share one `OperationStore`, whose lock makes
a save one step. -/
namespace PypnmCmts

open LabelledRun OperationRunner OperationStore

/-- An operation with the last two readings that the runner has taken off the clock, and the
state that it has loaded at its start. -/
structure StampedWorld (κ : Type*) where
  world : OperationWorld κ
  previous : TimestampSec
  reading : TimestampSec
  loaded : Option OperationStateModel

inductive StampedAction (κ : Type*)
  | act (a : OperationAction κ)
  /-- The runner looks at the clock. -/
  | look
  /-- A caller of `request_cancel` touches the flag, before it looks at the clock. -/
  | flag (caller : κ)

namespace StampedWorld
variable {κ : Type*}

/-- An operation that `create_operation` has just made. -/
def created (operationId : PnmCaptureOperationId) (summary : OperationRequestSummaryModel)
    (clock : ℚ) (epoch : TimestampSec) : StampedWorld κ :=
  ⟨.created operationId summary clock epoch, epoch, epoch, none⟩

/-- A step of the runner stamps with the readings it has taken since its step before. -/
def runnerStep (mt : Option ServiceStatusCode) (done : List ℕ) (s : StampedWorld κ) :
    StampedWorld κ :=
  let now := s.world.epoch
  match s.world.pc, s.loaded with
  | .starting, none => ⟨s.world, now, now, some s.world.dir.state⟩
  -- `started_epoch` and `updated_epoch` are two looks at the clock
  | .starting, some state =>
    let running := touched s.reading (transitionToRunning s.previous state)
    ⟨s.world.goto (.transitioned running), now, now, some state⟩
  | _, loaded =>
    let after := { s.world with epoch := s.reading }.runnerStep mt done
    ⟨{ after with epoch := now }, now, now, loaded⟩

variable [DecidableEq κ]

def step (mt : Option ServiceStatusCode) (s : StampedWorld κ) : StampedAction κ → StampedWorld κ
  | .look => { s with previous := s.reading, reading := s.world.epoch }
  | .flag caller =>
    match s.world.calls caller with
    | .touching _ => { s with world := { s.world with dir := touchCancelFlag s.world.dir } }
    | _ => s
  | .act (.run done) => s.runnerStep mt done
  | .act a => { s with world := s.world.step mt a }

/-- The clock never goes back. -/
def ClockForward (s : StampedWorld κ) : StampedAction κ → Prop
  | .act (.setEpoch now) => s.world.epoch ≤ now
  | _ => True

instance (s : StampedWorld κ) (a : StampedAction κ) : Decidable (s.ClockForward a) := by
  unfold ClockForward
  split <;> infer_instance

end StampedWorld

namespace OperationStateModel

/-- The stamps of a copy of the state, for an operation created at `c`. The time `r` is not before
the start of the run. -/
structure Stamped (c r : TimestampSec) (state : OperationStateModel) : Prop where
  created : state.timestamps.createdEpoch = c
  created_started : state.timestamps.startedEpoch ≠ 0 → c ≤ state.timestamps.startedEpoch
  started_le : state.timestamps.startedEpoch ≤ r
  started_updated : state.timestamps.startedEpoch ≤ state.timestamps.updatedEpoch
  created_updated : c ≤ state.timestamps.updatedEpoch

/-- The end of a run is stamped with the terminal state and with no other. -/
structure FinishStamped (state : OperationStateModel) : Prop where
  finished_iff : state.timestamps.finishedEpoch ≠ 0 ↔ isTerminalState state.state = true
  started_finished : isTerminalState state.state = true →
    state.timestamps.startedEpoch ≤ state.timestamps.finishedEpoch

variable {c r : TimestampSec} {state : OperationStateModel}

theorem Stamped.mono {r' : TimestampSec} (h : Stamped c r state) (hr : r ≤ r') :
    Stamped c r' state :=
  { h with started_le := h.started_le.trans hr }

/-- An update of a copy is stamped with a time that is not before the start of the run. -/
theorem Stamped.update {now : TimestampSec} (h : Stamped c r state) (hc : c ≤ now) (hr : r ≤ now)
    {state' : OperationStateModel}
    (hcreated : state'.timestamps.createdEpoch = state.timestamps.createdEpoch)
    (hstarted : state'.timestamps.startedEpoch = state.timestamps.startedEpoch)
    (hupdated : state'.timestamps.updatedEpoch = now) : Stamped c r state' where
  created := hcreated.trans h.created
  created_started hne := by
    rw [hstarted] at hne ⊢
    exact h.created_started hne
  started_le := hstarted ▸ h.started_le
  started_updated := by
    rw [hstarted, hupdated]
    exact h.started_le.trans hr
  created_updated := hupdated ▸ hc

/-- The copy with which the run begins, stamped at two looks at the clock. -/
theorem stamped_transitionToRunning {now : TimestampSec} (h : Stamped c r state) (hc : c ≤ r)
    (hr : r ≤ now) : Stamped c now (touched now (transitionToRunning r state)) := by
  by_cases hzero : state.timestamps.startedEpoch = 0
  · have hstarted : (touched now (transitionToRunning r state)).timestamps.startedEpoch = r := by
      simp only [touched, transitionToRunning, hzero, if_true, touchTimestamp]
    have hcreated : (touched now (transitionToRunning r state)).timestamps.createdEpoch = c := by
      simp only [touched, transitionToRunning, hzero, if_true, touchTimestamp]
      exact h.created
    have hnow := hstarted.le.trans hr
    exact ⟨hcreated, fun _ => hc.trans hstarted.ge, hnow, hnow, hc.trans hr⟩
  · refine (h.update (hc.trans hr) hr ?_ ?_ rfl).mono hr
    · simp only [touched, transitionToRunning, if_neg hzero, touchTimestamp]
    · simp only [touched, transitionToRunning, if_neg hzero, touchTimestamp]

theorem finishedEpoch_transitionToRunning (now : TimestampSec) (state : OperationStateModel) :
    (touched now (transitionToRunning r state)).timestamps.finishedEpoch =
      state.timestamps.finishedEpoch := by
  unfold touched transitionToRunning
  dsimp only
  split <;> rfl

/-- A copy that is not terminal has no stamp of an end. -/
theorem finishStamped_of_open (hopen : isTerminalState state.state = false)
    (hzero : state.timestamps.finishedEpoch = 0) : FinishStamped state := by
  refine ⟨iff_of_false (fun hne => hne hzero) ?_, ?_⟩
  · rw [hopen]
    exact Bool.false_ne_true
  · intro hterminal
    rw [hopen] at hterminal
    cases hterminal

theorem FinishStamped.zero_of_open (h : FinishStamped state)
    (hopen : isTerminalState state.state = false) : state.timestamps.finishedEpoch = 0 := by
  by_contra hne
  have hterminal := h.finished_iff.mp hne
  rw [hopen] at hterminal
  cases hterminal

theorem finishStamped_of_terminal (h : Stamped c r state) (hr : 0 < r)
    (hterminal : isTerminalState state.state = true)
    (hfinished : state.timestamps.finishedEpoch = r) : FinishStamped state where
  finished_iff := iff_of_true (hfinished ▸ hr.ne') hterminal
  started_finished _ := hfinished ▸ h.started_le

end OperationStateModel

namespace OperationStore

/-- The copy that a `request_cancel` call is still to save. -/
def CancelCall.pending : CancelCall → Option OperationStateModel
  | touching state | saving state => some state
  | loading | returned _ => none

end OperationStore

namespace OperationWorld
open OperationStateModel
variable {κ : Type*} {w : OperationWorld κ} {c : TimestampSec}

/-- A copy in memory is stamped and has no stamp of an end. -/
def OpenStamped (c r : TimestampSec) (state : OperationStateModel) : Prop :=
  state.Stamped c r ∧ state.timestamps.finishedEpoch = 0

theorem OpenStamped.mono {r r' : TimestampSec} {st : OperationStateModel}
    (h : OpenStamped c r st) (hr : r ≤ r') : OpenStamped c r' st := ⟨h.1.mono hr, h.2⟩

theorem stamped_of_saves (hc : c ≤ w.epoch) (hpos : 0 < w.epoch) (hrunning : w.MemoryRunning)
    (hheld : ∀ st ∈ w.pc.held, OpenStamped c w.epoch st) {copy : OperationStateModel}
    (hcopy : w.pc.saves w.epoch = some copy) :
    copy.Stamped c w.epoch ∧ copy.FinishStamped := by
  have hkind := saves_state hrunning hcopy
  cases hpc : w.pc with
  | transitioned state | sized state =>
    rw [hpc] at hcopy hheld hkind
    obtain rfl := Option.some_inj.mp hcopy
    obtain ⟨hstamped, hzero⟩ := hheld state rfl
    refine ⟨hstamped, finishStamped_of_open ?_ hzero⟩
    rw [hkind]
    rfl
  | emptyScope state =>
    rw [hpc] at hcopy hheld hkind
    obtain rfl := Option.some_inj.mp hcopy
    have hstamped : (markCompleted w.epoch state 0).Stamped c w.epoch :=
      (hheld state rfl).1.update hc le_rfl rfl rfl rfl
    exact ⟨hstamped, finishStamped_of_terminal hstamped hpos hkind rfl⟩
  | finishing state =>
    rw [hpc] at hcopy hheld hkind
    obtain rfl := Option.some_inj.mp hcopy
    have hstamped : (terminalCopy w.epoch state).Stamped c w.epoch :=
      (hheld state rfl).1.update hc le_rfl rfl rfl rfl
    exact ⟨hstamped, finishStamped_of_terminal hstamped hpos hkind rfl⟩
  | closingSave why state =>
    rw [hpc] at hcopy hheld hkind
    obtain rfl := Option.some_inj.mp hcopy
    have hstamped : (closingCopy w.epoch state why).Stamped c w.epoch := by
      refine (hheld state rfl).1.update hc le_rfl ?_ ?_ ?_ <;> cases why <;> rfl
    refine ⟨hstamped, finishStamped_of_terminal hstamped hpos hkind ?_⟩
    cases why <;> rfl
  | loop l phase =>
    rw [hpc] at hcopy hheld hkind
    obtain ⟨hl, hzero⟩ := hheld l.state rfl
    cases phase with
    | retrying round =>
      obtain rfl := Option.some_inj.mp hcopy
      refine ⟨hl.update hc le_rfl rfl rfl rfl, finishStamped_of_open ?_ hzero⟩
      rw [hkind]
      rfl
    | persisting hd todo round =>
      cases todo with
      | nil =>
        obtain rfl := Option.some_inj.mp hcopy
        refine ⟨hl.update hc le_rfl rfl rfl rfl, finishStamped_of_open ?_ hzero⟩
        rw [hkind]
        rfl
      | cons => cases hcopy
    | _ => cases hcopy
  | _ =>
    rw [hpc] at hcopy
    cases hcopy

/-- What a save of a copy leaves in the file is stamped if the copy is. -/
theorem stamped_save {dir : OperationDir} {r : TimestampSec} {copy : OperationStateModel}
    (hfile : dir.state.Stamped c r ∧ dir.state.FinishStamped)
    (hcopy : copy.Stamped c r ∧ copy.FinishStamped) :
    (saveStateAtomic dir copy).state.Stamped c r ∧
      (saveStateAtomic dir copy).state.FinishStamped := by
  rcases saveStateAtomic_state dir copy with h | h
  · rw [h]
    exact hcopy
  · rw [h]
    exact hfile

/-- The copies that the runner holds after a step that is not its first. -/
theorem openStamped_runnerStep (mt : Option ServiceStatusCode) (done : List ℕ) (hs : w.Steady)
    (hc : c ≤ w.epoch) (hpos : 0 < w.epoch) (hfirst : w.pc ≠ .starting)
    (hfile : w.dir.state.Stamped c w.epoch ∧ w.dir.state.FinishStamped)
    (hheld : ∀ st ∈ w.pc.held, OpenStamped c w.epoch st) :
    ∀ st ∈ (w.runnerStep mt done).pc.held, OpenStamped c w.epoch st := by
  intro st hst
  cases hpc : w.pc with
  | starting => exact absurd hpc hfirst
  | loop l phase =>
    simp only [runnerStep, hpc] at hst
    rcases loopStep_held mt done l phase hpc st hst with rfl | hsaved
    · exact hheld l.state (by rw [hpc]; rfl)
    · -- what the loop saves is RUNNING like the copy it is made from
      obtain ⟨hstamped, hfinish⟩ := stamped_of_saves hc hpos hs.known.runner hheld hsaved
      refine ⟨hstamped, hfinish.zero_of_open ?_⟩
      rw [hpc] at hsaved
      rw [lifecycle_of_loop_saves hsaved, hs.known.runner l.state (by rw [hpc]; rfl)]
      rfl
  | closing =>
    -- the state it loads is not terminal, since the runner has not ended
    have hopen := hs.isOpen (by rw [hpc]; exact RunnerPc.noConfusion)
    simp only [runnerStep, hpc] at hst
    obtain rfl := Option.some_inj.mp hst
    exact ⟨hfile.1, hfile.2.zero_of_open hopen⟩
  | transitioned state =>
    have hstate := hheld state (by rw [hpc]; rfl)
    simp only [runnerStep, hpc] at hst
    split at hst
    · obtain rfl := Option.some_inj.mp hst
      exact hstate
    · obtain rfl := Option.some_inj.mp hst
      exact ⟨⟨hstate.1.created, hstate.1.created_started, hstate.1.started_le,
        hstate.1.started_updated, hstate.1.created_updated⟩, hstate.2⟩
  | sized state =>
    simp only [runnerStep, hpc] at hst
    obtain rfl := Option.some_inj.mp hst
    exact hheld state (by rw [hpc]; rfl)
  | preparing state =>
    simp only [runnerStep, hpc] at hst
    split at hst
    · cases hst
    · obtain rfl := Option.some_inj.mp hst
      exact hheld state (by rw [hpc]; rfl)
  | emptyScope | finishing | closingSave | ended =>
    simp only [runnerStep, hpc] at hst
    cases hst

end OperationWorld

namespace StampedWorld
open OperationStateModel OperationWorld
variable {κ : Type*} {s : StampedWorld κ} {c : TimestampSec}

/-- What a run keeps of the stamps in the file and in every copy of the state. -/
structure StampsKept (c : TimestampSec) (s : StampedWorld κ) : Prop where
  steady : s.world.Steady
  created_le : c ≤ s.previous
  previous_le : s.previous ≤ s.reading
  reading_le : s.reading ≤ s.world.epoch
  file : s.world.dir.state.Stamped c s.previous ∧ s.world.dir.state.FinishStamped
  loaded : ∀ st ∈ s.loaded, OpenStamped c s.previous st
  held : ∀ st ∈ s.world.pc.held, OpenStamped c s.previous st
  callers : ∀ k, ∀ st ∈ (s.world.calls k).pending, OpenStamped c s.previous st

/-- New readings can only be later. -/
theorem StampsKept.look (h : StampsKept c s) {previous reading : TimestampSec}
    (hprevious : s.previous ≤ previous) (hle : previous ≤ reading)
    (hreading : reading ≤ s.world.epoch) :
    StampsKept c { s with previous := previous, reading := reading } where
  steady := h.steady
  created_le := h.created_le.trans hprevious
  previous_le := hle
  reading_le := hreading
  file := ⟨h.file.1.mono hprevious, h.file.2⟩
  loaded st hst := (h.loaded st hst).mono hprevious
  held st hst := (h.held st hst).mono hprevious
  callers k st hst := (h.callers k st hst).mono hprevious

theorem runnerStep_later (mt : Option ServiceStatusCode) (done : List ℕ)
    (hlater : s.world.pc ≠ .starting) :
    s.runnerStep mt done =
      { world := { { s.world with epoch := s.reading }.runnerStep mt done with
          epoch := s.world.epoch }
        previous := s.world.epoch, reading := s.world.epoch, loaded := s.loaded } := by
  unfold runnerStep
  split
  next hpc _ => exact absurd hpc hlater
  next hpc _ => exact absurd hpc hlater
  next => rfl

theorem stampsKept_runnerStep (mt : Option ServiceStatusCode) (done : List ℕ) (hpos : 0 < c)
    (h : StampsKept c s) : StampsKept c (s.runnerStep mt done) := by
  have hle : s.previous ≤ s.world.epoch := h.previous_le.trans h.reading_le
  by_cases hpc : s.world.pc = .starting
  · have hsteady : ∀ pc : RunnerPc, (∀ st ∈ pc.memory, st.state = .running) →
        (s.world.goto pc).Steady := by
      intro pc hmem
      refine ⟨⟨hmem, h.steady.known.callers⟩, ?_⟩
      intro hterminal
      have hended := h.steady.terminal hterminal
      rw [hpc] at hended
      cases hended
    have hlook := h.look hle le_rfl le_rfl
    cases hloaded : s.loaded with
    | none =>
      -- the state it loads is not terminal, since the runner has not ended
      have hopen := h.steady.isOpen (by rw [hpc]; exact RunnerPc.noConfusion)
      simp only [runnerStep, hpc, hloaded]
      refine { hlook with loaded := ?_ }
      rintro st ⟨⟩
      exact ⟨hlook.file.1, h.file.2.zero_of_open hopen⟩
    | some state =>
      obtain ⟨hstamped, hzero⟩ := h.loaded state hloaded
      have hrunning := stamped_transitionToRunning hstamped h.created_le h.previous_le
      simp only [runnerStep, hpc, hloaded]
      refine ⟨hsteady _ ?_, hlook.created_le, le_rfl, le_rfl, hlook.file, ?_, ?_, hlook.callers⟩
      · rintro st ⟨⟩
        rfl
      · rintro st ⟨⟩
        exact hlook.loaded state hloaded
      · rintro st ⟨⟩
        exact ⟨hrunning.mono h.reading_le, (finishedEpoch_transitionToRunning _ _).trans hzero⟩
  · let w : OperationWorld κ := { s.world with epoch := s.reading }
    have hc : c ≤ w.epoch := h.created_le.trans h.previous_le
    have hw : w.Steady := ⟨⟨h.steady.known.runner, h.steady.known.callers⟩, h.steady.terminal⟩
    have hlook := h.look h.previous_le le_rfl h.reading_le
    have hafter : (w.runnerStep mt done).Steady :=
      ⟨⟨runnerStep_memory mt done hw.known.runner, by
        intro k updated hcall
        rw [runnerStep_calls] at hcall
        exact hw.known.callers k updated hcall⟩,
        runnerStep_terminal mt done hw.known.runner hw.terminal⟩
    have hfile : (w.runnerStep mt done).dir.state.Stamped c s.reading ∧
        (w.runnerStep mt done).dir.state.FinishStamped := by
      rw [runnerStep_state]
      cases hsaves : w.pc.saves w.epoch with
      | none => exact hlook.file
      | some copy =>
        exact stamped_save hlook.file
          (stamped_of_saves hc (hpos.trans_le hc) hw.known.runner hlook.held hsaves)
    have hheld := openStamped_runnerStep mt done hw hc (hpos.trans_le hc) hpc hlook.file hlook.held
    rw [runnerStep_later mt done hpc]
    exact
      { steady := ⟨⟨hafter.known.runner, hafter.known.callers⟩, hafter.terminal⟩
        created_le := h.created_le.trans hle
        previous_le := le_rfl
        reading_le := le_rfl
        file := ⟨hfile.1.mono h.reading_le, hfile.2⟩
        loaded := fun st hst => (h.loaded st hst).mono hle
        held := fun st hst => (hheld st hst).mono h.reading_le
        callers := by
          intro k st hst
          change st ∈ ((w.runnerStep mt done).calls k).pending at hst
          rw [runnerStep_calls] at hst
          exact (h.callers k st hst).mono hle }

variable [DecidableEq κ]

theorem stampsKept_cancel (caller : κ) (h : StampsKept c s) :
    StampsKept c { s with world := s.world.cancelStep caller } := by
  have hle : s.previous ≤ s.world.epoch := h.previous_le.trans h.reading_le
  have hsteady : (s.world.cancelStep caller).Steady := steady_step none (.cancel caller) h.steady
  -- the file keeps its stamps, and so does the copy that the caller then holds
  have hdir : (requestCancel s.world.epoch s.world.dir (s.world.calls caller)).2.state.Stamped c
        s.previous ∧
      (requestCancel s.world.epoch s.world.dir (s.world.calls caller)).2.state.FinishStamped ∧
      ∀ st ∈ (requestCancel s.world.epoch s.world.dir (s.world.calls caller)).1.pending,
        OpenStamped c s.previous st := by
    have hpending := h.callers caller
    cases hcall : s.world.calls caller with
    | loading =>
      rw [requestCancel]
      split
      next => exact ⟨h.file.1, h.file.2, fun st hst => by cases hst⟩
      next hopen =>
        refine ⟨h.file.1, h.file.2, ?_⟩
        rintro st ⟨⟩
        exact ⟨h.file.1, h.file.2.zero_of_open (Bool.not_eq_true _ ▸ hopen)⟩
    | touching state =>
      rw [hcall] at hpending
      obtain ⟨hstamped, hzero⟩ := hpending state rfl
      refine ⟨h.file.1, h.file.2, ?_⟩
      rintro st ⟨⟩
      exact ⟨hstamped.update (h.created_le.trans hle) hle rfl rfl rfl, hzero⟩
    | saving updated =>
      rw [hcall] at hpending
      obtain ⟨hstamped, hzero⟩ := hpending updated rfl
      have hkind := h.steady.known.callers caller updated hcall
      have hopen : isTerminalState updated.state = false := by
        rw [hkind]
        rfl
      have hsave := stamped_save h.file ⟨hstamped, finishStamped_of_open hopen hzero⟩
      exact ⟨hsave.1, hsave.2, fun st hst => by cases hst⟩
    | returned state => exact ⟨h.file.1, h.file.2, fun st hst => by cases hst⟩
  exact
    { h with
      steady := hsteady
      file := ⟨hdir.1, hdir.2.1⟩
      held := h.held
      callers := by
        intro k st hst
        by_cases hk : k = caller
        · rw [hk] at hst
          apply hdir.2.2
          simpa only [cancelStep, Function.update_self] using hst
        · apply h.callers k
          simpa only [cancelStep, Function.update_of_ne hk] using hst }

theorem stampsKept_step (mt : Option ServiceStatusCode) (hpos : 0 < c) (a : StampedAction κ)
    (ha : s.ClockForward a) (h : StampsKept c s) : StampsKept c (s.step mt a) := by
  cases a with
  | look => exact h.look h.previous_le h.reading_le le_rfl
  | flag caller =>
    simp only [step]
    split
    · exact { h with steady := ⟨⟨h.steady.known.runner, h.steady.known.callers⟩,
        h.steady.terminal⟩ }
    · exact h
  | act a =>
    have hsteady := steady_step mt a h.steady
    cases a with
    | run done => exact stampsKept_runnerStep mt done hpos h
    | cancel caller => exact stampsKept_cancel caller h
    | raise message =>
      obtain ⟨hsame, hnone⟩ := raiseAt_frame (w := s.world) message
      simp only [step, OperationWorld.step]
      refine { h with
        steady := hsteady, reading_le := ?_, file := ?_, held := ?_, callers := ?_ }
      · rw [show (s.world.raiseAt message).epoch = s.world.epoch by unfold raiseAt; split <;> rfl]
        exact h.reading_le
      · rw [hsame.dir]
        exact h.file
      · intro st hst
        rw [hnone] at hst
        cases hst
      · rw [hsame.calls]
        exact h.callers
    | setEpoch now => exact { h with steady := hsteady, reading_le := h.reading_le.trans ha }
    | start | finish | advance => exact { h with steady := hsteady }

/-- The file of a finished operation is not written again. -/
theorem state_step_of_terminal (mt : Option ServiceStatusCode) (a : StampedAction κ)
    (hs : s.world.Steady) (hterminal : isTerminalState s.world.lifecycle = true) :
    (s.step mt a).world.dir.state = s.world.dir.state := by
  have hended := hs.terminal hterminal
  cases a with
  | look => rfl
  | flag caller =>
    simp only [step]
    split <;> rfl
  | act a =>
    cases a with
    | run done =>
      simp only [step]
      rw [runnerStep_later mt done (by rw [hended]; exact RunnerPc.noConfusion)]
      simp only [OperationWorld.runnerStep, hended]
    | cancel caller =>
      rcases cancelStep_cases hs.known.callers caller with hkeep | ⟨updated, -, hopen, -⟩
      · exact hkeep
      · rw [hterminal] at hopen
        cases hopen
    | raise message => exact congrArg OperationDir.state (raiseAt_frame message).1.dir
    | _ => rfl

omit [DecidableEq κ] in
theorem stampsKept_created (operationId : PnmCaptureOperationId)
    (summary : OperationRequestSummaryModel) (clock : ℚ) (epoch : TimestampSec) :
    StampsKept epoch (created operationId summary clock epoch : StampedWorld κ) where
  steady := steady_created operationId summary clock epoch
  created_le := le_rfl
  previous_le := le_rfl
  reading_le := le_rfl
  file := ⟨⟨rfl, fun hne => absurd rfl hne, Nat.zero_le _, Nat.zero_le _, le_rfl⟩,
    finishStamped_of_open rfl rfl⟩
  loaded st hst := by cases hst
  held st hst := by cases hst
  callers k st hst := by cases hst

theorem stampsKept_exec (mt : Option ServiceStatusCode) (hpos : 0 < c)
    {as : List (StampedAction κ)} (hclock : Guarded (step mt) ClockForward s as)
    (h : StampsKept c s) : StampsKept c (exec (step mt) s as) :=
  invariant_of_guarded (I := StampsKept c) (fun _ a ha hs => stampsKept_step mt hpos a ha hs)
    hclock h

/-- With a clock that does not go back, the stamps in `state.json` are in order after every run:
the creation, the start, the last update. A finish is stamped if and only if the state is
terminal, not before the start, and the stamp stays as it is. The code takes 0 for no stamp, so
the clock has to be past it. -/
theorem operation_timestamps (mt : Option ServiceStatusCode) (operationId : PnmCaptureOperationId)
    (summary : OperationRequestSummaryModel) (clock : ℚ) (epoch : TimestampSec) (hpos : 0 < epoch)
    (as bs : List (StampedAction κ))
    (hclock : Guarded (step mt) ClockForward (created operationId summary clock epoch)
      (as ++ bs)) :
    let after (cs : List (StampedAction κ)) : OperationStateModel :=
      (exec (step mt) (created operationId summary clock epoch) cs).world.dir.state
    let stamps := (after as).timestamps
    (stamps.startedEpoch ≠ 0 → stamps.createdEpoch ≤ stamps.startedEpoch) ∧
    stamps.startedEpoch ≤ stamps.updatedEpoch ∧ stamps.createdEpoch ≤ stamps.updatedEpoch ∧
    (stamps.finishedEpoch ≠ 0 ↔ isTerminalState (after as).state = true) ∧
    (isTerminalState (after as).state = true →
      stamps.startedEpoch ≤ stamps.finishedEpoch ∧
      (after (as ++ bs)).timestamps.finishedEpoch = stamps.finishedEpoch) := by
  intro after stamps
  have hguard := guarded_append.mp hclock
  have hkept := stampsKept_exec mt hpos hguard.1
    (stampsKept_created (κ := κ) operationId summary clock epoch)
  have hstamped := hkept.file.1
  refine ⟨?_, hstamped.started_updated, ?_, hkept.file.2.finished_iff, ?_⟩
  · intro hstarted
    exact hstamped.created.trans_le (hstamped.created_started hstarted)
  · exact hstamped.created.trans_le hstamped.created_updated
  · intro hterminal
    refine ⟨hkept.file.2.started_finished hterminal, ?_⟩
    -- from here on every step keeps the state that is in the file
    let w := exec (step mt) (created operationId summary clock epoch) as
    have hsame := invariant_of_guarded
      (I := fun s' : StampedWorld κ =>
        StampsKept epoch s' ∧ s'.world.dir.state = w.world.dir.state)
      (fun s' a ha hs' => by
        have hterminal' : isTerminalState s'.world.lifecycle = true := by
          rw [lifecycle, hs'.2]
          exact hterminal
        exact ⟨stampsKept_step mt hpos a ha hs'.1,
          (state_step_of_terminal mt a hs'.1.steady hterminal').trans hs'.2⟩)
      hguard.2 ⟨hkept, rfl⟩
    change (after (as ++ bs)).timestamps.finishedEpoch = w.world.dir.state.timestamps.finishedEpoch
    simp only [after, exec_append]
    rw [hsame.2]

/-- A cancelled run of an operation with two modems, created at 10. The caller loads the state at
10, touches the flag, and looks at the clock at 12; the runner stamps the end at 15. -/
def cancelledAt15 : List (StampedAction Unit) :=
  let runner (n : ℕ) : List (StampedAction Unit) := List.replicate n (.act (.run []))
  runner 2 ++ [.act (.cancel ()), .flag (), .act (.setEpoch 12), .act (.cancel ())] ++ runner 3 ++
    [.act (.cancel ())] ++ runner 2 ++ [.act (.setEpoch 15), .look] ++ runner 2

/-- The clock goes on to 20 and a second look at the file finds the stamps as they were. -/
theorem stamps_of_cancelled :
    let s := exec (step none) (created "op" twoModems 0 10) cancelledAt15
    let later : List (StampedAction Unit) := [.act (.setEpoch 20), .act (.cancel ()), .look]
    let stamps := s.world.dir.state.timestamps
    s.world.lifecycle = .cancelled ∧ stamps.createdEpoch = 10 ∧ stamps.finishedEpoch = 15 ∧
      stamps.startedEpoch ≤ stamps.updatedEpoch ∧
      (exec (step none) (created "op" twoModems 0 10)
        (cancelledAt15 ++ later)).world.dir.state.timestamps.finishedEpoch =
          stamps.finishedEpoch := by
  intro s later stamps
  have hstamps := operation_timestamps (κ := Unit) none "op" twoModems 0 10
    (by decide) cancelledAt15
    later (by decide +kernel)
  exact ⟨by decide +kernel, by decide +kernel, by decide +kernel, hstamps.2.1,
    (hstamps.2.2.2.2 (by decide +kernel)).2⟩

end StampedWorld

end PypnmCmts
