import Mathlib.Data.List.Count
import PypnmCmts.OperationStateMachine
import PypnmCmts.ResultRecords

/-! The counters of finished items over whole runs. They follow the results the runner has
counted as long as no `request_cancel` call writes back counters older than those on disk. -/
namespace PypnmCmts

open LabelledRun OperationRunner OperationStore

/-- The counters that tell how many items are done, and how. -/
structure Tally where
  completed : ℕ
  success : ℕ
  failed : ℕ
deriving DecidableEq

def OperationCountersModel.tally (c : OperationCountersModel) : Tally :=
  ⟨c.completed, c.success, c.failed⟩

def HandledResult.succeeded (h : HandledResult) : Bool := finalStatusCode h.result = .success

/-- The tally that accounts for exactly the results in `finals`. -/
def tallyOf (finals : List HandledResult) : Tally :=
  ⟨finals.length, finals.countP (·.succeeded), finals.countP (!·.succeeded)⟩

theorem tallyOf_concat {finals : List HandledResult} {state : OperationStateModel}
    (h : state.counters.tally = tallyOf finals) (hd : HandledResult) :
    (updateCounters state hd.result).counters.tally = tallyOf (finals ++ [hd]) := by
  obtain ⟨hcompleted, hsuccess, hfailed, -⟩ := updateCounters_tally state hd.result
  have h1 : state.counters.completed = finals.length := congrArg Tally.completed h
  have h2 : state.counters.success = finals.countP (·.succeeded) := congrArg Tally.success h
  have h3 : state.counters.failed = finals.countP (!·.succeeded) := congrArg Tally.failed h
  rw [OperationCountersModel.tally, tallyOf, hcompleted, hsuccess, hfailed, h1, h2, h3]
  simp only [List.length_append, List.countP_append, List.countP_singleton, List.length_singleton,
    HandledResult.succeeded]
  by_cases hd' : finalStatusCode hd.result = .success <;> simp [hd']

/-- Every finished item is counted as a success or as a failure. -/
theorem tallyOf_completed (finals : List HandledResult) :
    (tallyOf finals).completed = (tallyOf finals).success+(tallyOf finals).failed := by
  have h := List.length_eq_countP_add_countP (fun hd : HandledResult => hd.succeeded) (l := finals)
  simpa only [tallyOf, Bool.not_eq_true, Bool.decide_eq_false] using h

namespace OperationWorld
variable {κ : Type*} {w : OperationWorld κ}

/-- A terminal state on disk means that the runner is done. -/
def TerminalEnded (w : OperationWorld κ) : Prop :=
  isTerminalState w.lifecycle = true → w.pc = .ended

/-- What every run keeps. -/
structure Steady (w : OperationWorld κ) : Prop where
  known : w.CopiesKnown
  terminal : w.TerminalEnded

/-- While the runner has something to do, the file takes every save. -/
theorem Steady.isOpen (h : w.Steady) (hpc : w.pc ≠ .ended) : isTerminalState w.lifecycle = false :=
  Bool.eq_false_iff.mpr fun hterminal => hpc (h.terminal hterminal)

structure Counted (w : OperationWorld κ) : Prop where
  file : w.dir.state.counters.tally = tallyOf w.finals
  held : ∀ st ∈ w.pc.held, st.counters.tally = tallyOf w.finals

theorem save_tally {dir : OperationDir} {state : OperationStateModel} {t : Tally}
    (hfile : dir.state.counters.tally = t) (hstate : state.counters.tally = t) :
    (saveStateAtomic dir state).state.counters.tally = t := by
  rcases saveStateAtomic_state dir state with h | h
  · rw [h]
    exact hstate
  · rw [h]
    exact hfile

/-- A terminal state is written by the last step of the runner only. -/
theorem runnerStep_terminal (mt : Option ServiceStatusCode) (done : List ℕ)
    (hrunning : w.MemoryRunning) (h : w.TerminalEnded) : (w.runnerStep mt done).TerminalEnded := by
  intro hterminal
  rw [lifecycle, runnerStep_state] at hterminal
  cases hsaves : w.pc.saves w.epoch with
  | none =>
    rw [hsaves] at hterminal
    have hended := h hterminal
    rw [runnerStep, hended]
    exact hended
  | some copy =>
    rw [hsaves] at hterminal
    have hkind := saves_state hrunning hsaves
    by_cases hopen : isTerminalState w.lifecycle = true
    · rw [h hopen] at hsaves
      cases hsaves
    · rw [Bool.not_eq_true] at hopen
      change isTerminalState (saveStateAtomic w.dir copy).state.state = true at hterminal
      rw [saveStateAtomic_open hopen] at hterminal
      by_cases hprogress : w.pc.savesProgress = true
      · rw [if_pos hprogress] at hkind
        rw [hkind] at hterminal
        cases hterminal
      · -- the saves that are no progress saves are the terminal ones
        cases hpc : w.pc with
        | emptyScope | finishing | closingSave =>
          simp only [runnerStep, hpc]
          rfl
        | transitioned | sized =>
          rw [hpc] at hprogress
          exact absurd rfl hprogress
        | loop l phase =>
          rw [hpc] at hprogress hsaves
          cases phase with
          | retrying => exact absurd rfl hprogress
          | persisting hd todo round =>
            cases todo with
            | nil => exact absurd rfl hprogress
            | cons => cases hsaves
          | _ => cases hsaves
        | _ =>
          rw [hpc] at hsaves
          cases hsaves

/-- One step of the loop counts the result it finishes, and nothing else. -/
theorem loopStep_counted (mt : Option ServiceStatusCode) (done : List ℕ) (l : LoopVars)
    (phase : LoopPhase) (hpc : w.pc = .loop l phase)
    (hfile : w.dir.state.counters.tally = tallyOf w.finals)
    (hl : l.state.counters.tally = tallyOf w.finals)
    (hopen : isTerminalState w.lifecycle = false) :
    let w' := w.loopStep mt done l phase
    w'.dir.state.counters.tally = tallyOf w'.finals ∧
      ∀ st ∈ w'.pc.held, st.counters.tally = tallyOf w'.finals := by
  cases phase with
  | retrying round =>
    have hsame := sameStore_afterResult (w := w.save (touched w.epoch l.state))
      { l with state := touched w.epoch l.state } round
    simp only [loopStep]
    rw [hsame.dir, hsame.finals]
    refine ⟨save_tally hfile hl, ?_⟩
    intro st hst
    rw [afterResult_held _ _ st hst]
    exact hl
  | persisting hd todo round =>
    cases todo with
    | nil =>
      have hcounted := tallyOf_concat hl hd
      have hsame := sameStore_afterResult
        (w := { w.save (countedCopy w.epoch l hd) with finals := w.finals ++ [hd] })
        { l with state := countedCopy w.epoch l hd } round
      simp only [loopStep]
      rw [hsame.dir, hsame.finals]
      refine ⟨?_, ?_⟩
      · -- the file is not terminal, so the save is not refused
        change (saveStateAtomic w.dir _).state.counters.tally = _
        rw [saveStateAtomic_open hopen]
        exact hcounted
      · intro st hst
        rw [afterResult_held _ _ st hst]
        exact hcounted
    | cons stage todo =>
      refine ⟨hfile, ?_⟩
      rintro st ⟨⟩
      exact hl
  | _ =>
    obtain ⟨hsame, hheld⟩ := loopStep_local mt done l rfl hpc
    simp only
    rw [hsame.dir, hsame.finals]
    refine ⟨hfile, ?_⟩
    intro st hst
    rw [hheld st hst]
    exact hl

theorem runnerStep_counted (mt : Option ServiceStatusCode) (done : List ℕ) (hs : w.Steady)
    (h : w.Counted) :
    let w' := w.runnerStep mt done
    w'.dir.state.counters.tally = tallyOf w'.finals ∧
      ∀ st ∈ w'.pc.held, st.counters.tally = tallyOf w'.finals := by
  cases hpc : w.pc with
  | loop l phase =>
    have hl := h.held l.state (by rw [hpc]; rfl)
    have hopen := hs.isOpen (by rw [hpc]; exact RunnerPc.noConfusion)
    have hloop := loopStep_counted mt done l phase hpc h.file hl hopen
    simp only [runnerStep, hpc]
    exact hloop
  | starting =>
    simp only [runnerStep, hpc]
    refine ⟨h.file, ?_⟩
    rintro st ⟨⟩
    exact h.file
  | transitioned state =>
    have hstate := h.held state (by rw [hpc]; rfl)
    have hsaved := save_tally h.file hstate
    simp only [runnerStep, hpc]
    split
    · refine ⟨hsaved, ?_⟩
      rintro st ⟨⟩
      exact hstate
    · refine ⟨hsaved, ?_⟩
      rintro st ⟨⟩
      exact hstate
  | sized state =>
    have hstate := h.held state (by rw [hpc]; rfl)
    simp only [runnerStep, hpc]
    refine ⟨save_tally h.file hstate, ?_⟩
    rintro st ⟨⟩
    exact hstate
  | preparing state =>
    have hstate := h.held state (by rw [hpc]; rfl)
    simp only [runnerStep, hpc]
    split
    · exact ⟨h.file, fun st hst => by cases hst⟩
    · refine ⟨h.file, ?_⟩
      rintro st ⟨⟩
      exact hstate
  | emptyScope state =>
    have hstate := h.held state (by rw [hpc]; rfl)
    simp only [runnerStep, hpc]
    exact ⟨save_tally h.file hstate, fun st hst => by cases hst⟩
  | finishing state =>
    have hstate := h.held state (by rw [hpc]; rfl)
    simp only [runnerStep, hpc]
    exact ⟨save_tally h.file hstate, fun st hst => by cases hst⟩
  | closing why =>
    simp only [runnerStep, hpc]
    refine ⟨h.file, ?_⟩
    rintro st ⟨⟩
    exact h.file
  | closingSave why state =>
    have hstate := h.held state (by rw [hpc]; rfl)
    simp only [runnerStep, hpc]
    refine ⟨save_tally h.file ?_, fun st hst => by cases hst⟩
    -- the closing state differs in its text only
    cases why <;> exact hstate
  | ended =>
    simp only [runnerStep, hpc]
    exact ⟨h.file, fun st hst => by cases hst⟩

variable [DecidableEq κ]

theorem steady_step (mt : Option ServiceStatusCode) (a : OperationAction κ) (h : w.Steady) :
    (w.step mt a).Steady := by
  refine ⟨⟨step_memory mt a h.known.runner, step_callers mt a h.known.callers⟩, ?_⟩
  cases a with
  | run done => exact runnerStep_terminal mt done h.known.runner h.terminal
  | raise message =>
    intro hterminal
    change isTerminalState (w.raiseAt message).dir.state.state = true at hterminal
    rw [(raiseAt_frame message).1.dir] at hterminal
    have hended := h.terminal hterminal
    simp only [step, raiseAt, hended, goto_pc]
  | cancel caller =>
    intro hterminal
    change isTerminalState (w.cancelStep caller).dir.state.state = true at hterminal
    rcases cancelStep_cases h.known.callers caller with hkeep | ⟨updated, hcall, -, hput⟩
    · rw [hkeep] at hterminal
      exact h.terminal hterminal
    · -- a caller's copy is CANCELLING
      rw [hput, h.known.callers caller updated hcall] at hterminal
      cases hterminal
  | _ => exact h.terminal

omit [DecidableEq κ] in
theorem steady_created (operationId : PnmCaptureOperationId)
    (summary : OperationRequestSummaryModel) (clock : ℚ) (epoch : TimestampSec) :
    (created operationId summary clock epoch : OperationWorld κ).Steady where
  known := copiesKnown_initial _ _ _
  terminal h := by cases h

theorem steady_exec (mt : Option ServiceStatusCode) (h : w.Steady)
    (as : List (OperationAction κ)) : (exec (step mt) w as).Steady :=
  invariant_of_step (I := Steady) (fun _ a hw => steady_step mt a hw) as h

/-- A caller's save is refused, or it writes back the tally that is in the file already. -/
def writesBackCurrent (w : OperationWorld κ) : OperationAction κ → Bool
  | .cancel caller =>
    match w.calls caller with
    | .saving updated =>
      isTerminalState w.lifecycle || updated.counters.tally = w.dir.state.counters.tally
    | _ => true
  | _ => true

theorem counted_step (mt : Option ServiceStatusCode) (a : OperationAction κ) (hs : w.Steady)
    (h : w.Counted) (ha : w.writesBackCurrent a = true) : (w.step mt a).Counted := by
  cases a with
  | run done =>
    obtain ⟨hfile, hheld⟩ := runnerStep_counted mt done hs h
    exact ⟨hfile, hheld⟩
  | raise message =>
    obtain ⟨hsame, hheld⟩ := raiseAt_frame (w := w) message
    refine ⟨?_, ?_⟩
    · change (w.raiseAt message).dir.state.counters.tally = tallyOf (w.raiseAt message).finals
      rw [hsame.dir, hsame.finals]
      exact h.file
    · intro st hst
      change st ∈ (w.raiseAt message).pc.held at hst
      rw [hheld] at hst
      cases hst
  | cancel caller =>
    refine ⟨?_, h.held⟩
    change (w.cancelStep caller).dir.state.counters.tally = tallyOf w.finals
    rcases cancelStep_cases hs.known.callers caller with hkeep | ⟨updated, hcall, hopen, hput⟩
    · rw [hkeep]
      exact h.file
    · simp only [writesBackCurrent, hcall, hopen, Bool.false_or, decide_eq_true_eq] at ha
      rw [hput, ha]
      exact h.file
  | _ => exact ⟨h.file, h.held⟩

/-- A save that writes back an older tally makes the file wrong at once. -/
theorem writesBackCurrent_of_counted (mt : Option ServiceStatusCode) (a : OperationAction κ)
    (hbefore : w.dir.state.counters.tally = tallyOf w.finals)
    (hafter : (w.step mt a).dir.state.counters.tally = tallyOf (w.step mt a).finals) :
    w.writesBackCurrent a = true := by
  cases a with
  | cancel caller =>
    simp only [writesBackCurrent]
    split
    next updated hcall =>
      by_cases hterminal : isTerminalState w.lifecycle = true
      · rw [hterminal, Bool.true_or]
      · rw [Bool.not_eq_true] at hterminal
        have hput : (w.cancelStep caller).dir.state = updated := by
          rw [cancelStep_state, saved, hcall]
          exact saveStateAtomic_open hterminal updated
        change (w.cancelStep caller).dir.state.counters.tally = tallyOf w.finals at hafter
        rw [hput, ← hbefore] at hafter
        rw [hafter, decide_eq_true rfl, Bool.or_true]
    next => rfl
  | _ => rfl

/-- The counters on disk account for exactly the counted results, in every state of a run, if and
only if no `request_cancel` call writes back older ones; the result files of a finished run
hold exactly the records of these results. -/
theorem progress_counters_account (mt : Option ServiceStatusCode)
    (operationId : PnmCaptureOperationId) (summary : OperationRequestSummaryModel) (clock : ℚ)
    (epoch : TimestampSec) (as : List (OperationAction κ)) :
    let start : OperationWorld κ := created operationId summary clock epoch
    let after (bs : List (OperationAction κ)) := exec (step mt) start bs
    ((∀ bs, bs <+: as → (after bs).dir.state.counters.tally = tallyOf (after bs).finals) ↔
      Guarded (step mt) (fun w a => w.writesBackCurrent a = true) start as) ∧
    ((∀ a ∈ as, a.raises = false) → isTerminalState (after as).lifecycle = true →
      ∀ sg, (after as).dir.results sg =
        ((after as).finals.flatMap (·.records operationId)).filter fun r => r.sgId = sg) := by
  intro start after
  have hstart : start.Steady := steady_created operationId summary clock epoch
  have hsteady (bs) : (after bs).Steady := steady_exec mt hstart bs
  refine ⟨⟨?_, ?_⟩, ?_⟩
  · intro hcounted
    rw [guarded_iff]
    rintro bs a cs rfl
    have hprefix : bs ++ [a] <+: bs ++ a :: cs :=
      ⟨cs, by rw [List.append_assoc, List.singleton_append]⟩
    have hafter := hcounted (bs ++ [a]) hprefix
    simp only [after, exec_concat] at hafter
    exact writesBackCurrent_of_counted mt a
      (hcounted bs ((List.prefix_append bs [a]).trans hprefix)) hafter
  · rintro hguard bs ⟨cs, rfl⟩
    have hinv := invariant_of_guarded (I := fun w : OperationWorld κ => w.Steady ∧ w.Counted)
      (fun w a ha hw => ⟨steady_step mt a hw.1, counted_step mt a hw.1 hw.2 ha⟩)
      (guarded_append.mp hguard).1 ⟨hstart, ⟨rfl, fun st hst => by cases hst⟩⟩
    exact hinv.2.file
  · intro hquiet hterminal sg
    have hrecorded := (recorded_exec mt clock epoch hquiet :
      (after as).Recorded operationId).results sg
    have hended := (hsteady as).terminal hterminal
    rw [hended] at hrecorded
    simpa only [RunnerPc.partialRecords, List.append_nil] using hrecorded

/-- Two MAC addresses, one worker. The first modem succeeds while a cancel call is between its
load and its save; the runner then sees the flag. -/
def cancelRace (saveFirst : Bool) : List (OperationAction Unit) :=
  let steps (n : ℕ) : List (OperationAction Unit) := List.replicate n (.run [])
  let requested : List (OperationAction Unit) := [.cancel (), .cancel ()]
  let success : OperationWorkerResultModel := ⟨none, buildStageResults .success "" 0 0 false none⟩
  steps 9 ++ [.cancel ()] ++ (if saveFirst then requested else []) ++
    [.start 0, .finish 0 (.result success), .run [0]] ++ steps 7 ++
    (if saveFirst then [] else requested) ++ steps 4

def twoModems : OperationRequestSummaryModel where
  servingGroupIds := [7]
  macAddresses := ["first", "second"]
  execution := { maxWorkers := 1, perModemTimeoutSeconds := 5, overallTimeoutSeconds := 100 }

/-- The cancelled operation has counted one result, but its state file says none. -/
theorem cancel_loses_progress :
    let w := exec (step none) (created "op" twoModems 0 0) (cancelRace false)
    w.lifecycle = .cancelled ∧ w.finals.length = 1 ∧ (w.dir.results 7).length = 3 ∧
      w.dir.state.counters.completed = 0 ∧ w.dir.state.counters.success = 0 := by
  decide +kernel

/-- With its save before the result, the cancel keeps the counters right. -/
theorem cancel_keeps_progress :
    let w := exec (step none) (created "op" twoModems 0 0) (cancelRace true)
    w.lifecycle = .cancelled ∧ w.finals.length = 1 ∧ w.dir.state.counters.tally =
      tallyOf w.finals := by
  refine ⟨by decide +kernel, by decide +kernel, ?_⟩
  have hguard : Guarded (step none) (fun w a => w.writesBackCurrent a = true)
      (created "op" twoModems 0 0) (cancelRace true) := by decide +kernel
  exact ((progress_counters_account none "op" twoModems 0 0 (cancelRace true)).1.mpr hguard) _
    List.prefix_rfl

end OperationWorld
end PypnmCmts
