import PypnmCmts.RunnerAccounting

/-! The last attempt at each work item. What the runner has in hand or has counted for an item is
the result of its last submission. -/
namespace PypnmCmts

open AttemptLedger LabelledRun OperationRunner OperationStore

/-- `f` is the last submission of the work item at index `i`. -/
def LastAttempt (submitted : List QueuedItem) (i f : ℕ) : Prop :=
  (submitted.map QueuedItem.index)[f]? = some i ∧
    ∀ g < submitted.length, (submitted.map QueuedItem.index)[g]? = some i → g ≤ f

instance (submitted : List QueuedItem) (i f : ℕ) : Decidable (LastAttempt submitted i f) :=
  inferInstanceAs (Decidable (_ ∧ ∀ g < submitted.length, _ → _))

namespace LastAttempt
variable {submitted : List QueuedItem} {q : QueuedItem} {i f g : ℕ}

theorem lt (h : LastAttempt submitted i f) : f < submitted.length := by
  have hget := List.getElem?_eq_some_iff.mp h.1
  obtain ⟨hlt, -⟩ := hget
  rwa [List.length_map] at hlt

theorem unique (hf : LastAttempt submitted i f) (hg : LastAttempt submitted i g) : f = g :=
  Nat.le_antisymm (hg.2 f hf.lt hf.1) (hf.2 g hg.lt hg.1)

/-- The submission of another item leaves the last attempt at `i` what it was. -/
theorem append (h : LastAttempt submitted i f) (hne : q.index ≠ i) :
    LastAttempt (submitted ++ [q]) i f := by
  have hlength : f < (submitted.map QueuedItem.index).length := by
    rw [List.length_map]
    exact h.lt
  refine ⟨?_, ?_⟩
  · rw [List.map_append, List.getElem?_append_left hlength]
    exact h.1
  · intro g hg hget
    rw [List.length_append, List.length_singleton] at hg
    rw [List.map_append] at hget
    by_cases hold : g < submitted.length
    · rw [List.getElem?_append_left (by rwa [List.length_map])] at hget
      exact h.2 g hold hget
    · -- the new submission is of another item
      have hnew : g = (submitted.map QueuedItem.index).length := by
        rw [List.length_map]
        omega
      rw [hnew, List.map_singleton, List.getElem?_concat_length] at hget
      exact absurd (Option.some_inj.mp hget) hne

theorem concat (submitted : List QueuedItem) (q : QueuedItem) :
    LastAttempt (submitted ++ [q]) q.index submitted.length := by
  refine ⟨?_, ?_⟩
  · have hget := List.getElem?_concat_length (l := submitted.map QueuedItem.index) (a := q.index)
    rw [List.length_map] at hget
    rw [List.map_append, List.map_singleton]
    exact hget
  · intro g hg _
    rw [List.length_append, List.length_singleton] at hg
    omega

end LastAttempt

/-- The runner's latest word on an item is about its last submission. A submission that is no
longer pending has been handled, and counted if it was a success. -/
structure AttemptsPlaced (log : RunLog) (pending : FutureDict) (hand : List HandledResult) :
    Prop where
  pending_last : ∀ f entry, (f, entry) ∈ pending.entries →
    LastAttempt log.submitted entry.queued.index f
  settled_last : ∀ h ∈ hand ++ log.finals, LastAttempt log.submitted h.queued.index h.future
  placed : ∀ f < log.submitted.length, f ∈ pending.keys ∨
    ∃ h ∈ log.handled, h.future = f ∧ (h.succeeded = true → h ∈ hand ++ log.finals)

/-- An item that waits for its next attempt has none in flight, in hand or counted. -/
theorem LoopAccount.index_ne {mt : Option ServiceStatusCode} {operationId : PnmCaptureOperationId}
    {summary : OperationRequestSummaryModel} {log : RunLog} {l : LoopVars}
    {hand : List HandledResult} {timedOut : List ℕ}
    (ha : LoopAccount mt operationId summary log l hand timedOut) {q u : QueuedItem}
    (hq : q ∈ l.waiting) (hu : u ∈ l.active hand log.finals) : q.index ≠ u.index := by
  intro heq
  have hwaiting : 0 < located QueuedItem.index u.index l.waiting :=
    List.countP_pos_iff.mpr ⟨q, hq, decide_eq_true heq⟩
  have hactive : 0 < located QueuedItem.index u.index (l.active hand log.finals) :=
    List.countP_pos_iff.mpr ⟨u, hu, decide_eq_true rfl⟩
  have honce := ha.ledger.once u.index
  have hle := List.nodup_iff_count_le_one.mp (List.nodup_range (n := summary.macAddresses.length))
    u.index
  omega

/-- An item of the loop is one of the request. -/
theorem LoopAccount.index_lt {mt : Option ServiceStatusCode} {operationId : PnmCaptureOperationId}
    {summary : OperationRequestSummaryModel} {log : RunLog} {l : LoopVars}
    {hand : List HandledResult} {timedOut : List ℕ}
    (ha : LoopAccount mt operationId summary log l hand timedOut) {q : QueuedItem}
    (hq : q ∈ l.waiting ++ l.active hand log.finals) : q.index < summary.macAddresses.length := by
  have hlocated : 0 < located QueuedItem.index q.index (l.waiting ++ l.active hand log.finals) :=
    List.countP_pos_iff.mpr ⟨q, hq, decide_eq_true rfl⟩
  rw [located_append, ha.ledger.once q.index] at hlocated
  exact List.mem_range.mp (List.count_pos_iff.mp hlocated)

theorem LoopVars.mem_active_pending {l : LoopVars} {hand finals : List HandledResult} {f : ℕ}
    {entry : InFlight} (h : (f, entry) ∈ l.pending.entries) : entry.queued ∈ l.active hand finals :=
  List.mem_append_left _ (List.mem_map.mpr ⟨(f, entry), h, rfl⟩)

theorem LoopVars.mem_active_settled {l : LoopVars} {hand finals : List HandledResult}
    {h : HandledResult} (hmem : h ∈ hand ++ finals) : h.queued ∈ l.active hand finals :=
  List.mem_append_right _ (List.mem_map_of_mem hmem)

namespace AttemptsPlaced
variable {mt : Option ServiceStatusCode} {operationId : PnmCaptureOperationId}
  {summary : OperationRequestSummaryModel} {log : RunLog} {pending : FutureDict}
  {hand : List HandledResult} {h : HandledResult}

/-- A submission is the last one of its item, and pending. -/
theorem submit {l : LoopVars} {timedOut : List ℕ} {q : QueuedItem} {rest : List QueuedItem}
    (hp : AttemptsPlaced log l.pending [])
    (ha : LoopAccount mt operationId summary log l [] timedOut)
    (hqueue : l.queue = q :: rest) (clock : ℚ) :
    AttemptsPlaced { log with submitted := log.submitted ++ [q] }
      (l.pending.insert log.submitted.length ⟨q, clock⟩) [] := by
  -- the number of a future is the number of submissions before it
  have hnew : log.submitted.length ∉ l.pending.keys :=
    fun hmem => absurd (ha.pending_unhandled _ hmem).1 (Nat.lt_irrefl _)
  have hwaiting : q ∈ l.waiting := by
    rw [LoopVars.waiting, hqueue]
    exact List.mem_append_left _ List.mem_cons_self
  refine ⟨?_, ?_, ?_⟩
  · intro f entry hmem
    rw [OrderedDict.entries_insert hnew, List.mem_append, List.mem_singleton] at hmem
    rcases hmem with hmem | hmem
    -- the item of an older attempt in flight is not the one that waited
    · exact (hp.pending_last f entry hmem).append
        (ha.index_ne hwaiting (LoopVars.mem_active_pending hmem))
    · obtain ⟨rfl, rfl⟩ := Prod.mk.inj hmem
      exact LastAttempt.concat _ _
  · intro h hmem
    exact (hp.settled_last h hmem).append
      (ha.index_ne hwaiting (LoopVars.mem_active_settled hmem))
  · intro f hf
    rw [List.length_append, List.length_singleton] at hf
    rw [OrderedDict.keys_insert hnew, List.mem_append, List.mem_singleton]
    by_cases hold : f < log.submitted.length
    · rcases hp.placed f hold with hpending | hhandled
      · exact .inl (.inl hpending)
      · exact .inr hhandled
    · exact .inl (.inr (by omega))

/-- A pending submission comes into hand with its result. -/
theorem take {entry : InFlight} (hp : AttemptsPlaced log pending [])
    (hmem : (h.future, entry) ∈ pending.entries) (hqueued : h.queued = entry.queued) :
    AttemptsPlaced { log with handled := log.handled ++ [h] } (pending.erase h.future) [h] := by
  refine ⟨?_, ?_, ?_⟩
  · intro f e he
    exact hp.pending_last f e (List.mem_of_mem_filter he)
  · intro g hg
    rcases List.mem_append.mp hg with hg | hg
    · rw [List.mem_singleton.mp hg, hqueued]
      exact hp.pending_last _ _ hmem
    · exact hp.settled_last g hg
  · intro f hf
    rcases hp.placed f hf with hpending | ⟨g, hg, hgf, hcounted⟩
    · by_cases hthis : f = h.future
      · subst hthis
        exact .inr ⟨h, List.mem_append_right _ List.mem_cons_self, rfl,
          fun _ => List.mem_cons_self⟩
      · exact .inl (OrderedDict.mem_keys_erase.mpr ⟨hpending, hthis⟩)
    · exact .inr ⟨g, List.mem_append_left _ hg, hgf,
        fun hsucceeded => List.mem_append_right _ (hcounted hsucceeded)⟩

/-- A failure in hand is retried: nothing is counted. -/
theorem retry (hp : AttemptsPlaced log pending [h]) (hfail : h.succeeded = false) :
    AttemptsPlaced log pending [] := by
  refine ⟨hp.pending_last, ?_, ?_⟩
  · exact fun g hg => hp.settled_last g (List.mem_append_right _ hg)
  · intro f hf
    rcases hp.placed f hf with hpending | ⟨g, hg, hgf, hcounted⟩
    · exact .inl hpending
    · refine .inr ⟨g, hg, hgf, ?_⟩
      intro hsucceeded
      rcases List.mem_append.mp (hcounted hsucceeded) with hhand | hfinal
      · rw [List.mem_singleton.mp hhand, hfail] at hsucceeded
        cases hsucceeded
      · exact hfinal

/-- The result in hand is counted. -/
theorem count (hp : AttemptsPlaced log pending [h]) :
    AttemptsPlaced { log with finals := log.finals ++ [h] } pending [] := by
  have hmem {g : HandledResult} : g ∈ [h] ++ log.finals ↔ g ∈ [] ++ (log.finals ++ [h]) := by
    rw [List.nil_append, List.mem_append, List.mem_append, or_comm]
  refine ⟨hp.pending_last, ?_, ?_⟩
  · exact fun g hg => hp.settled_last g (hmem.mpr hg)
  · intro f hf
    rcases hp.placed f hf with hpending | ⟨g, hg, hgf, hcounted⟩
    · exact .inl hpending
    · exact .inr ⟨g, hg, hgf, fun hsucceeded => hmem.mp (hcounted hsucceeded)⟩

end AttemptsPlaced

/-- The runner's next step looks at the clock. -/
def RunnerPc.atDeadline : RunnerPc → Bool
  | loop _ .deadline => true
  | _ => false

namespace OperationWorld
variable {κ : Type*} {w : OperationWorld κ}

/-- Where the attempts of the items are, as far as the runner knows. -/
def Placed (w : OperationWorld κ) : Prop :=
  match w.pc with
  | .loop l phase => AttemptsPlaced w.log l.pending phase.hand
  | _ => ∀ h ∈ w.finals, LastAttempt w.submitted h.queued.index h.future

variable {mt : Option ServiceStatusCode} {operationId : PnmCaptureOperationId}
  {summary : OperationRequestSummaryModel}

theorem Placed.finals_last (h : w.Placed) (hd : HandledResult) (hmem : hd ∈ w.finals) :
    LastAttempt w.submitted hd.queued.index hd.future := by
  unfold Placed at h
  split at h
  · exact h.settled_last hd (List.mem_append_right _ hmem)
  · exact h hd hmem

/-- A runner that leaves the loop keeps what it has counted. -/
theorem placed_of_finals {w' : OperationWorld κ} (h : w.Placed)
    (hsubmitted : w'.submitted = w.submitted) (hfinals : w'.finals = w.finals)
    (hpc : ∀ l phase, w'.pc ≠ .loop l phase) : w'.Placed := by
  unfold Placed
  split
  next l phase heq => exact absurd heq (hpc l phase)
  next =>
    rw [hsubmitted, hfinals]
    exact h.finals_last

theorem placed_handleResult {l : LoopVars} {h : HandledResult} {round : Round}
    (hp : AttemptsPlaced { w.log with handled := w.log.handled ++ [h] } l.pending [h]) :
    (w.handleResult l h round).Placed := by
  by_cases hretry : finalStatusCode h.result ≠ .success ∧
      h.queued.item.attempt < l.execution.retryCount
  · rw [handleResult_retry w hretry.1 hretry.2]
    exact hp.retry (decide_eq_false hretry.1)
  · rw [handleResult_final w hretry]
    exact hp

theorem placed_dispatch {l : LoopVars} {round : Round} (hp : AttemptsPlaced w.log l.pending [])
    (hpc : w.pc = .loop l (.dispatch round)) : (w.dispatch mt l round).Placed := by
  have hw : w.Placed := by
    unfold Placed
    rw [hpc]
    exact hp
  have hcases := w.dispatched mt l round
  generalize w.dispatch mt l round = w' at hcases
  cases hcases
  case timedOut f rest entry htimed hfind =>
    apply placed_handleResult
    exact hp.take (h := ⟨f, entry.queued, timeoutResult mt w.epoch⟩) hfind rfl
  case resolved f rest entry result htimed hdone hlate hfind hresult =>
    apply placed_handleResult
    exact hp.take (h := ⟨f, entry.queued, result⟩) hfind rfl
  case blocked => exact hw
  case keyError | fatal =>
    refine placed_of_finals hw rfl rfl ?_
    intro l' phase' heq
    cases heq
  all_goals exact hp

theorem placed_afterResult {l : LoopVars} {round : Round}
    (hp : AttemptsPlaced w.log l.pending []) : (w.afterResult l round).Placed := by
  unfold afterResult
  split
  · exact fun h hmem => hp.settled_last h (List.mem_append_right _ hmem)
  · exact hp

theorem placed_loopStep (done : List ℕ) {l : LoopVars} {phase : LoopPhase}
    (hpc : w.pc = .loop l phase)
    (ha : LoopAccount mt operationId summary w.log l phase.hand phase.timedOut)
    (hp : AttemptsPlaced w.log l.pending phase.hand) : (w.loopStep mt done l phase).Placed := by
  have hfinals : ∀ h ∈ w.finals, LastAttempt w.submitted h.queued.index h.future :=
    fun h hmem => hp.settled_last h (List.mem_append_right _ hmem)
  cases phase with
  | head =>
    simp only [loopStep]
    split_ifs
    · exact hfinals
    · exact hfinals
    · exact hp
  | deadline =>
    simp only [loopStep]
    split_ifs
    · exact hfinals
    · exact hp
  -- no future is submitted or handled in the phases that only sort the queues
  | retries => exact hp
  | submitting =>
    simp only [loopStep]
    split
    next => exact hp
    next q rest hqueue =>
      split_ifs
      · exact hp.submit ha hqueue w.clock
      · exact hp
  | waiting =>
    simp only [loopStep]
    split_ifs <;> exact hp
  | scanning d now todo timedOut =>
    cases todo with
    | nil => exact hp
    | cons =>
      simp only [loopStep]
      split_ifs <;> exact hp
  | dispatch round => exact placed_dispatch hp hpc
  | retrying round => exact placed_afterResult (w := w.save _) hp
  | persisting h todo round =>
    cases todo with
    -- the result in hand is counted by the last save of its progress
    | nil => exact placed_afterResult (w := { w.save _ with finals := w.finals ++ [h] }) hp.count
    | cons => exact hp

theorem placed_runnerStep (done : List ℕ) (ha : w.Accounted mt operationId summary)
    (h : w.Placed) : (w.runnerStep mt done).Placed := by
  cases hpc : w.pc with
  | loop l phase =>
    have hp := h
    unfold Placed at hp
    simp only [hpc] at hp
    simp only [runnerStep, hpc]
    exact placed_loopStep done hpc (loopAccount_of_accounted ha hpc) hp
  | preparing state =>
    unfold Accounted at ha
    simp only [hpc] at ha
    simp only [runnerStep, hpc]
    split
    · exact h.finals_last
    · -- nothing has been submitted when the loop begins
      have hlog : ((w.goto (.loop (loopVars w.clock state) .head)).log) = ⟨[], [], []⟩ := ha.1
      unfold Placed
      simp only [goto_pc]
      rw [hlog]
      refine ⟨?_, ?_, ?_⟩
      · exact fun f entry hmem => absurd hmem List.not_mem_nil
      · exact fun g hmem => absurd hmem List.not_mem_nil
      · exact fun f hf => absurd hf (Nat.not_lt_zero f)
  | transitioned =>
    simp only [runnerStep, hpc]
    split <;> exact h.finals_last
  | ended =>
    simp only [runnerStep, hpc]
    exact h
  | _ =>
    simp only [runnerStep, hpc]
    exact h.finals_last

/-- The runner comes to the clock from the head of its loop, where something was left to do. -/
def LoopsForCause (w : OperationWorld κ) : Prop :=
  ∀ l, w.pc = .loop l .deadline → l.drained = false

theorem loopsForCause_of_pc {w' : OperationWorld κ} (h : w'.pc.atDeadline = false) :
    w'.LoopsForCause := by
  intro l hpc
  rw [hpc] at h
  cases h

theorem loopsForCause_handleResult (l : LoopVars) (h : HandledResult) (round : Round) :
    (w.handleResult l h round).LoopsForCause := by
  unfold handleResult
  dsimp only
  split <;> exact loopsForCause_of_pc rfl

theorem loopsForCause_afterResult (l : LoopVars) (round : Round) :
    (w.afterResult l round).LoopsForCause := by
  unfold afterResult
  split <;> exact loopsForCause_of_pc rfl

theorem loopsForCause_loopStep (done : List ℕ) {l : LoopVars} {phase : LoopPhase}
    (hpc : w.pc = .loop l phase) : (w.loopStep mt done l phase).LoopsForCause := by
  cases phase with
  | head =>
    simp only [loopStep]
    split_ifs with hdrained
    · exact loopsForCause_of_pc rfl
    · exact loopsForCause_of_pc rfl
    · -- going on from the head is the one step to the check of the deadline
      rintro l' ⟨⟩
      exact Bool.eq_false_iff.mpr hdrained
  | dispatch round =>
    change (w.dispatch mt l round).LoopsForCause
    have hcases := w.dispatched mt l round
    generalize w.dispatch mt l round = w' at hcases
    cases hcases
    case timedOut | resolved => exact loopsForCause_handleResult _ _ _
    case blocked =>
      apply loopsForCause_of_pc
      rw [hpc]
      rfl
    all_goals exact loopsForCause_of_pc rfl
  | retrying => exact loopsForCause_afterResult _ _
  | persisting h todo round =>
    cases todo with
    | nil => exact loopsForCause_afterResult _ _
    | cons => exact loopsForCause_of_pc rfl
  | scanning d now todo timedOut =>
    cases todo with
    | nil => exact loopsForCause_of_pc rfl
    | cons =>
      simp only [loopStep]
      split <;> exact loopsForCause_of_pc rfl
  | retries => exact loopsForCause_of_pc rfl
  | deadline | submitting | waiting =>
    simp only [loopStep]
    (repeat' split) <;> exact loopsForCause_of_pc rfl

theorem loopsForCause_runnerStep (done : List ℕ) : (w.runnerStep mt done).LoopsForCause := by
  cases hpc : w.pc with
  | loop l phase =>
    simp only [runnerStep, hpc]
    exact loopsForCause_loopStep done hpc
  | transitioned | preparing =>
    simp only [runnerStep, hpc]
    split <;> exact loopsForCause_of_pc rfl
  | ended =>
    simp only [runnerStep, hpc]
    apply loopsForCause_of_pc
    rw [hpc]
    rfl
  | _ =>
    simp only [runnerStep, hpc]
    exact loopsForCause_of_pc rfl

end OperationWorld
end PypnmCmts
