import PypnmCmts.AttemptLedger
import PypnmCmts.ProgressCounters

/-! Exactly-once accounting of the runner's loop: where the work items are, which futures have
been handled, and how many are in flight. -/
namespace PypnmCmts

open AttemptLedger LabelledRun OperationRunner OperationStore

/-- The ghosts of a run. -/
structure RunLog where
  submitted : List QueuedItem
  handled : List HandledResult
  finals : List HandledResult

def OperationWorld.log {κ : Type*} (w : OperationWorld κ) : RunLog :=
  ⟨w.submitted, w.handled, w.finals⟩

def QueuedItem.attempt (q : QueuedItem) : ℕ := q.item.attempt

/-- `q` is an attempt at the work item at its index. -/
def QueuedItem.IsOf (items : List OperationWorkItemModel) (q : QueuedItem) : Prop :=
  items[q.index]? = some { q.item with attempt := 0 }

namespace LoopVars

/-- The items whose next attempt is still to be submitted. -/
def waiting (l : LoopVars) : List QueuedItem := l.queue ++ l.retryQueue.map Prod.snd

def flying (l : LoopVars) : List QueuedItem := l.pending.entries.map fun e => e.2.queued

/-- The items whose last attempt is pending, in hand, or counted. -/
def active (l : LoopVars) (hand finals : List HandledResult) : List QueuedItem :=
  l.flying ++ (hand ++ finals).map (·.queued)

end LoopVars

namespace LoopPhase

/-- The result that `_handle_result` has in hand. -/
def hand : LoopPhase → List HandledResult
  | persisting h _ _ => [h]
  | _ => []

/-- The futures that are, or may still be found to be, timed out in this pass. -/
def timedOut : LoopPhase → List ℕ
  | scanning _ _ todo timedOut => timedOut ++ todo.map Prod.fst
  | dispatch round | retrying round | persisting _ _ round => round.timedOut
  | _ => []

end LoopPhase

section
variable (mt : Option ServiceStatusCode) (operationId : PnmCaptureOperationId)
  (summary : OperationRequestSummaryModel)

/-- The work items of the request. -/
def workItems : List OperationWorkItemModel :=
  buildWorkItems operationId summary.macAddresses summary.servingGroupIds

/-- The books of the loop. -/
structure LoopAccount (log : RunLog) (l : LoopVars) (hand : List HandledResult)
    (timedOut : List ℕ) : Prop where
  execution : l.execution = summary.execution
  total : l.state.counters.totalModems = summary.macAddresses.length
  ledger : Ledger QueuedItem.index QueuedItem.attempt (List.range summary.macAddresses.length)
    summary.execution.retryCount log.submitted l.waiting (l.active hand log.finals)
  submitted_isOf : ∀ q ∈ log.submitted, q.IsOf (workItems operationId summary)
  waiting_isOf : ∀ q ∈ l.waiting, q.IsOf (workItems operationId summary)
  active_isOf : ∀ q ∈ l.active hand log.finals, q.IsOf (workItems operationId summary)
  capacity : l.inFlight ≤ summary.execution.maxWorkers
  pending_unhandled : ∀ f ∈ l.pending.keys,
    f < log.submitted.length ∧ f ∉ log.handled.map (·.future)
  abandoned_handled : ∀ f ∈ l.abandoned.keys,
    ∃ h ∈ log.handled, h.future = f ∧ ∃ epoch, h.result = timeoutResult mt epoch
  handled_nodup : (log.handled.map (·.future)).Nodup
  handled_submitted : ∀ f ∈ log.handled.map (·.future), f < log.submitted.length
  finals_handled : (log.finals ++ hand).Sublist log.handled
  timedOut_nodup : timedOut.Nodup
  timedOut_pending : ∀ f ∈ timedOut, f ∈ l.pending.keys

end

namespace LoopAccount
variable {mt : Option ServiceStatusCode} {operationId : PnmCaptureOperationId}
  {summary : OperationRequestSummaryModel} {log : RunLog} {l : LoopVars} {h : HandledResult}
  {timedOut timedOut' : List ℕ}

/-- Fewer futures to time out. -/
theorem shrink {hand : List HandledResult}
    (ha : LoopAccount mt operationId summary log l hand timedOut)
    (hsub : timedOut'.Sublist timedOut) :
    LoopAccount mt operationId summary log l hand timedOut' :=
  { ha with
    timedOut_nodup := ha.timedOut_nodup.sublist hsub
    timedOut_pending := fun f hf => ha.timedOut_pending f (hsub.subset hf) }

/-- A progress save that counts nothing. -/
theorem restate {hand : List HandledResult}
    (ha : LoopAccount mt operationId summary log l hand timedOut) {state : OperationStateModel}
    (hstate : state.counters.totalModems = l.state.counters.totalModems) :
    LoopAccount mt operationId summary log { l with state := state } hand timedOut :=
  { ha with total := hstate.trans ha.total }

/-- Ready retries only change their queue. -/
theorem release {hand : List HandledResult}
    (ha : LoopAccount mt operationId summary log l hand timedOut) (now : ℚ) :
    LoopAccount mt operationId summary log (l.releaseRetries now) hand timedOut := by
  have hperm : l.waiting.Perm (l.releaseRetries now).waiting := by
    have hsort := List.perm_insertionSort (fun a b : ℚ × QueuedItem => a.1 ≤ b.1)
      (l.retryQueue.filter fun entry => entry.1 ≤ now)
    have hsplit : l.retryQueue.Perm ((l.retryQueue.filter fun entry => entry.1 ≤ now) ++
        l.retryQueue.filter fun entry => now < entry.1) := by
      have hpart := (List.filter_append_perm (fun entry : ℚ × QueuedItem => entry.1 ≤ now)
        l.retryQueue).symm
      simpa only [decide_not, ← not_le] using hpart
    have hmap := (hsplit.trans (hsort.symm.append_right _)).map Prod.snd
    rw [List.map_append] at hmap
    simp only [LoopVars.waiting, LoopVars.releaseRetries, List.append_assoc]
    exact hmap.append_left l.queue
  exact { ha with
    ledger := ha.ledger.perm hperm (List.Perm.refl _)
    waiting_isOf := fun q hq => ha.waiting_isOf q (hperm.mem_iff.mpr hq) }

/-- The next item of the queue is submitted as a new future. -/
theorem submit (ha : LoopAccount mt operationId summary log l [] timedOut) {q : QueuedItem}
    {rest : List QueuedItem} (hqueue : l.queue = q :: rest) (clock : ℚ)
    (hroom : l.inFlight < l.execution.maxWorkers) :
    LoopAccount mt operationId summary { log with submitted := log.submitted ++ [q] }
      { l with queue := rest, pending := l.pending.insert log.submitted.length ⟨q, clock⟩ }
      [] timedOut := by
  -- a future's number is its place in the log of submissions, so the new one is fresh
  have hnew : log.submitted.length ∉ l.pending.keys :=
    fun hmem => absurd (ha.pending_unhandled _ hmem).1 (Nat.lt_irrefl _)
  have hwaiting : l.waiting = q :: (rest ++ l.retryQueue.map Prod.snd) := by
    rw [LoopVars.waiting, hqueue, List.cons_append]
  have hledger := ha.ledger
  rw [hwaiting] at hledger
  have hflying : ({ l with
      queue := rest, pending := l.pending.insert log.submitted.length ⟨q, clock⟩ } :
      LoopVars).flying = l.flying ++ [q] := by
    simp only [LoopVars.flying, OrderedDict.entries_insert hnew, List.map_append,
      List.map_singleton]
  have hactive : (q :: l.active [] log.finals).Perm (LoopVars.active { l with
      queue := rest, pending := l.pending.insert log.submitted.length ⟨q, clock⟩ }
      [] log.finals) := by
    rw [LoopVars.active, LoopVars.active, hflying, List.append_assoc]
    exact List.perm_middle.symm
  have hkeys := OrderedDict.keys_insert hnew (⟨q, clock⟩ : InFlight)
  have hq : q.IsOf (workItems operationId summary) := by
    apply ha.waiting_isOf q
    rw [hwaiting]
    exact List.mem_cons_self
  refine { ha with
    ledger := hledger.submit.perm (List.Perm.refl _) hactive
    submitted_isOf := ?_
    waiting_isOf := ?_
    active_isOf := ?_
    capacity := ?_
    pending_unhandled := ?_
    handled_submitted := ?_
    timedOut_pending := ?_ }
  · intro u hu
    rcases List.mem_append.mp hu with hu | hu
    · exact ha.submitted_isOf u hu
    · rw [List.mem_singleton.mp hu]
      exact hq
  · intro u hu
    apply ha.waiting_isOf u
    rw [hwaiting]
    exact List.mem_cons_of_mem _ hu
  · intro u hu
    rcases List.mem_cons.mp (hactive.mem_iff.mpr hu) with rfl | hu
    · exact hq
    · exact ha.active_isOf u hu
  · rw [ha.execution] at hroom
    simp only [LoopVars.inFlight, hkeys, List.length_append, List.length_singleton] at hroom ⊢
    omega
  · intro f hf
    rw [hkeys, List.mem_append, List.mem_singleton] at hf
    rw [List.length_append, List.length_singleton]
    rcases hf with hf | rfl
    · obtain ⟨hlt, hnot⟩ := ha.pending_unhandled f hf
      exact ⟨by omega, hnot⟩
    · refine ⟨by omega, ?_⟩
      intro hhandled
      exact absurd (ha.handled_submitted _ hhandled) (Nat.lt_irrefl _)
  · intro f hf
    have hlt := ha.handled_submitted f hf
    rw [List.length_append, List.length_singleton]
    omega
  · intro f hf
    rw [hkeys]
    exact List.mem_append_left _ (ha.timedOut_pending f hf)

/-- A pending future is taken out, and its item comes into hand with a result. -/
theorem take (ha : LoopAccount mt operationId summary log l [] timedOut) {entry : InFlight}
    (hmem : (h.future, entry) ∈ l.pending.entries) (hqueued : h.queued = entry.queued)
    (hnodup : timedOut'.Nodup) (hrest : ∀ f ∈ timedOut', f ∈ l.pending.keys ∧ f ≠ h.future) :
    LoopAccount mt operationId summary { log with handled := log.handled ++ [h] }
      { l with pending := l.pending.erase h.future } [h] timedOut' := by
  have hkey := OrderedDict.mem_keys_of_mem hmem
  obtain ⟨hsubmitted, hfresh⟩ := ha.pending_unhandled _ hkey
  -- the item leaves the pending futures and is in hand
  have hflying : l.flying.Perm (h.queued :: LoopVars.flying { l with
      pending := l.pending.erase h.future }) := by
    rw [hqueued]
    exact (OrderedDict.perm_cons_erase hmem).map fun e : ℕ × InFlight => e.2.queued
  have hactive : (l.active [] log.finals).Perm (LoopVars.active { l with
      pending := l.pending.erase h.future } [h] log.finals) := by
    rw [LoopVars.active, LoopVars.active, List.nil_append, List.singleton_append, List.map_cons]
    exact (hflying.append_right _).trans List.perm_middle.symm
  have hlength := OrderedDict.length_erase hkey
  refine { ha with
    ledger := ha.ledger.perm (List.Perm.refl _) hactive
    active_isOf := fun q hq => ha.active_isOf q (hactive.mem_iff.mpr hq)
    capacity := ?_
    pending_unhandled := ?_
    abandoned_handled := ?_
    handled_nodup := ?_
    handled_submitted := ?_
    finals_handled := ?_
    timedOut_nodup := hnodup
    timedOut_pending := fun f hf => OrderedDict.mem_keys_erase.mpr (hrest f hf) }
  · have hcapacity := ha.capacity
    simp only [LoopVars.inFlight] at hcapacity ⊢
    omega
  · intro f hf
    obtain ⟨hpending, hne⟩ := OrderedDict.mem_keys_erase.mp hf
    obtain ⟨hlt, hnot⟩ := ha.pending_unhandled f hpending
    refine ⟨hlt, ?_⟩
    rw [List.map_append, List.mem_append, List.map_singleton, List.mem_singleton]
    rintro (hf' | hf')
    · exact hnot hf'
    · exact hne hf'
  · intro f hf
    obtain ⟨g, hg, hgf⟩ := ha.abandoned_handled f hf
    exact ⟨g, List.mem_append_left _ hg, hgf⟩
  · rw [List.map_append, List.map_singleton, List.nodup_append]
    refine ⟨ha.handled_nodup, List.nodup_singleton _, ?_⟩
    intro f hf g hg
    rw [List.mem_singleton] at hg
    subst hg
    exact fun heq => hfresh (heq ▸ hf)
  · intro f hf
    rw [List.map_append, List.mem_append, List.map_singleton, List.mem_singleton] at hf
    rcases hf with hf | rfl
    · exact ha.handled_submitted f hf
    · exact hsubmitted
  · have hfinals := ha.finals_handled
    rw [List.append_nil] at hfinals
    exact hfinals.append (List.Sublist.refl [h])

/-- Taking a future out leaves room for one more. -/
theorem take_room (ha : LoopAccount mt operationId summary log l [] timedOut) {f : ℕ}
    (hkey : f ∈ l.pending.keys) :
    (l.pending.erase f).keys.length+l.abandoned.keys.length < summary.execution.maxWorkers := by
  have hcapacity := ha.capacity
  have hlength := OrderedDict.length_erase hkey
  simp only [LoopVars.inFlight] at hcapacity
  omega

/-- The future of a result in hand goes to the abandoned ones, if that is its timeout. -/
theorem abandon (ha : LoopAccount mt operationId summary log l [h] timedOut) (entry : InFlight)
    (hroom : l.inFlight < summary.execution.maxWorkers) (hnew : h.future ∉ l.abandoned.keys)
    {epoch : TimestampSec} (hresult : h.result = timeoutResult mt epoch) :
    LoopAccount mt operationId summary log
      { l with abandoned := l.abandoned.insert h.future entry } [h] timedOut := by
  have hkeys := OrderedDict.keys_insert hnew entry
  have hhandled : h ∈ log.handled :=
    ha.finals_handled.subset (List.mem_append_right _ List.mem_cons_self)
  refine { ha with
    capacity := ?_
    abandoned_handled := ?_ }
  · simp only [LoopVars.inFlight, hkeys, List.length_append, List.length_singleton] at hroom ⊢
    omega
  · intro f hf
    rw [hkeys, List.mem_append, List.mem_singleton] at hf
    rcases hf with hf | rfl
    · exact ha.abandoned_handled f hf
    · exact ⟨h, hhandled, rfl, epoch, hresult⟩

/-- The item in hand goes to the retry queue. -/
theorem retry (ha : LoopAccount mt operationId summary log l [h] timedOut) (readyAt : ℚ)
    (hleft : h.queued.item.attempt < summary.execution.retryCount) :
    LoopAccount mt operationId summary log
      { l with retryQueue := l.retryQueue ++ [(readyAt, h.queued.retry)] } [] timedOut := by
  have hactive : (l.active [h] log.finals).Perm (h.queued :: l.active [] log.finals) := by
    rw [LoopVars.active, LoopVars.active, List.singleton_append, List.map_cons, List.nil_append]
    exact List.perm_middle
  have hwaiting : (h.queued.retry :: l.waiting).Perm (LoopVars.waiting { l with
      retryQueue := l.retryQueue ++ [(readyAt, h.queued.retry)] }) := by
    rw [LoopVars.waiting, LoopVars.waiting, List.map_append, List.map_singleton,
      ← List.append_assoc]
    exact (List.perm_append_singleton _ _).symm
  have hledger := (ha.ledger.perm (List.Perm.refl _) hactive).retry
    (show QueuedItem.index h.queued.retry = QueuedItem.index h.queued from rfl) rfl hleft
  have hisOf : h.queued.IsOf (workItems operationId summary) :=
    ha.active_isOf _ (hactive.mem_iff.mpr List.mem_cons_self)
  have hfinals := ha.finals_handled
  refine { ha with
    ledger := hledger.perm hwaiting (List.Perm.refl _)
    waiting_isOf := ?_
    active_isOf := fun q hq => ha.active_isOf q (hactive.mem_iff.mpr (List.mem_cons_of_mem _ hq))
    finals_handled := ?_ }
  · intro q hq
    rcases List.mem_cons.mp (hwaiting.mem_iff.mpr hq) with rfl | hq
    · exact hisOf
    · exact ha.waiting_isOf q hq
  · rw [List.append_nil]
    exact (List.sublist_append_left _ _).trans hfinals

/-- An abandoned future that is done leaves the loop, with its late result. -/
theorem late (ha : LoopAccount mt operationId summary log l [] timedOut) {f : ℕ}
    (hkey : f ∈ l.abandoned.keys) :
    LoopAccount mt operationId summary log { l with abandoned := l.abandoned.erase f }
      [] timedOut := by
  have hlength := OrderedDict.length_erase hkey
  have hcapacity := ha.capacity
  refine { ha with
    capacity := ?_
    abandoned_handled := fun g hg => ha.abandoned_handled g (OrderedDict.mem_keys_erase.mp hg).1 }
  simp only [LoopVars.inFlight] at hcapacity ⊢
  omega

/-- The result in hand is counted. -/
theorem count (ha : LoopAccount mt operationId summary log l [h] timedOut)
    {state : OperationStateModel}
    (hstate : state.counters.totalModems = l.state.counters.totalModems) :
    LoopAccount mt operationId summary { log with finals := log.finals ++ [h] }
      { l with state := state } [] timedOut := by
  have hactive : (l.active [h] log.finals).Perm (l.active [] (log.finals ++ [h])) := by
    rw [LoopVars.active, LoopVars.active, List.nil_append]
    exact ((List.perm_append_comm).map _).append_left _
  have hfinals := ha.finals_handled
  exact { ha with
    total := hstate.trans ha.total
    ledger := ha.ledger.perm (List.Perm.refl _) hactive
    active_isOf := fun q hq => ha.active_isOf q (hactive.mem_iff.mpr hq)
    finals_handled := by rwa [List.append_nil] }

end LoopAccount

section
variable (operationId : PnmCaptureOperationId) (summary : OperationRequestSummaryModel)

/-- What has been submitted, handled and counted so far. -/
structure LogSound (log : RunLog) : Prop where
  /-- What is submitted and counted are attempts at the request's items. -/
  isOf : ∀ q ∈ log.submitted ++ log.finals.map (·.queued), q.IsOf (workItems operationId summary)
  submissions : ∀ i, (log.submitted.countP fun q => q.index = i) ≤ summary.execution.retryCount+1
  one_final : (log.finals.map (·.queued.index)).Nodup
  /-- A future is handled once, and only handled results are counted. -/
  handled_once : (log.handled.map (·.future)).Nodup
  finals_handled : log.finals.Sublist log.handled

/-- The loop has ended: every item has one counted result. -/
structure RunAccount (log : RunLog) : Prop where
  sound : LogSound operationId summary log
  all_final : (log.finals.map (·.queued.index)).Perm (List.range summary.macAddresses.length)

end

theorem logSound_empty {operationId : PnmCaptureOperationId}
    {summary : OperationRequestSummaryModel} {log : RunLog} (hlog : log = ⟨[], [], []⟩) :
    LogSound operationId summary log := by
  subst hlog
  exact ⟨fun q hq => absurd hq List.not_mem_nil, fun i => Nat.zero_le _, List.nodup_nil,
    List.nodup_nil, List.Sublist.refl _⟩

theorem map_index_finals (finals : List HandledResult) :
    (finals.map (·.queued)).map QueuedItem.index = finals.map (·.queued.index) := List.map_map

theorem LoopAccount.sound {mt : Option ServiceStatusCode} {operationId : PnmCaptureOperationId}
    {summary : OperationRequestSummaryModel} {log : RunLog} {l : LoopVars}
    {hand : List HandledResult} {timedOut : List ℕ}
    (ha : LoopAccount mt operationId summary log l hand timedOut) :
    LogSound operationId summary log where
  isOf q hq := by
    rcases List.mem_append.mp hq with hq | hq
    · exact ha.submitted_isOf q hq
    · apply ha.active_isOf q
      rw [LoopVars.active, List.map_append]
      exact List.mem_append_right _ (List.mem_append_right _ hq)
  submissions := ha.ledger.located_submitted_le List.nodup_range
  one_final := by
    have hnodup := ha.ledger.nodup_active List.nodup_range
    rw [LoopVars.active, List.map_append] at hnodup
    have hsub := (List.sublist_append_right hand log.finals).map (·.queued)
    have hfinals := (List.nodup_append.mp hnodup).2.1.sublist (hsub.map QueuedItem.index)
    rwa [map_index_finals] at hfinals
  handled_once := ha.handled_nodup
  finals_handled := (List.sublist_append_left _ _).trans ha.finals_handled

namespace OperationWorld
variable {κ : Type*} {w : OperationWorld κ} (mt : Option ServiceStatusCode)
  (operationId : PnmCaptureOperationId) (summary : OperationRequestSummaryModel)

/-- What the books say where the runner stands. -/
def Accounted (w : OperationWorld κ) : Prop :=
  match w.pc with
  | .starting | .transitioned _ => w.log = ⟨[], [], []⟩
  | .sized state | .preparing state =>
    w.log = ⟨[], [], []⟩ ∧ state.counters.totalModems = summary.macAddresses.length
  | .loop l phase => LoopAccount mt operationId summary w.log l phase.hand phase.timedOut
  | .finishing state =>
    RunAccount operationId summary w.log ∧ state.counters.totalModems = summary.macAddresses.length
  | .ended =>
    RunAccount operationId summary w.log ∧ isTerminalState w.lifecycle = true ∧
      w.dir.state.counters.totalModems = summary.macAddresses.length ∧
      (w.lifecycle = .completed → w.dir.state.counters.failed = 0)
  | .emptyScope _ | .closing _ | .closingSave _ _ => False

/-- The step is no exception, no cancel and no overall timeout. -/
def undisturbed (w : OperationWorld κ) : OperationAction κ → Bool
  | .run _ =>
    match w.pc with
    | .loop l .deadline => w.clock < l.overallDeadline
    | _ => true
  | .raise _ | .cancel _ => false
  | .finish _ outcome => outcome ≠ .fatal
  | .start _ | .advance _ | .setEpoch _ => true

/-- No worker call has ended in an exception that is no `Exception`. -/
def NoFatal (w : OperationWorld κ) : Prop := ∀ f, w.futures f ≠ .finished .fatal

variable {mt operationId summary}

/-- The only future that is done and lets its exception through is one that ended in a
`BaseException`. -/
theorem fatal_of_resolve {s : FutureState} {epoch : TimestampSec} (hdone : s.done = true)
    (hnone : s.resolve epoch = none) : s = .finished .fatal := by
  cases s with
  | pending | running => cases hdone
  | cancelled => cases hnone
  | finished outcome =>
    cases outcome with
    | fatal => rfl
    | result | exception => cases hnone

/-- A result comes into hand: its item is retried or its records are appended. -/
theorem accounted_handleResult {l : LoopVars} {h : HandledResult} {round : Round}
    (ha : LoopAccount mt operationId summary { w.log with handled := w.log.handled ++ [h] } l [h]
      round.timedOut) :
    (w.handleResult l h round).Accounted mt operationId summary := by
  by_cases hretry : finalStatusCode h.result ≠ .success ∧
      h.queued.item.attempt < l.execution.retryCount
  · rw [handleResult_retry w hretry.1 hretry.2]
    have hleft := hretry.2
    rw [ha.execution] at hleft
    exact ha.retry (w.clock+l.execution.retryDelaySeconds) hleft
  · rw [handleResult_final w hretry]
    exact ha

theorem accounted_dispatch {l : LoopVars} {round : Round}
    (ha : LoopAccount mt operationId summary w.log l [] round.timedOut)
    (halive : (w.dispatch mt l round).pc ≠ .ended) (hpc : w.pc = .loop l (.dispatch round)) :
    (w.dispatch mt l round).Accounted mt operationId summary := by
  have hcases := w.dispatched mt l round
  generalize w.dispatch mt l round = w' at hcases halive
  cases hcases
  case keyError f rest htimed hmiss =>
    -- a timed-out future is still pending
    exfalso
    apply hmiss
    apply ha.timedOut_pending
    rw [htimed]
    exact List.mem_cons_self
  case timedOut f rest entry htimed hfind =>
    have hkey := OrderedDict.mem_keys_of_mem hfind
    have hnodup := ha.timedOut_nodup
    rw [htimed, List.nodup_cons] at hnodup
    have hrest : ∀ g ∈ rest, g ∈ l.pending.keys ∧ g ≠ f := by
      intro g hg
      refine ⟨ha.timedOut_pending g (htimed ▸ List.mem_cons_of_mem _ hg), ?_⟩
      exact fun heq => hnodup.1 (heq ▸ hg)
    have hnew : f ∉ l.abandoned.keys := by
      intro hmem
      obtain ⟨g, hg, hgf, -⟩ := ha.abandoned_handled f hmem
      exact (ha.pending_unhandled f hkey).2 (hgf ▸ List.mem_map_of_mem hg)
    have htake := ha.take (h := ⟨f, entry.queued, timeoutResult mt w.epoch⟩) hfind rfl
      hnodup.2 hrest
    apply accounted_handleResult
    exact htake.abandon entry (ha.take_room hkey) hnew rfl
  case exhausted htimed hdone => exact ha.shrink (List.nil_sublist _)
  case late f rest htimed hdone hlate => exact ha.late hlate
  case unknown => exact ha
  case resolved f rest entry result htimed hdone hlate hfind hresult =>
    apply accounted_handleResult
    rw [htimed]
    exact ha.take (h := ⟨f, entry.queued, result⟩) hfind rfl List.nodup_nil
      (fun g hg => absurd hg List.not_mem_nil)
  case blocked =>
    unfold Accounted
    rw [hpc]
    exact ha
  case fatal => exact absurd rfl halive

/-- The thread dies of a call that was pending. -/
theorem dispatch_ended {l : LoopVars} {round : Round} (hpc : w.pc = .loop l (.dispatch round))
    (h : (w.dispatch mt l round).pc = .ended) :
    w.dispatch mt l round = w.goto .ended ∧
      ∃ f entry, (f, entry) ∈ l.pending.entries ∧ w.futures f = .finished .fatal := by
  have hcases := w.dispatched mt l round
  generalize w.dispatch mt l round = w' at hcases h
  cases hcases
  case timedOut | resolved =>
    have hheld := congrArg RunnerPc.held h
    rw [handleResult_held] at hheld
    cases hheld
  case blocked =>
    rw [hpc] at h
    cases h
  case fatal f entry hfind hdone hnone => exact ⟨rfl, f, entry, hfind, fatal_of_resolve hdone hnone⟩
  all_goals cases h

theorem accounted_afterResult {l : LoopVars} {round : Round}
    (ha : LoopAccount mt operationId summary w.log l [] round.timedOut)
    (hrunning : l.state.state = .running) :
    (w.afterResult l round).Accounted mt operationId summary := by
  have hgo : ¬ (l.state.state = .cancelled ∨ l.state.state = .failed) := by
    rw [hrunning]
    decide
  rw [afterResult, if_neg hgo]
  exact ha

/-- With nothing left in its queues the loop has settled every item. -/
theorem runAccount_of_drained {log : RunLog} {l : LoopVars} (hdrained : l.drained = true)
    (ha : LoopAccount mt operationId summary log l [] []) : RunAccount operationId summary log := by
  simp only [LoopVars.drained, Bool.and_eq_true, List.isEmpty_iff] at hdrained
  obtain ⟨⟨⟨hqueue, hpending⟩, -⟩, hretry⟩ := hdrained
  have hwaiting : l.waiting = [] := by
    rw [LoopVars.waiting, hqueue, hretry, List.map_nil, List.append_nil]
  have hactive : l.active [] log.finals = log.finals.map (·.queued) := by
    rw [LoopVars.active, LoopVars.flying, hpending, List.map_nil, List.nil_append, List.nil_append]
  have hledger := ha.ledger
  rw [hwaiting, hactive] at hledger
  have hall := hledger.perm_keys
  rw [map_index_finals] at hall
  exact ⟨ha.sound, hall⟩

theorem accounted_loopStep (done : List ℕ) {l : LoopVars} {phase : LoopPhase}
    (hpc : w.pc = .loop l phase) (hflag : w.dir.cancelFlag = false)
    (hquiet : w.undisturbed (.run done) = true)
    (halive : ∀ round, phase = .dispatch round → (w.dispatch mt l round).pc ≠ .ended)
    (hrunning : l.state.state = .running)
    (ha : LoopAccount mt operationId summary w.log l phase.hand phase.timedOut) :
    (w.loopStep mt done l phase).Accounted mt operationId summary := by
  cases phase with
  | head =>
    simp only [loopStep]
    split_ifs with hdrained hrequested
    -- nothing waits and nothing is in flight: every item has its result
    · exact ⟨runAccount_of_drained hdrained ha, ha.total⟩
    · rw [isCancelRequested, hflag] at hrequested
      cases hrequested
    · exact ha
  | deadline =>
    have hbefore : ¬ l.overallDeadline ≤ w.clock := by
      simp only [undisturbed, hpc, decide_eq_true_eq] at hquiet
      exact not_le.mpr hquiet
    simp only [loopStep]
    rw [if_neg hbefore]
    exact ha
  -- the items whose delay has passed change queues, and no queue is lost
  | retries => exact ha.release w.clock
  | submitting =>
    simp only [loopStep]
    split
    next => exact ha
    next q rest hqueue =>
      split_ifs with hroom
      · exact ha.submit hqueue w.clock hroom
      · exact ha
  | waiting =>
    simp only [loopStep]
    split_ifs
    · exact ha
    · -- the scan goes over all pending futures
      exact { ha with
        timedOut_nodup := l.pending.nodup_keys
        timedOut_pending := fun f hf => hf }
  | scanning d now todo timedOut =>
    cases todo with
    | nil =>
      have hsame : timedOut ++ ([] : List (ℕ × InFlight)).map Prod.fst = timedOut :=
        List.append_nil _
      rw [LoopPhase.timedOut, hsame] at ha
      exact ha
    | cons e todo =>
      obtain ⟨f, entry⟩ := e
      simp only [loopStep]
      split_ifs
      · have hsame : timedOut ++ [f] ++ todo.map Prod.fst =
            timedOut ++ ((f, entry) :: todo).map Prod.fst := by
          rw [List.append_assoc, List.singleton_append, List.map_cons]
        change LoopAccount mt operationId summary w.log l [] (timedOut ++ [f] ++ todo.map Prod.fst)
        rw [hsame]
        exact ha
      · exact ha.shrink ((List.sublist_cons_self f _).append_left timedOut)
  | dispatch round => exact accounted_dispatch ha (halive round rfl) hpc
  | retrying round =>
    simp only [loopStep]
    apply accounted_afterResult
    · exact ha.restate rfl
    · exact hrunning
  | persisting h todo round =>
    cases todo with
    | cons => exact ha
    | nil =>
      simp only [loopStep]
      apply accounted_afterResult
      · exact ha.count (updateCounters_tally l.state h.result).2.2.2
      · exact hrunning

/-- The loop begins with every work item waiting for its first attempt. -/
theorem loopAccount_start {log : RunLog} (hlog : log = ⟨[], [], []⟩) {state : OperationStateModel}
    (hrequest : RequestOf operationId summary state)
    (htotal : state.counters.totalModems = summary.macAddresses.length) (clock : ℚ) :
    LoopAccount mt operationId summary log (loopVars clock state) [] [] := by
  subst hlog
  have hqueue : (loopVars clock state).queue =
      (workItems operationId summary).mapIdx fun index item => ⟨index, item⟩ := by
    simp only [loopVars, workItems, hrequest.id, hrequest.summary]
  have hwaiting : (loopVars clock state).waiting =
      (workItems operationId summary).mapIdx fun index item => ⟨index, item⟩ := by
    rw [LoopVars.waiting, hqueue]
    exact List.append_nil _
  have hitem : ∀ q ∈ (loopVars clock state).waiting,
      q.attempt = 0 ∧ q.IsOf (workItems operationId summary) := by
    intro q hq
    rw [hwaiting, List.mem_mapIdx] at hq
    obtain ⟨i, hi, rfl⟩ := hq
    have hattempt : (workItems operationId summary)[i].attempt = 0 := by
      simp only [workItems, buildWorkItems, List.getElem_mapIdx]
    refine ⟨hattempt, ?_⟩
    rw [QueuedItem.IsOf, List.getElem?_eq_getElem hi, ← hattempt]
  -- each item of the scope has one place in the queue, at its own index
  have hkeys : (loopVars clock state).waiting.map QueuedItem.index =
      List.range summary.macAddresses.length := by
    apply List.ext_getElem
    · simp only [hwaiting, List.length_map, List.length_mapIdx, List.length_range, workItems,
        length_buildWorkItems]
    · intro i hi hi'
      simp only [hwaiting, List.getElem_map, List.getElem_mapIdx, List.getElem_range]
  have hledger : Ledger QueuedItem.index QueuedItem.attempt _
      summary.execution.retryCount [] _ [] :=
    Ledger.start fun q hq => (hitem q hq).1
  rw [hkeys] at hledger
  exact {
    execution := congrArg OperationRequestSummaryModel.execution hrequest.summary
    total := htotal
    ledger := hledger
    submitted_isOf := fun q hq => absurd hq List.not_mem_nil
    waiting_isOf := fun q hq => (hitem q hq).2
    active_isOf := fun q hq => absurd hq List.not_mem_nil
    capacity := Nat.zero_le _
    pending_unhandled := fun f hf => absurd hf List.not_mem_nil
    abandoned_handled := fun f hf => absurd hf List.not_mem_nil
    handled_nodup := List.nodup_nil
    handled_submitted := fun f hf => absurd hf List.not_mem_nil
    finals_handled := List.nil_sublist _
    timedOut_nodup := List.nodup_nil
    timedOut_pending := fun f hf => absurd hf List.not_mem_nil }

theorem noFatal_cancelFutures (h : w.NoFatal) (fs : List ℕ) : (w.cancelFutures fs).NoFatal := by
  intro f
  have hf := h f
  simp only [cancelFutures]
  split
  · cases hstate : w.futures f with
    | finished outcome =>
      rw [← hstate]
      rw [hstate] at hf ⊢
      exact hf
    | _ =>
      intro heq
      cases heq
  · exact hf

theorem noFatal_handleResult (h : w.NoFatal) (l : LoopVars) (hd : HandledResult) (round : Round) :
    (w.handleResult l hd round).NoFatal := by
  unfold handleResult
  dsimp only
  split <;> exact h

theorem noFatal_afterResult (h : w.NoFatal) (l : LoopVars) (round : Round) :
    (w.afterResult l round).NoFatal := by
  unfold afterResult
  split <;> exact h

theorem noFatal_dispatch (h : w.NoFatal) (l : LoopVars) (round : Round) :
    (w.dispatch mt l round).NoFatal := by
  have hcases := w.dispatched mt l round
  generalize w.dispatch mt l round = w' at hcases
  cases hcases
  case timedOut => exact noFatal_handleResult (noFatal_cancelFutures h _) _ _ _
  case resolved => exact noFatal_handleResult h _ _ _
  all_goals exact h

theorem noFatal_update {f : ℕ} {s : FutureState} (h : w.NoFatal) (hs : s ≠ .finished .fatal) :
    ∀ g, Function.update w.futures f s g ≠ .finished .fatal := by
  intro g
  by_cases hg : g = f
  · subst hg
    rwa [Function.update_self]
  · rw [Function.update_of_ne hg]
    exact h g

theorem noFatal_runnerStep (h : w.NoFatal) (done : List ℕ) : (w.runnerStep mt done).NoFatal := by
  cases hpc : w.pc with
  | loop l phase =>
    simp only [runnerStep, hpc]
    cases phase with
    | head | deadline =>
      simp only [loopStep]
      (repeat' split) <;> first | exact h | exact noFatal_cancelFutures h _
    | retries => exact h
    -- a fresh future is queued, and only the environment finishes it
    | submitting =>
      simp only [loopStep]
      split
      · exact h
      · split
        · exact noFatal_update h fun heq => by cases heq
        · exact h
    | waiting =>
      simp only [loopStep]
      split <;> exact h
    | scanning d now todo timedOut =>
      cases todo with
      | nil => exact h
      | cons =>
        simp only [loopStep]
        split <;> exact h
    | dispatch round => exact noFatal_dispatch h l round
    | retrying round => exact noFatal_afterResult (w := w.save _) h _ _
    | persisting hd todo round =>
      cases todo with
      | nil => exact noFatal_afterResult (w := { w.save _ with finals := w.finals ++ [hd] }) h _ _
      | cons => exact h
  | transitioned | preparing =>
    simp only [runnerStep, hpc]
    split <;> exact h
  | _ =>
    simp only [runnerStep, hpc]
    exact h

/-- What every step of an undisturbed run keeps. -/
structure Undisturbed (mt : Option ServiceStatusCode) (operationId : PnmCaptureOperationId)
    (summary : OperationRequestSummaryModel) (w : OperationWorld κ) : Prop where
  steady : w.Steady
  counted : w.Counted
  request : w.OneRequest operationId summary
  recorded : w.Recorded operationId
  noFatal : w.NoFatal
  noFlag : w.dir.cancelFlag = false
  accounted : w.Accounted mt operationId summary

/-- The books are kept by a step of the runner that finds workers and does not die of a worker's
`BaseException`. -/
theorem accounted_runnerStep (hmacs : summary.macAddresses ≠ [])
    (hsgs : summary.servingGroupIds ≠ [])
    (done : List ℕ) (hquiet : w.undisturbed (.run done) = true) (hsteady : w.Steady)
    (hrequest : w.OneRequest operationId summary) (hflag : w.dir.cancelFlag = false)
    (hworkers : ∀ state, w.pc = .preparing state → 1 ≤ summary.execution.maxWorkers)
    (halive : ∀ l round, w.pc = .loop l (.dispatch round) → (w.dispatch mt l round).pc ≠ .ended)
    (haccounted : w.Accounted mt operationId summary) :
    (w.runnerStep mt done).Accounted mt operationId summary := by
  have ha := haccounted
  unfold Accounted at ha
  cases hpc : w.pc with
  | starting =>
    simp only [hpc] at ha
    simp only [runnerStep, hpc]
    exact ha
  | transitioned state =>
    have hrequest := hrequest.held state (by rw [hpc]; rfl)
    have hfull : ¬ (state.requestSummary.macAddresses = [] ∨
        state.requestSummary.servingGroupIds = []) := by
      rw [hrequest.summary]
      exact not_or.mpr ⟨hmacs, hsgs⟩
    simp only [hpc] at ha
    simp only [runnerStep, hpc]
    rw [if_neg hfull]
    refine ⟨ha, ?_⟩
    simp only [withTotalModems, hrequest.summary]
  | sized state =>
    simp only [hpc] at ha
    simp only [runnerStep, hpc]
    exact ha
  | preparing state =>
    have hrequest := hrequest.held state (by rw [hpc]; rfl)
    have hworkers := hworkers state hpc
    -- the pool can be built, since there is a worker at least
    have hpool : ¬ state.requestSummary.execution.maxWorkers = 0 := by
      rw [hrequest.summary]
      omega
    simp only [hpc] at ha
    simp only [runnerStep, hpc]
    rw [if_neg hpool]
    exact loopAccount_start ha.1 hrequest ha.2 w.clock
  | loop l phase =>
    have hrunning : l.state.state = .running := hsteady.known.runner l.state (by rw [hpc]; rfl)
    simp only [hpc] at ha
    simp only [runnerStep, hpc]
    refine accounted_loopStep done hpc hflag hquiet ?_ hrunning ha
    rintro round rfl
    exact halive l round hpc
  | finishing state =>
    have hopen := hsteady.isOpen (by rw [hpc]; exact RunnerPc.noConfusion)
    simp only [hpc] at ha
    simp only [runnerStep, hpc]
    have hfile : ((w.save (terminalCopy w.epoch state)).goto .ended).dir.state =
        terminalCopy w.epoch state := saveStateAtomic_open hopen _
    refine ⟨ha.1, ?_, ?_, ?_⟩
    · rw [lifecycle, hfile]
      exact terminalCopy_isTerminal _ _
    · rw [hfile]
      exact ha.2
    · -- the terminal state is COMPLETED only if no item failed
      rw [lifecycle, hfile]
      intro hcompleted
      simp only [terminalCopy] at hcompleted ⊢
      split at hcompleted
      next => cases hcompleted
      next hfailed => omega
  | ended =>
    simp only [runnerStep, hpc]
    exact haccounted
  | emptyScope | closing | closingSave =>
    simp only [hpc] at ha

/-- Exactly-once accounting, in a state of a run. -/
structure ExactlyOnce (mt : Option ServiceStatusCode) (operationId : PnmCaptureOperationId)
    (summary : OperationRequestSummaryModel) (w : OperationWorld κ) : Prop where
  log : LogSound operationId summary w.log
  in_flight : ∀ l phase, w.pc = .loop l phase → l.inFlight ≤ summary.execution.maxWorkers
  /-- What an abandoned future was handled with is its timeout. -/
  abandoned_handled : ∀ l phase, w.pc = .loop l phase → ∀ f ∈ l.abandoned.keys,
    ∃ h ∈ w.handled, h.future = f ∧ ∃ epoch, h.result = timeoutResult mt epoch
  counted_once : w.dir.state.counters.tally = tallyOf w.finals
  appended_once : ∀ sg, w.dir.results sg =
    (w.finals.flatMap (·.records operationId) ++ w.pc.partialRecords operationId).filter
      fun record => record.sgId = sg
  /-- A terminal state is reached at the end of the run only, and there every item is counted. -/
  terminal_iff : isTerminalState w.lifecycle = true ↔ w.pc = .ended
  terminal : isTerminalState w.lifecycle = true →
    (w.finals.map (·.queued.index)).Perm (List.range summary.macAddresses.length) ∧
    w.dir.state.counters.completed = w.dir.state.counters.totalModems ∧
    w.dir.state.counters.totalModems =
      w.dir.state.counters.success+w.dir.state.counters.failed ∧
    (w.lifecycle = .completed → w.dir.state.counters.failed = 0)

theorem logSound_of_accounted (h : w.Accounted mt operationId summary) :
    LogSound operationId summary w.log := by
  unfold Accounted at h
  split at h
  · exact logSound_empty h
  · exact logSound_empty h
  · exact logSound_empty h.1
  · exact logSound_empty h.1
  · exact h.sound
  · exact h.1.sound
  · exact h.1.sound
  all_goals exact h.elim

theorem loopAccount_of_accounted (h : w.Accounted mt operationId summary) {l : LoopVars}
    {phase : LoopPhase} (hpc : w.pc = .loop l phase) :
    LoopAccount mt operationId summary w.log l phase.hand phase.timedOut := by
  unfold Accounted at h
  rw [hpc] at h
  exact h

theorem ended_of_accounted (h : w.Accounted mt operationId summary) (hpc : w.pc = .ended) :
    RunAccount operationId summary w.log ∧ isTerminalState w.lifecycle = true ∧
      w.dir.state.counters.totalModems = summary.macAddresses.length ∧
      (w.lifecycle = .completed → w.dir.state.counters.failed = 0) := by
  unfold Accounted at h
  rw [hpc] at h
  exact h

theorem exactlyOnce_of_undisturbed (h : w.Undisturbed mt operationId summary) :
    w.ExactlyOnce mt operationId summary where
  log := logSound_of_accounted h.accounted
  in_flight _ _ hpc := (loopAccount_of_accounted h.accounted hpc).capacity
  abandoned_handled _ _ hpc := (loopAccount_of_accounted h.accounted hpc).abandoned_handled
  counted_once := h.counted.file
  appended_once := h.recorded.results
  terminal_iff := ⟨h.steady.terminal, fun hpc => (ended_of_accounted h.accounted hpc).2.1⟩
  terminal hterminal := by
    obtain ⟨hrun, -, htotal, hcompleted⟩ :=
      ended_of_accounted h.accounted (h.steady.terminal hterminal)
    have hcount : w.dir.state.counters.completed = w.finals.length :=
      congrArg Tally.completed h.counted.file
    have hlength : w.finals.length = summary.macAddresses.length := by
      have hperm := hrun.all_final.length_eq
      rw [List.length_map, List.length_range] at hperm
      exact hperm
    have hsum := tallyOf_completed w.finals
    rw [← h.counted.file] at hsum
    refine ⟨hrun.all_final, by omega, ?_, hcompleted⟩
    calc w.dir.state.counters.totalModems
        = w.dir.state.counters.completed := by omega
      _ = w.dir.state.counters.success+w.dir.state.counters.failed := hsum

variable [DecidableEq κ]

theorem undisturbed_step (hmacs : summary.macAddresses ≠ []) (hsgs : summary.servingGroupIds ≠ [])
    (hworkers : 1 ≤ summary.execution.maxWorkers) (a : OperationAction κ)
    (hquiet : w.undisturbed a = true) (h : w.Undisturbed mt operationId summary) :
    (w.step mt a).Undisturbed mt operationId summary := by
  have hsteady := steady_step mt a h.steady
  have hrequest := oneRequest_step mt a h.request
  cases a with
  | run done =>
    have halive : ∀ l round, w.pc = .loop l (.dispatch round) →
        (w.dispatch mt l round).pc ≠ .ended := by
      intro l round hpc hended
      obtain ⟨-, f, -, -, hfatal⟩ := dispatch_ended hpc hended
      exact h.noFatal f hfatal
    exact {
      steady := hsteady
      counted := counted_step mt (.run done) h.steady h.counted rfl
      request := hrequest
      recorded := recorded_step mt (.run done) rfl h.request h.recorded
      noFatal := noFatal_runnerStep h.noFatal done
      noFlag := (runnerStep_cancelFlag mt done).trans h.noFlag
      accounted := accounted_runnerStep hmacs hsgs done hquiet h.steady h.request h.noFlag
        (fun _ _ => hworkers) halive h.accounted }
  -- an undisturbed run has neither exceptions nor cancellations
  | raise | cancel => cases hquiet
  | start f =>
    have hstart : (w.futures f).start ≠ .finished .fatal := by
      have hf := h.noFatal f
      cases hstate : w.futures f with
      | finished outcome =>
        rw [← hstate]
        rw [hstate] at hf ⊢
        exact hf
      | _ =>
        intro heq
        cases heq
    exact { h with
      steady := hsteady
      counted := ⟨h.counted.file, h.counted.held⟩
      request := hrequest
      recorded := ⟨h.recorded.results, h.recorded.suffix⟩
      noFatal := noFatal_update h.noFatal hstart }
  | finish f outcome =>
    have hfinish : (w.futures f).finish outcome ≠ .finished .fatal := by
      have hf := h.noFatal f
      have houtcome : outcome ≠ .fatal := of_decide_eq_true hquiet
      cases hstate : w.futures f with
      | running =>
        intro heq
        exact houtcome (FutureState.finished.inj heq)
      | finished earlier =>
        rw [hstate] at hf
        exact hf
      | _ =>
        intro heq
        cases heq
    exact { h with
      steady := hsteady
      counted := ⟨h.counted.file, h.counted.held⟩
      request := hrequest
      recorded := ⟨h.recorded.results, h.recorded.suffix⟩
      noFatal := noFatal_update h.noFatal hfinish }
  | advance | setEpoch =>
    exact { h with
      steady := hsteady
      counted := ⟨h.counted.file, h.counted.held⟩
      request := hrequest
      recorded := ⟨h.recorded.results, h.recorded.suffix⟩ }

/-- Exactly-once accounting of the runner, in every state of every run of a freshly created
operation with work to do, without cancel, overall timeout and store failures. -/
theorem runner_exactly_once (mt : Option ServiceStatusCode) (operationId : PnmCaptureOperationId)
    (summary : OperationRequestSummaryModel) (clock : ℚ) (epoch : TimestampSec)
    (hmacs : summary.macAddresses ≠ []) (hsgs : summary.servingGroupIds ≠ [])
    (hworkers : 1 ≤ summary.execution.maxWorkers) (as : List (OperationAction κ))
    (hquiet : Guarded (step mt) (fun w a => w.undisturbed a = true)
      (created operationId summary clock epoch) as) :
    (exec (step mt) (created operationId summary clock epoch) as).ExactlyOnce mt operationId
      summary := by
  apply exactlyOnce_of_undisturbed
  apply invariant_of_guarded (I := fun w : OperationWorld κ => w.Undisturbed mt operationId summary)
    (fun w a ha hw => undisturbed_step hmacs hsgs hworkers a ha hw) hquiet
  exact {
    steady := steady_created operationId summary clock epoch
    counted := ⟨rfl, fun st hst => by cases hst⟩
    request := oneRequest_created clock epoch
    recorded := recorded_created clock epoch
    noFatal := fun f heq => by cases heq
    noFlag := rfl
    accounted := rfl }

/-- Two workers and one retry. The first modem's attempt times out, its retry succeeds, and the
abandoned attempt ends in a success that is late. -/
def timeoutAndRetry : List (OperationAction Unit) :=
  let steps (n : ℕ) : List (OperationAction Unit) := List.replicate n (.run [])
  let success : OperationWorkerResultModel := ⟨none, buildStageResults .success "" 0 0 false none⟩
  steps 10 ++ [.start 0, .start 1, .finish 1 (.result success), .run [1]] ++ steps 13 ++
    [.advance 6, .run []] ++ steps 10 ++
    [.start 2, .finish 2 (.result success), .finish 0 (.result success), .run [0, 2]] ++ steps 14

theorem runner_exactly_once_pair :
    let summary : OperationRequestSummaryModel :=
      { twoModems with execution := { twoModems.execution with maxWorkers := 2, retryCount := 1 } }
    let w := exec (step none) (created "op" summary 0 0) timeoutAndRetry
    w.lifecycle = .completed ∧ w.submitted.length = 3 ∧ w.handled.length = 3 ∧
      w.finals.length = 2 ∧ (w.dir.results 7).length = 6 ∧ w.ExactlyOnce none "op" summary :=
  ⟨by decide +kernel, by decide +kernel, by decide +kernel, by decide +kernel, by decide +kernel,
    runner_exactly_once none "op" _ 0 0 (by decide) (by decide) (by decide) timeoutAndRetry
      (by decide +kernel)⟩

end OperationWorld
end PypnmCmts
