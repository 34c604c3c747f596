import PypnmCmts.RefreshLoop

/-! Whether a stop reaches the refresh loop. A stop call signals the manager that it read, and a
guard restart puts the loop on another one, which nobody has signalled. -/
namespace PypnmCmts
namespace LoopWorld

/-- No thread has begun a cycle since a stop call reached it. -/
def StopKept (w : LoopWorld) : Prop :=
  ∀ t n, (t, n) ∈ w.told → w.cyclesBegun t = n

/-- A step in which a start call comes to return `True` leaves a thread that is in its loop and
that no stop call has reached. -/
def StartKept (w : LoopWorld) (a : LoopAction) : Prop :=
  ∀ call, w.calls call ≠ .returned (some true) →
    (w.step a).calls call = .returned (some true) →
    ∃ t, (w.step a).refreshThread = some t ∧ ((w.step a).threads t).manager.isSome = true ∧
      ∀ n, (t, n) ∉ (w.step a).told

/-- Stops and restarts keep apart: no restart between the moment a stop call has read the manager
and the clean-up, and no start call on a manager that is signalled or replaced. -/
def KeepsApart (w : LoopWorld) : LoopAction → Prop
  | .threadStep t (.restarts _ _) => ∀ manager, w.threads t = .inCycle manager →
      w.stopRequested manager = false ∧ ∀ call read, w.calls call ≠ .stopSignal read
  | .callStep call _ => ∀ manager, w.calls call = .startLocked manager →
      if w.isAlive w.refreshThread = true then
        ∀ t, w.refreshThread = some t →
          ∃ m, (w.threads t).manager = some m ∧ w.stopRequested m = false
      else w.publishedManager = some manager
  | _ => True

/-- The loop works on the published manager, and a thread that a stop has reached works on a
signalled one and has begun no cycle since. -/
structure StopInv (w : LoopWorld) : Prop where
  fresh : ∀ m, w.publishedManager = some m → m < w.nextManager
  current : ∀ t m, (w.threads t).manager = some m → w.publishedManager = some m
  signal : ∀ call read, w.calls call = .stopSignal read → read = w.publishedManager
  created : ∀ t n, (t, n) ∈ w.told → t < w.nextThread
  flagged : ∀ t n m, (t, n) ∈ w.told → (w.threads t).manager = some m → w.stopRequested m = true
  kept : w.StopKept

namespace StopInv
variable {w : LoopWorld}

theorem boot (status : SgwStartupStatusModel) (managed : Bool) :
    StopInv (LoopWorld.boot status managed) where
  fresh m h := by
    cases managed with
    | true =>
      have heq : m = 0 := by simpa [LoopWorld.boot] using h.symm
      rw [heq]
      exact Nat.one_pos
    | false => cases h
  current t m h := by cases h
  signal call read h := by cases h
  created t n h := by cases h
  flagged t n m h := by cases h
  kept t n h := by cases h

theorem setCall (hi : StopInv w) (call : CallId) {pc : CallPc}
    (hsignal : ∀ m, pc = .stopSignal m → m = w.publishedManager) :
    StopInv (w.setCall call pc) where
  fresh := hi.fresh
  current := hi.current
  signal c read h := by
    by_cases hc : c = call
    · subst hc
      exact hsignal read (by simpa [LoopWorld.setCall] using h)
    · exact hi.signal c read (by simpa [LoopWorld.setCall, Function.update_of_ne hc] using h)
  created := hi.created
  flagged := hi.flagged
  kept := hi.kept

/-- A thread moves on with the manager that it has. -/
theorem setThread (hi : StopInv w) {t : ThreadId} (pc : ThreadPc)
    (hmanager : ∀ m, pc.manager = some m → (w.threads t).manager = some m) :
    StopInv (w.setThread t pc) := by
  have hbefore (u : ThreadId) (m : ManagerId)
      (h : ((w.setThread t pc).threads u).manager = some m) : (w.threads u).manager = some m := by
    by_cases hu : u = t
    · subst hu
      exact hmanager m (by simpa [LoopWorld.setThread] using h)
    · simpa [LoopWorld.setThread, Function.update_of_ne hu] using h
  exact {
    fresh := hi.fresh
    current := fun u m h => hi.current u m (hbefore u m h)
    signal := hi.signal
    created := hi.created
    flagged := fun u n m hu h => hi.flagged u n m hu (hbefore u m h)
    kept := hi.kept }

/-- One more manager is told to stop. -/
theorem setStop (hi : StopInv w) (manager : ManagerId) : StopInv (w.setStop manager true) where
  fresh := hi.fresh
  current := hi.current
  signal := hi.signal
  created := hi.created
  flagged t n m ht h := by
    have hflag := hi.flagged t n m ht h
    by_cases hm : m = manager
    · subst hm
      simp [LoopWorld.setStop]
    · simpa [LoopWorld.setStop, Function.update_of_ne hm] using hflag
  kept := hi.kept

/-- The signal goes to the manager of every thread that it counts as reached. -/
theorem stopSignal (hi : StopInv w) {call : CallId} {read : Option ManagerId}
    (hcall : w.calls call = .stopSignal read) : StopInv (w.stopSignal call read) := by
  have hread := hi.signal call read hcall
  -- whoever is told now is told with the number of cycles it has begun
  have htold {t : ThreadId} {n : ℕ} (h : (t, n) ∈ w.told ++ w.loopThreads.map fun u =>
      (u, w.cyclesBegun u)) :
      (t, n) ∈ w.told ∨ t < w.nextThread ∧ w.cyclesBegun t = n := by
    rcases List.mem_append.mp h with h | h
    · exact Or.inl h
    · obtain ⟨u, hu, heq⟩ := List.mem_map.mp h
      have hlt := List.mem_range.mp (List.mem_filter.mp hu).1
      rw [Prod.mk.injEq] at heq
      exact Or.inr ⟨heq.1 ▸ hlt, heq.1 ▸ heq.2⟩
  have hcreated (t : ThreadId) (n : ℕ) (h : (t, n) ∈ w.told ++ w.loopThreads.map fun u =>
      (u, w.cyclesBegun u)) : t < w.nextThread := by
    rcases htold h with h | h
    · exact hi.created t n h
    · exact h.1
  have hkept (t : ThreadId) (n : ℕ) (h : (t, n) ∈ w.told ++ w.loopThreads.map fun u =>
      (u, w.cyclesBegun u)) : w.cyclesBegun t = n := by
    rcases htold h with h | h
    · exact hi.kept t n h
    · exact h.2
  have hsignal (c : CallId) (r : Option ManagerId)
      (h : Function.update w.calls call .stopCapture c = .stopSignal r) :
      r = w.publishedManager := by
    by_cases hc : c = call
    · subst hc
      simp at h
    · exact hi.signal c r (by simpa [Function.update_of_ne hc] using h)
  cases read with
  | none =>
    -- nothing is published, so no thread works on a manager
    have hnone (t : ThreadId) (m : ManagerId) : (w.threads t).manager ≠ some m := by
      intro h
      have hpub := hi.current t m h
      rw [← hread] at hpub
      cases hpub
    exact {
      fresh := hi.fresh
      current := hi.current
      signal := hsignal
      created := hcreated
      flagged := fun t n m _ h => absurd h (hnone t m)
      kept := hkept }
  | some manager =>
    have hflag (t : ThreadId) (m : ManagerId) (h : (w.threads t).manager = some m) :
        Function.update w.stopRequested manager true m = true := by
      have hpub := hi.current t m h
      rw [← hread] at hpub
      rw [Option.some.inj hpub, Function.update_self]
    exact {
      fresh := hi.fresh
      current := hi.current
      signal := hsignal
      created := hcreated
      flagged := fun t n m _ h => hflag t m h
      kept := hkept }

/-- A cycle begins where no signal has come: in a thread that no stop has reached. -/
theorem beginCycle (hi : StopInv w) {t : ThreadId} {manager : ManagerId}
    (hpc : w.threads t = .cycleTop manager) (hstop : w.stopRequested manager = false) :
    StopInv (w.beginCycle t manager) := by
  have hset := hi.setThread (t := t) (.inCycle manager) (fun m h => by rw [hpc]; exact h)
  have huntold (n : ℕ) : (t, n) ∉ w.told := by
    intro h
    have hflag := hi.flagged t n manager h (by rw [hpc]; rfl)
    rw [hstop] at hflag
    cases hflag
  refine ⟨hset.fresh, hset.current, hset.signal, hset.created, hset.flagged, ?_⟩
  intro u n hu
  have hne : u ≠ t := by
    intro heq
    exact huntold n (heq ▸ hu)
  have hkept := hi.kept u n hu
  simpa [LoopWorld.beginCycle, LoopWorld.setThread, Function.update_of_ne hne] using hkept

/-- A restart while no stop is under way: the new manager is nobody's but the loop's. -/
theorem restartManager (hi : StopInv w) (hs : SingleLoop w) {t : ThreadId} {manager : ManagerId}
    (hpc : w.threads t = .inCycle manager) (hstop : w.stopRequested manager = false)
    (hcalls : ∀ call read, w.calls call ≠ .stopSignal read) (nowEpoch : TimestampSec)
    (reason : String) : StopInv (w.restartManager t manager nowEpoch reason) := by
  have huntold (n : ℕ) : (t, n) ∉ w.told := by
    intro h
    have hflag := hi.flagged t n manager h (by rw [hpc]; rfl)
    rw [hstop] at hflag
    cases hflag
  -- the other threads are past their run
  have hother {u : ThreadId} (hu : u ≠ t) (m : ManagerId) : (w.threads u).manager ≠ some m := by
    intro h
    exact hu (hs.unique (ThreadPc.inRun_of_manager h) (by rw [hpc]; rfl))
  have hmanager (u : ThreadId) (m : ManagerId)
      (h : (Function.update w.threads t (.stopOld manager w.nextManager) u).manager = some m) :
      u = t ∧ m = w.nextManager := by
    by_cases hu : u = t
    · subst hu
      rw [Function.update_self] at h
      exact ⟨rfl, (Option.some.inj h).symm⟩
    · rw [Function.update_of_ne hu] at h
      exact absurd h (hother hu m)
  exact {
    fresh := fun m h => by
      rw [← Option.some.inj h]
      exact Nat.lt_succ_self _
    current := fun u m h => by
      rw [(hmanager u m h).2]
      rfl
    signal := fun call read h => absurd h (hcalls call read)
    created := hi.created
    flagged := fun u n m hu h => by
      rw [(hmanager u m h).1] at hu
      exact absurd hu (huntold n)
    kept := hi.kept }

/-- A start on the published manager, when no thread is left in its run. -/
theorem startThread (hi : StopInv w) (hs : SingleLoop w)
    (hdead : w.isAlive w.refreshThread = false) {manager : ManagerId}
    (hpub : w.publishedManager = some manager) (call : CallId) :
    StopInv (w.startThread call manager) := by
  have hmanager (u : ThreadId) (m : ManagerId)
      (h : (Function.update w.threads w.nextThread (.starting manager) u).manager = some m) :
      u = w.nextThread ∧ m = manager := by
    by_cases hu : u = w.nextThread
    · subst hu
      rw [Function.update_self] at h
      exact ⟨rfl, (Option.some.inj h).symm⟩
    · rw [Function.update_of_ne hu] at h
      have hrun := ThreadPc.inRun_of_manager h
      rw [hs.not_inRun hdead u] at hrun
      cases hrun
  exact {
    fresh := hi.fresh
    current := fun u m h => by
      rw [(hmanager u m h).2]
      exact hpub
    signal := fun c read h => by
      by_cases hc : c = call
      · subst hc
        simp [LoopWorld.startThread, LoopWorld.setCall] at h
      · exact hi.signal c read
          (by simpa [LoopWorld.startThread, LoopWorld.setCall, LoopWorld.setThread,
            LoopWorld.setStop, Function.update_of_ne hc] using h)
    created := fun u n hu => (hi.created u n hu).trans (Nat.lt_succ_self _)
    flagged := fun u n m hu h => by
      have hlt := hi.created u n hu
      rw [(hmanager u m h).1] at hlt
      exact absurd hlt (Nat.lt_irrefl _)
    kept := hi.kept }

theorem step (hi : StopInv w) (hs : SingleLoop w) {a : LoopAction} (hg : w.KeepsApart a) :
    StopInv (w.step a) := by
  have hmove := step_move w a
  generalize w.step a = w' at hmove ⊢
  cases hmove with
  | stays => exact hi
  | proceeds _ call pc hsignal => exact hi.setCall call hsignal
  | finds call b manager => exact hi.setCall call (fun m h => by cases h)
  | creates call b manager hcall hdead =>
    have hpub : w.publishedManager = some manager := by
      have hread := hg manager hcall
      rwa [hdead, if_neg (by decide)] at hread
    exact hi.startThread hs hdead hpub call
  | signals call b manager hcall => exact hi.stopSignal hcall
  | clears call b hdead =>
    have hset : StopInv (w.setCall call (.returned none)) :=
      hi.setCall call (fun m h => by cases h)
    exact ⟨hset.fresh, hset.current, hset.signal, hset.created, hset.flagged, hset.kept⟩
  | goesOn t _ manager status pc hbefore hafter =>
    have hset := hi.setThread (t := t) pc (fun m h => by rw [hbefore, ← hafter, h])
    exact ⟨hset.fresh, hset.current, hset.signal, hset.created, hset.flagged, hset.kept⟩
  | begins t _ manager hpc hstop => exact hi.beginCycle hpc hstop
  | restarts t manager nowEpoch reason hpc =>
    obtain ⟨hstop, hcalls⟩ := hg manager hpc
    exact hi.restartManager hs hpc hstop hcalls nowEpoch reason
  | stopsOld t _ old new hpc =>
    exact (hi.setStop old).setThread _ (fun m h => by
      have hthreads : (w.setStop old true).threads t = .stopOld old new := hpc
      rw [hthreads]
      exact h)
  | leaves t _ pc _ hafter =>
    exact hi.setThread _ (fun m h => by rw [hafter] at h; cases h)
  | cleansUp t _ hpc =>
    have hset := hi.setThread (t := t) .finishing (fun m h => by cases h)
    exact ⟨hset.fresh, hset.current, hset.signal, hset.created, hset.flagged, hset.kept⟩

end StopInv

/-- The call that comes to return `True` is a start call under the lock: it leaves the thread it
found or the thread it created. -/
theorem startKept_of_inv {w : LoopWorld} (hi : StopInv w) {a : LoopAction}
    (hg : w.KeepsApart a) : w.StartKept a := by
  intro c hbefore hafter
  have hmove := step_move w a
  generalize w.step a = w' at hmove hafter ⊢
  cases hmove with
  | stays => exact absurd hafter hbefore
  | proceeds _ call pc _ htrue =>
    by_cases hc : c = call
    · subst hc
      simp only [setCall, Function.update_self] at hafter
      exact absurd hafter htrue
    · simp only [setCall, Function.update_of_ne hc] at hafter
      exact absurd hafter hbefore
  | finds call b manager hcall halive =>
    -- the call found a thread alive: the guard says that no stop has reached its manager
    have hfound := hg manager hcall
    rw [halive, if_pos rfl] at hfound
    obtain ⟨t, ht⟩ : ∃ t, w.refreshThread = some t := by
      cases hthread : w.refreshThread with
      | none => simp [isAlive, hthread] at halive
      | some t => exact ⟨t, rfl⟩
    obtain ⟨m, hmanager, hstop⟩ := hfound t ht
    refine ⟨t, ht, by simp [setCall, hmanager], ?_⟩
    intro n hn
    have hflag := hi.flagged t n m hn hmanager
    rw [hstop] at hflag
    cases hflag
  | creates call b manager =>
    refine ⟨w.nextThread, rfl, ?_, ?_⟩
    · simp [startThread, setCall, setThread, ThreadPc.manager]
    -- nobody can have told a thread that did not exist
    · intro n hn
      exact absurd (hi.created _ n hn) (Nat.lt_irrefl _)
  | signals call b manager hcall =>
    exfalso
    have hcalls : (w.stopSignal call manager).calls =
        Function.update w.calls call .stopCapture := by
      cases manager <;> rfl
    rw [hcalls] at hafter
    by_cases hc : c = call
    · subst hc
      simp at hafter
    · rw [Function.update_of_ne hc] at hafter
      exact hbefore hafter
  | clears call b =>
    exfalso
    by_cases hc : c = call
    · subst hc
      simp [setCall] at hafter
    · simp only [setCall, Function.update_of_ne hc] at hafter
      exact hbefore hafter
  | goesOn => exact absurd hafter hbefore
  | begins => exact absurd hafter hbefore
  | restarts => exact absurd hafter hbefore
  | stopsOld => exact absurd hafter hbefore
  | leaves => exact absurd hafter hbefore
  | cleansUp => exact absurd hafter hbefore

/-- While stops and restarts keep apart, no thread begins a cycle after a stop has reached it, and
every start call that returns `True` leaves a loop that no stop has reached. -/
theorem stop_kept (status : SgwStartupStatusModel) (managed : Bool) (as : List LoopAction)
    (h : LabelledRun.Guarded step KeepsApart (boot status managed) as) :
    (∀ bs cs, as = bs ++ cs → (runFrom status managed bs).StopKept) ∧
      LabelledRun.Guarded step StartKept (boot status managed) as := by
  have hrun (bs : List LoopAction)
      (hbs : LabelledRun.Guarded step KeepsApart (boot status managed) bs) :
      SingleLoop (runFrom status managed bs) ∧ StopInv (runFrom status managed bs) :=
    LabelledRun.invariant_of_guarded (I := fun w => SingleLoop w ∧ StopInv w)
      (fun w a hg hi => ⟨hi.1.step a, hi.2.step hi.1 hg⟩) hbs
      ⟨.boot status managed, .boot status managed⟩
  refine ⟨?_, ?_⟩
  · intro bs cs has
    rw [has, LabelledRun.guarded_append] at h
    exact (hrun bs h.1).2.kept
  · rw [LabelledRun.guarded_iff] at h ⊢
    intro bs a cs has
    have hbs : LabelledRun.Guarded step KeepsApart (boot status managed) bs := by
      rw [← LabelledRun.guarded_iff, has, LabelledRun.guarded_append] at h
      exact h.1
    exact startKept_of_inv (hrun bs hbs).2 (h bs a cs has)

/-- Startup succeeded with one service group. -/
def startedStatus : SgwStartupStatusModel :=
  { startupCompleted := true, discoveryOk := true, discoveredSgIds := [1] }

/-- A start call, and its thread up to the first cycle. -/
def firstCycle : List LoopAction :=
  [.callStart 0, .callStep 0 false, .threadStep 0 (.completes 0), .threadStep 0 (.completes 0),
    .threadStep 0 (.completes 0)]

/-- A restart, and the thread on its new manager when a stop call signals it. -/
def stoppedRun : List LoopAction :=
  firstCycle ++ [.threadStep 0 (.restarts 100 "rss"), .threadStep 0 (.completes 0),
    .threadStep 0 (.completes 0), .callStop 1, .callStep 1 false]

theorem stop_kept_after_restart :
    (runFrom startedStatus true stoppedRun).told = [(0, 1)] ∧
      (runFrom startedStatus true stoppedRun).StopKept ∧
      LabelledRun.Guarded step StartKept (boot startedStatus true) stoppedRun := by
  have h : LabelledRun.Guarded step KeepsApart (boot startedStatus true) stoppedRun := by
    refine ⟨trivial, ?_, trivial, trivial, trivial, ?_, trivial, trivial, trivial, ?_, trivial⟩
    · intro manager hcall
      cases hcall
      rfl
    · intro manager hpc
      cases hpc
      refine ⟨by decide, ?_⟩
      intro call read hsignal
      have hcalls : Function.update (Function.update (fun _ => CallPc.idle) 0
          (CallPc.startLocked 0)) 0 (CallPc.returned (some true)) call =
          CallPc.stopSignal read := hsignal
      by_cases hc : call = 0
      · subst hc
        cases hcalls
      · rw [Function.update_of_ne hc, Function.update_of_ne hc] at hcalls
        cases hcalls
    · intro manager hcall
      cases hcall
  obtain ⟨hstop, hstart⟩ := stop_kept startedStatus true stoppedRun h
  exact ⟨by decide, hstop stoppedRun [] (List.append_nil _).symm, hstart⟩

/-- A restart after the signal: the thread begins a second cycle. And a start call after the
signal returns `True` for a thread that has been told to stop. -/
theorem stop_lost_to_restart :
    ¬ (runFrom startedStatus true (firstCycle ++
      [.callStop 1, .callStep 1 false, .threadStep 0 (.restarts 100 "rss"),
        .threadStep 0 (.completes 0), .threadStep 0 (.completes 0),
        .threadStep 0 (.completes 0)])).StopKept ∧
    ¬ (runFrom startedStatus true (firstCycle ++
      [.callStop 1, .callStep 1 false, .callStart 2])).StartKept (.callStep 2 false) := by
  constructor
  · intro h
    have hkept := h 0 1 (by decide)
    exact absurd hkept (by decide)
  · intro h
    obtain ⟨t, hthread, -, htold⟩ := h 2 (by decide) (by decide)
    have ht : t = 0 := (Option.some.inj hthread).symm
    subst ht
    exact htold 1 (by decide)

end LoopWorld
end PypnmCmts
