import Mathlib.Data.List.FinRange
import PypnmCmts.SgwManager
import PypnmCmts.WorkerPool

/-! `run_scoped_job` of `sgw/manager.py`: a worker function is run for each managed group of a
request in a pool of threads. What one worker raises is raised by the call. -/
namespace PypnmCmts

/-- The arguments of a call. What a worker raises is a text. -/
structure ScopedJob (ρ : Type) where
  sgIds : List ServiceGroupId
  worker : ServiceGroupId → Except String ρ
  maxWorkers : Option ℤ := none
  overallTimeoutSeconds : Option ℚ := none

namespace SgwManager
open WorkerPool

variable {ρ : Type} (manager : SgwManager) (configuredLimit : ℤ) (job : ScopedJob ρ)

/-- The requested groups that are managed, in the order of the request. -/
def scopedSgIds : List ServiceGroupId :=
  job.sgIds.filter fun sgId => sgId ∈ manager.serviceGroups

def workerLimit (configuredLimit : ℤ) (maxWorkers : Option ℤ) (count : ℕ) : ℕ :=
  let limit : ℤ := maxWorkers.getD configuredLimit
  let limit : ℤ := if limit ≤ 0 then count else limit
  (max 1 (min limit count)).toNat

theorem workerLimit_pos (configuredLimit : ℤ) (maxWorkers : Option ℤ) (count : ℕ) :
    0 < workerLimit configuredLimit maxWorkers count := by
  unfold workerLimit
  exact Int.pos_iff_toNat_pos.mp (lt_max_of_lt_left one_pos)

/-- A call without a timeout, or with one that is not positive, waits for all its workers. -/
def ScopedJob.timed : Bool :=
  match job.overallTimeoutSeconds with
  | none => false
  | some seconds => 0 < seconds

/-- A future is known by its place in the request. -/
abbrev ScopedFuture := Fin (manager.scopedSgIds job).length

def scopedPool : Pool (ScopedFuture manager job) String ρ where
  tasks := List.finRange (manager.scopedSgIds job).length
  nodup := List.nodup_finRange _
  limit := workerLimit configuredLimit job.maxWorkers (manager.scopedSgIds job).length
  limit_pos := workerLimit_pos _ _ _
  timed := ScopedJob.timed job
  outcome future := job.worker ((manager.scopedSgIds job).get future)

/-- The pool after the given steps of its threads. -/
def scopedRun (as : List (Action (ScopedFuture manager job))) :
    State (ScopedFuture manager job) String ρ :=
  LabelledRun.exec (manager.scopedPool configuredLimit job).step
    (manager.scopedPool configuredLimit job).initial as

/-- `results[future_to_sg[future]] = future.result()`, for each future as it is taken. -/
def fileScoped (taken : List (ScopedFuture manager job × ρ)) : OrderedDict ServiceGroupId ρ :=
  (taken.map fun entry => ((manager.scopedSgIds job).get entry.1, entry.2)).foldl
    (fun results entry => results.insert entry.1 entry.2) .empty

/-- What the call has returned or raised after the given steps, if it has ended. -/
def runScopedJob (as : List (Action (ScopedFuture manager job))) :
    Option (Except String (OrderedDict ServiceGroupId ρ)) :=
  if manager.scopedSgIds job = [] then some (.ok .empty)
  else match (manager.scopedRun configuredLimit job as).phase with
    | .gathering _ => none
    | .returned taken => some (.ok (manager.fileScoped job taken))
    | .raised error => some (.error error)

/-- The groups whose worker has been called, once for each call. -/
def calledSgIds (as : List (Action (ScopedFuture manager job))) : List ServiceGroupId :=
  let pool := manager.scopedRun configuredLimit job as
  (pool.running ++ pool.finished).map (manager.scopedSgIds job).get

/-- Each worker is called once, and the call returns what each of them returns. -/
structure Isolated (as : List (Action (ScopedFuture manager job))) : Prop where
  once : ∀ sgId ∈ job.sgIds, sgId ∈ manager.serviceGroups →
    (manager.calledSgIds configuredLimit job as).count sgId = 1
  returned : ∃ results, manager.runScopedJob configuredLimit job as = some (.ok results) ∧
    ∀ sgId ∈ job.sgIds, sgId ∈ manager.serviceGroups → ∀ result,
      job.worker sgId = .ok result → results.lookup sgId = some result

variable {manager configuredLimit job}

theorem mem_scopedSgIds {sgId : ServiceGroupId} :
    sgId ∈ manager.scopedSgIds job ↔ sgId ∈ job.sgIds ∧ sgId ∈ manager.serviceGroups := by
  rw [scopedSgIds, List.mem_filter, decide_eq_true_eq]

theorem nodup_scopedSgIds (hnodup : job.sgIds.Nodup) : (manager.scopedSgIds job).Nodup :=
  hnodup.filter _

theorem sound_scopedRun (as : List (Action (ScopedFuture manager job))) :
    (manager.scopedPool configuredLimit job).Sound (manager.scopedRun configuredLimit job as) :=
  Pool.sound_exec _ as

/-- A dictionary that is filed from distinct groups has what each of them has given. -/
theorem lookup_fileScoped (hnodup : job.sgIds.Nodup) {taken : List (ScopedFuture manager job × ρ)}
    (hall : (taken.map Prod.fst).Perm (List.finRange _))
    (houtcome : ∀ entry ∈ taken,
      job.worker ((manager.scopedSgIds job).get entry.1) = .ok entry.2)
    {sgId : ServiceGroupId} (hscoped : sgId ∈ manager.scopedSgIds job) {result : ρ}
    (hresult : job.worker sgId = .ok result) :
    (manager.fileScoped job taken).lookup sgId = some result := by
  have hget : Function.Injective (manager.scopedSgIds job).get :=
    List.nodup_iff_injective_get.mp (nodup_scopedSgIds hnodup)
  have honce : (taken.map Prod.fst).Nodup := hall.nodup_iff.mpr (List.nodup_finRange _)
  obtain ⟨future, rfl⟩ := List.mem_iff_get.mp hscoped
  have hmem : future ∈ taken.map Prod.fst := hall.mem_iff.mpr (List.mem_finRange future)
  obtain ⟨entry, hentry, rfl⟩ := List.mem_map.mp hmem
  rw [houtcome entry hentry] at hresult
  rw [← Except.ok.inj hresult]
  exact OrderedDict.lookup_foldl_insert_map hget honce hentry

theorem isSome_runScopedJob (as : List (Action (ScopedFuture manager job))) :
    (manager.runScopedJob configuredLimit job as).isSome = true ↔
      manager.scopedSgIds job = [] ∨
      (manager.scopedRun configuredLimit job as).phase.ended = true := by
  unfold runScopedJob
  split
  · rename_i hnone
    exact iff_of_true rfl (Or.inl hnone)
  · rename_i hsome
    rw [or_iff_right hsome]
    cases (manager.scopedRun configuredLimit job as).phase with
    | gathering taken => exact Iff.rfl
    | returned taken => exact iff_of_true rfl rfl
    | raised error => exact iff_of_true rfl rfl

/-- A call that has waited for all its workers and returns has called each of them once. -/
theorem isolated_of_returned (hnodup : job.sgIds.Nodup) (huntimed : ScopedJob.timed job = false)
    {as : List (Action (ScopedFuture manager job))} {taken : List (ScopedFuture manager job × ρ)}
    (hsome : manager.scopedSgIds job ≠ [])
    (hreturned : (manager.scopedRun configuredLimit job as).phase = .returned taken) :
    manager.Isolated configuredLimit job as := by
  have hsound : (manager.scopedPool configuredLimit job).Sound
    (manager.scopedRun configuredLimit job as) := sound_scopedRun as
  obtain ⟨htaken, hcalled⟩ := hsound.returned huntimed hreturned
  have houtcome := hsound.phase
  rw [hreturned] at houtcome
  refine ⟨?_, manager.fileScoped job taken, ?_, ?_⟩
  · intro sgId hrequested hmanaged
    -- the called futures are all of them, each once, in some order
    have hperm : (manager.calledSgIds configuredLimit job as).Perm (manager.scopedSgIds job) := by
      have hmap := hcalled.map (manager.scopedSgIds job).get
      rwa [scopedPool, List.map_get_finRange] at hmap
    rw [hperm.count_eq]
    exact List.count_eq_one_of_mem (nodup_scopedSgIds hnodup)
      (mem_scopedSgIds.mpr ⟨hrequested, hmanaged⟩)
  · rw [runScopedJob, if_neg hsome, hreturned]
  · intro sgId hrequested hmanaged result hresult
    exact lookup_fileScoped hnodup htaken
      (fun entry hentry => (houtcome.2.1.outcome entry hentry).2)
      (mem_scopedSgIds.mpr ⟨hrequested, hmanaged⟩) hresult

/-- A call for no managed group at all has nothing to isolate. -/
theorem isolated_of_nil (as : List (Action (ScopedFuture manager job)))
    (hnone : ∀ sgId ∈ job.sgIds, sgId ∉ manager.serviceGroups) :
    manager.Isolated configuredLimit job as := by
  have hnil : manager.scopedSgIds job = [] :=
    List.eq_nil_iff_forall_not_mem.mpr fun sgId hmem =>
      hnone sgId (mem_scopedSgIds.mp hmem).1 (mem_scopedSgIds.mp hmem).2
  refine ⟨fun sgId hrequested hmanaged => absurd hmanaged (hnone sgId hrequested), .empty,
    if_pos hnil, fun sgId hrequested hmanaged => absurd hmanaged (hnone sgId hrequested)⟩

theorem returned_of_runScopedJob {as : List (Action (ScopedFuture manager job))}
    {results : OrderedDict ServiceGroupId ρ} (hsome : manager.scopedSgIds job ≠ [])
    (hresults : manager.runScopedJob configuredLimit job as = some (.ok results)) :
    ∃ taken, (manager.scopedRun configuredLimit job as).phase = .returned taken := by
  rw [runScopedJob, if_neg hsome] at hresults
  cases hphase : (manager.scopedRun configuredLimit job as).phase with
  | gathering taken => rw [hphase] at hresults; cases hresults
  | returned taken => exact ⟨taken, rfl⟩
  | raised error => rw [hphase] at hresults; cases hresults

/-- A call that has ended has isolated its workers exactly when none of them has raised. -/
theorem isolated_iff (hnodup : job.sgIds.Nodup) (huntimed : ScopedJob.timed job = false)
    {as : List (Action (ScopedFuture manager job))}
    (hended : (manager.runScopedJob configuredLimit job as).isSome = true) :
    manager.Isolated configuredLimit job as ↔
      ∀ sgId ∈ job.sgIds, sgId ∈ manager.serviceGroups → ∃ result,
        job.worker sgId = .ok result := by
  by_cases hsome : manager.scopedSgIds job = []
  · have hnone (sgId : ServiceGroupId) (hrequested : sgId ∈ job.sgIds) :
        sgId ∉ manager.serviceGroups := fun hmanaged =>
      List.eq_nil_iff_forall_not_mem.mp hsome sgId (mem_scopedSgIds.mpr ⟨hrequested, hmanaged⟩)
    exact iff_of_true (isolated_of_nil as hnone)
      fun sgId hrequested hmanaged => absurd hmanaged (hnone sgId hrequested)
  have hend := ((isSome_runScopedJob as).mp hended).resolve_left hsome
  have hiff := Pool.Sound.returned_iff (sound_scopedRun as) huntimed hend
  constructor
  · intro hisolated sgId hrequested hmanaged
    -- a call that has raised has no results at all
    obtain ⟨results, hresults, -⟩ := hisolated.returned
    obtain ⟨future, hfuture⟩ :=
      List.mem_iff_get.mp (mem_scopedSgIds.mpr ⟨hrequested, hmanaged⟩)
    have hok : ∃ result, job.worker ((manager.scopedSgIds job).get future) = .ok result :=
      hiff.mp (returned_of_runScopedJob hsome hresults) future (List.mem_finRange future)
    rwa [hfuture] at hok
  · intro hall
    obtain ⟨taken, hreturned⟩ := hiff.mpr fun future _ =>
      have hmem := mem_scopedSgIds.mp (List.get_mem (manager.scopedSgIds job) future)
      hall _ hmem.1 hmem.2
    exact isolated_of_returned hnodup huntimed hsome hreturned

/-- However its threads are scheduled, a call without a timeout comes to an end. When it has ended,
its workers were isolated exactly when none of them has raised. -/
theorem scoped_job_isolated_iff (hnodup : job.sgIds.Nodup)
    (huntimed : ScopedJob.timed job = false) :
    (∀ as, (manager.runScopedJob configuredLimit job as).isSome = true →
      (manager.Isolated configuredLimit job as ↔
        ∀ sgId ∈ job.sgIds, sgId ∈ manager.serviceGroups → ∃ result,
          job.worker sgId = .ok result)) ∧
    (∀ as, ∃ bs, (manager.runScopedJob configuredLimit job (as ++ bs)).isSome = true) ∧
    ∀ as, LabelledRun.Guarded (manager.scopedPool configuredLimit job).step
        (fun pool a => (manager.scopedPool configuredLimit job).step pool a ≠ pool)
        (manager.scopedPool configuredLimit job).initial as →
      as.length ≤ 3*(manager.scopedSgIds job).length+1 := by
  refine ⟨fun as hended => isolated_iff hnodup huntimed hended, ?_, ?_⟩
  · intro as
    have hsound : (manager.scopedPool configuredLimit job).Sound
      (manager.scopedRun configuredLimit job as) := sound_scopedRun as
    obtain ⟨bs, hbs⟩ := Pool.exists_ended hsound
    refine ⟨bs, (isSome_runScopedJob _).mpr (Or.inr ?_)⟩
    rwa [scopedRun, LabelledRun.exec_append]
  · intro as hsteps
    have hlength := Pool.length_le_rank Pool.sound_initial hsteps
    rwa [Pool.rank_initial, scopedPool, List.length_finRange] at hlength

section Pair

/-- A manager of two groups, and a call for both of them. -/
def pairManager : SgwManager where
  settings := .default
  serviceGroups := [1, 2]
  jitterProvider _ _ := 0

def pairJob (worker : ServiceGroupId → Except String ℕ) : ScopedJob ℕ where
  sgIds := [1, 2]
  worker := worker

theorem length_pair (worker : ServiceGroupId → Except String ℕ) :
    (pairManager.scopedSgIds (pairJob worker)).length = 2 := rfl

def pairFuture (worker : ServiceGroupId → Except String ℕ) (i : Fin 2) :
    ScopedFuture pairManager (pairJob worker) := Fin.cast (length_pair worker).symm i

/-- Both workers run at once, the second one finishes first. -/
def pairRun (worker : ServiceGroupId → Except String ℕ) :
    List (Action (ScopedFuture pairManager (pairJob worker))) :=
  [.start, .start, .finish (pairFuture worker 1), .take (pairFuture worker 1),
    .finish (pairFuture worker 0), .take (pairFuture worker 0), .close]

theorem scoped_pair_isolated :
    pairManager.Isolated 2 (pairJob fun sgId => .ok (10*sgId))
      (pairRun fun sgId => .ok (10*sgId)) := by
  have hiff := (@scoped_job_isolated_iff ℕ pairManager 2 (pairJob fun sgId => .ok (10*sgId))
    (by decide) rfl).1 (pairRun fun sgId => .ok (10*sgId)) rfl
  exact hiff.mpr fun sgId _ _ => ⟨10*sgId, rfl⟩

def firstFails (sgId : ServiceGroupId) : Except String ℕ :=
  if sgId = 1 then .error "unreachable" else .ok (10*sgId)

/-- The result of the second group is lost though it had been taken already. With one thread the
second worker is not even called. -/
theorem one_failure_loses_all :
    pairManager.runScopedJob 2 (pairJob firstFails) (pairRun firstFails) =
      some (.error "unreachable") ∧
    ¬pairManager.Isolated 2 (pairJob firstFails) (pairRun firstFails) ∧
    pairManager.calledSgIds 1 (pairJob firstFails)
      [.start, .finish (pairFuture firstFails 0), .take (pairFuture firstFails 0), .start] =
        [1] := by
  have hraised : pairManager.runScopedJob 2 (pairJob firstFails) (pairRun firstFails) =
      some (.error "unreachable") := rfl
  refine ⟨hraised, fun hisolated => ?_, rfl⟩
  obtain ⟨results, hresults, -⟩ := hisolated.returned
  rw [hraised] at hresults
  cases hresults

end Pair
end SgwManager
end PypnmCmts
