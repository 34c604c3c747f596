import PypnmCmts.CaptureExecutor

/-! What every run of the capture executor keeps, what it returns, and that it comes to its end. -/
namespace PypnmCmts.PnmCaptureExecutor

open LabelledRun

/-- No HTTP status and no reading of the clock is negative. -/
def ExecutorAction.Nonneg : ExecutorAction → Prop
  | start _ now => 0 ≤ now
  | respond _ response _ _ now => 0 ≤ response.statusCode ∧ 0 ≤ now
  | postTimeout _ _ _ now => 0 ≤ now
  | finish now => ∀ i, 0 ≤ now i
  | _ => True

/-- A result that the executor may give for the job. -/
structure ResultOf (settings : PnmCaptureExecutionSettings) (job : PnmCaptureJobModel)
    (result : PnmCaptureResultModel) : Prop where
  macAddress : result.macAddress = job.macAddress
  ipv4 : result.ipv4 = job.ipv4
  ipv6 : result.ipv6 = job.ipv6
  attempts_le : result.attempts ≤ settings.retryCount+1
  attempts_eq_zero : result.attempts = 0 ↔ result.failureReason = some .overallTimeout
  success_iff : result.status = .success ↔ result.failureReason = none

/-- An attempt fails with a reason, and not with the overall timeout's. -/
theorem resolveFailureReason_ne_overallTimeout (parsed : Option PnmCaptureParsedModel)
    (response : Option PnmHttpResponseModel) :
    resolveFailureReason parsed response ≠ some .overallTimeout := by
  intro h
  cases response with
  | none => cases h
  | some response =>
    cases parsed with
    | none =>
      simp only [resolveFailureReason] at h
      split_ifs at h <;> cases h
    | some parsed =>
      simp only [resolveFailureReason] at h
      split_ifs at h <;> cases h

/-- Where there is no reason for a failure there is a success. -/
theorem resolveStatus_of_no_reason {parsed : Option PnmCaptureParsedModel}
    {response : Option PnmHttpResponseModel} (h : resolveFailureReason parsed response = none) :
    resolveStatus parsed response = .success := by
  cases response with
  | none => cases h
  | some response =>
    simp only [resolveFailureReason] at h
    split_ifs at h with herror hmessage hstatus
    simp only [resolveStatus, if_neg hstatus]
    cases parsed with
    | none => cases h
    | some parsed =>
      dsimp only at h ⊢
      split_ifs at h with hsuccess
      rw [if_pos (not_not.mp hsuccess)]

variable {settings : PnmCaptureExecutionSettings} {job : PnmCaptureJobModel}

theorem jobResult_of_nonneg {startedEpoch finishedEpoch : ℚ} {attempt : ℕ}
    {response : PnmHttpResponseModel} {parsed : PnmCaptureParsedModel}
    (hstatus : 0 ≤ response.statusCode) (hstarted : 0 ≤ startedEpoch)
    (hfinished : 0 ≤ finishedEpoch) (hone : 1 ≤ attempt) (hle : attempt ≤ settings.retryCount+1) :
    ∃ result, jobResult job startedEpoch finishedEpoch attempt response parsed = some result ∧
      ResultOf settings job result := by
  have hvalid : 0 ≤ response.statusCode ∧ 0 ≤ startedEpoch ∧ 0 ≤ finishedEpoch :=
    ⟨hstatus, hstarted, hfinished⟩
  simp only [jobResult, dif_pos hvalid]
  refine ⟨_, rfl, rfl, rfl, rfl, hle, ?_, ?_⟩
  · have hzero : attempt ≠ 0 := by omega
    refine iff_of_false hzero ?_
    dsimp only
    split_ifs
    · exact fun h => by cases h
    · exact resolveFailureReason_ne_overallTimeout _ _
  · dsimp only
    constructor
    · intro hsuccess
      rw [if_pos hsuccess]
    · intro hnone
      by_contra hfailed
      rw [if_neg hfailed] at hnone
      exact hfailed (resolveStatus_of_no_reason hnone)

theorem buildTimeoutResult_of_nonneg {startedEpoch finishedEpoch : ℚ} {message : String}
    (hstarted : 0 ≤ startedEpoch) (hfinished : 0 ≤ finishedEpoch) :
    ∃ result, buildTimeoutResult job startedEpoch finishedEpoch .overallTimeout message =
        some result ∧ ResultOf settings job result := by
  have hvalid : 0 ≤ startedEpoch ∧ 0 ≤ finishedEpoch := ⟨hstarted, hfinished⟩
  simp only [buildTimeoutResult, dif_pos hvalid]
  refine ⟨_, rfl, rfl, rfl, rfl, Nat.zero_le _, iff_of_true rfl rfl, iff_of_false ?_ ?_⟩
  · exact fun h => by cases h
  · exact fun h => by cases h

/-- What is known of the task of a job. -/
def TaskSound (settings : PnmCaptureExecutionSettings) (job : PnmCaptureJobModel) :
    TaskState → Prop
  | .created | .cancelled => True
  | .acquiring startedEpoch attempt | .posting startedEpoch attempt =>
    0 ≤ startedEpoch ∧ 1 ≤ attempt ∧ attempt ≤ settings.retryCount+1
  | .sleeping startedEpoch attempt =>
    0 ≤ startedEpoch ∧ 1 ≤ attempt ∧ attempt ≤ settings.retryCount
  | .finished result => ∃ r, result = some r ∧ ResultOf settings job r

theorem taskSound_afterAttempt {startedEpoch now : ℚ} {attempt : ℕ}
    {response : PnmHttpResponseModel} (parsed : PnmCaptureParsedModel) (retry : Bool)
    (h : TaskSound settings job (.posting startedEpoch attempt))
    (hstatus : 0 ≤ response.statusCode) (hnow : 0 ≤ now) :
    TaskSound settings job
      (afterAttempt settings job startedEpoch attempt response parsed retry now) := by
  obtain ⟨hstarted, hone, hle⟩ := h
  rw [afterAttempt]
  split_ifs with hlast hdelay
  · exact jobResult_of_nonneg hstatus hstarted hnow hone hle
  · have hleft : attempt ≤ settings.retryCount := by
      by_contra hmore
      exact hlast (.inl (by omega))
    exact ⟨hstarted, hone, hleft⟩
  · have hleft : attempt ≤ settings.retryCount := by
      by_contra hmore
      exact hlast (.inl (by omega))
    exact ⟨hstarted, by omega, by omega⟩

/-- A list that is looked up index by index matches the indexed one. -/
theorem forall₂_filterMap_range {α β : Type*} {P : α → β → Prop} {l : List α} {f : ℕ → Option β}
    (h : ∀ i a, l[i]? = some a → ∃ b, f i = some b ∧ P a b) :
    List.Forall₂ P l ((List.range l.length).filterMap f) := by
  induction l generalizing f with
  | nil => exact .nil
  | cons a l ih =>
    obtain ⟨b, hb, hab⟩ := h 0 a rfl
    have hrest : List.Forall₂ P l ((List.range l.length).filterMap (f ∘ Nat.succ)) :=
      ih fun i a' hi => h (i+1) a' hi
    rw [List.length_cons, List.range_succ_eq_map, List.filterMap_cons_some hb,
      List.filterMap_map]
    exact .cons hab hrest

theorem gather_eq_some {tasks : ℕ → TaskState} {done : List ℕ}
    (h : ∀ i ∈ done, (tasks i).result.isSome = true) :
    gather tasks done = some (done.filterMap fun i => (tasks i).result) := by
  induction done with
  | nil => rfl
  | cons i done ih =>
    obtain ⟨r, hr⟩ := Option.isSome_iff_exists.mp (h i List.mem_cons_self)
    have hrest := ih fun j hj => h j (List.mem_cons_of_mem _ hj)
    rw [gather] at hrest ⊢
    rw [List.mapM_cons, hrest, hr, List.filterMap_cons_some (f := fun i => (tasks i).result) hr]
    rfl

theorem lookup_foldl_zip {tasks : ℕ → TaskState} {done : List ℕ} (d : ResultsByIndex)
    (h : ∀ i ∈ done, (tasks i).result.isSome = true) (a : ℕ) :
    ((done.zip (done.filterMap fun i => (tasks i).result)).foldl
        (fun d entry => d.insert entry.1 entry.2) d).lookup a =
      if a ∈ done then (tasks a).result else d.lookup a := by
  induction done generalizing d with
  | nil => rw [if_neg List.not_mem_nil]; rfl
  | cons i done ih =>
    obtain ⟨r, hr⟩ := Option.isSome_iff_exists.mp (h i List.mem_cons_self)
    rw [List.filterMap_cons_some (f := fun i => (tasks i).result) hr, List.zip_cons_cons,
      List.foldl_cons, ih _ fun j hj => h j (List.mem_cons_of_mem _ hj), OrderedDict.lookup_insert]
    by_cases ha : a ∈ done
    · rw [if_pos ha, if_pos (List.mem_cons_of_mem _ ha)]
    · by_cases hai : a = i
      · subst hai
        rw [if_neg ha, if_pos rfl, if_pos List.mem_cons_self, hr]
      · rw [if_neg ha, if_neg hai, if_neg (by simp [ha, hai])]

theorem lookup_fileResults {tasks : ℕ → TaskState} {done : List ℕ}
    (h : ∀ i ∈ done, (tasks i).result.isSome = true) (a : ℕ) :
    (fileResults done (done.filterMap fun i => (tasks i).result)).lookup a =
      if a ∈ done then (tasks a).result else none := by
  rw [fileResults, lookup_foldl_zip .empty h]
  rfl

variable {jobs : List PnmCaptureJobModel}

/-- Every result is that of the job under whose index it is filed. -/
def Filed (settings : PnmCaptureExecutionSettings) (jobs : List PnmCaptureJobModel)
    (results : ResultsByIndex) : Prop :=
  ∀ i r, results.lookup i = some r → ∃ job, jobs[i]? = some job ∧ ResultOf settings job r

theorem Filed.ordered {results : ResultsByIndex} (h : Filed settings jobs results)
    (hall : ∀ i < jobs.length, i ∈ results.keys) :
    List.Forall₂ (ResultOf settings) jobs (ordered jobs.length results) := by
  apply forall₂_filterMap_range
  intro i job hjob
  have hi : i < jobs.length := (List.getElem?_eq_some_iff.mp hjob).1
  obtain ⟨r, hr⟩ := (results.lookup_isSome_iff i).mpr (hall i hi)
  obtain ⟨job', hjob', hresult⟩ := h i r hr
  rw [hjob] at hjob'
  obtain rfl := Option.some_inj.mp hjob'
  exact ⟨r, hr, hresult⟩

theorem fillTimeouts_eq_some {startEpoch : ℚ} {now : ℕ → ℚ} (hstart : 0 ≤ startEpoch)
    (hnow : ∀ i, 0 ≤ now i) {pending : List ℕ} (hpending : ∀ i ∈ pending, i < jobs.length)
    {results : ResultsByIndex} (h : Filed settings jobs results) :
    ∃ filled, fillTimeouts jobs startEpoch now pending results = some filled ∧
      Filed settings jobs filled ∧ ∀ i, i ∈ results.keys ∨ i ∈ pending → i ∈ filled.keys := by
  induction pending generalizing results with
  | nil =>
    refine ⟨results, rfl, h, ?_⟩
    intro i hi
    exact hi.resolve_right List.not_mem_nil
  | cons i pending ih =>
    have hi := hpending i List.mem_cons_self
    have hjob : jobs[i]? = some jobs[i] := List.getElem?_eq_getElem hi
    obtain ⟨r, hr, hresult⟩ : ∃ r, buildTimeoutResult jobs[i] startEpoch (now i) .overallTimeout
        overallTimeoutMessage = some r ∧ ResultOf settings jobs[i] r :=
      buildTimeoutResult_of_nonneg hstart (hnow i)
    have hinsert : Filed settings jobs (results.insert i r) := by
      intro j r' hj
      rw [OrderedDict.lookup_insert] at hj
      split_ifs at hj with hji
      · obtain rfl := Option.some_inj.mp hj
        rw [hji]
        exact ⟨jobs[i], hjob, hresult⟩
      · exact h j r' hj
    obtain ⟨filled, hfilled, hfiled, hkeys⟩ :=
      ih (fun j hj => hpending j (List.mem_cons_of_mem _ hj)) hinsert
    refine ⟨filled, ?_, hfiled, ?_⟩
    · rw [fillTimeouts, hjob, Option.bind_some, hr]
      exact hfilled
    · intro j hj
      apply hkeys
      rw [OrderedDict.mem_keys_insert]
      rcases hj with hj | hj
      · exact .inl (.inr hj)
      · rcases List.mem_cons.mp hj with rfl | hj
        · exact .inl (.inl rfl)
        · exact .inr hj

namespace ExecutorState
variable {s : ExecutorState}

theorem setTask_tasks (i : ℕ) (t : TaskState) (j : ℕ) :
    (s.setTask i t).tasks j = if j = i then t else s.tasks j :=
  Function.update_apply s.tasks i t j

/-- A task that is not posting then takes no place. -/
theorem inFlight_setTask_le (n i : ℕ) {t : TaskState} (ht : t.isPosting = false) :
    (s.setTask i t).inFlight n ≤ s.inFlight n := by
  apply Finset.card_le_card
  intro j hj
  rw [Finset.mem_filter] at hj ⊢
  refine ⟨hj.1, ?_⟩
  rw [setTask_tasks] at hj
  split_ifs at hj
  · rw [ht] at hj
    cases hj.2
  · exact hj.2

theorem inFlight_setTask_le_succ (n i : ℕ) (t : TaskState) :
    (s.setTask i t).inFlight n ≤ s.inFlight n+1 := by
  refine (Finset.card_le_card ?_).trans (Finset.card_insert_le i _)
  intro j hj
  rw [Finset.mem_filter, setTask_tasks] at hj
  rw [Finset.mem_insert, Finset.mem_filter]
  by_cases hji : j = i
  · exact .inl hji
  · rw [if_neg hji] at hj
    exact .inr hj

/-- What is known of where `run` stands. -/
def PhaseSound (settings : PnmCaptureExecutionSettings) (jobs : List PnmCaptureJobModel)
    (tasks : ℕ → TaskState) : RunPhase → Prop
  | .awaiting => ∀ i, tasks i ≠ .cancelled
  | .collecting done pending =>
    (done ++ pending).Perm (List.range jobs.length) ∧ ∀ i ∈ done, (tasks i).isFinished = true
  | .cancelling pending results =>
    Filed settings jobs results ∧ (∀ i ∈ pending, i < jobs.length) ∧
      ∀ i < jobs.length, i ∈ results.keys ∨ i ∈ pending
  | .returned results => List.Forall₂ (ResultOf settings) jobs results
  | .raised => False

/-- What every run keeps. -/
structure Sound (settings : PnmCaptureExecutionSettings) (jobs : List PnmCaptureJobModel)
    (s : ExecutorState) : Prop where
  startEpoch : 0 ≤ s.startEpoch
  tasks : ∀ i job, jobs[i]? = some job → TaskSound settings job (s.tasks i)
  inFlight : s.inFlight jobs.length ≤ settings.maxWorkers
  phase : PhaseSound settings jobs s.tasks s.phase

theorem sound_initial {startEpoch : ℚ} (hstart : 0 ≤ startEpoch) :
    Sound settings jobs (initial jobs startEpoch) where
  startEpoch := hstart
  tasks _ _ _ := trivial
  inFlight := by
    have hnone : (initial jobs startEpoch).inFlight jobs.length = 0 := by
      rw [inFlight, Finset.card_eq_zero, Finset.filter_eq_empty_iff]
      exact fun _ _ h => by cases h
    rw [hnone]
    exact Nat.zero_le _
  phase := by
    rw [initial]
    cases jobs with
    | nil => exact .nil
    | cons job jobs => exact fun _ h => by cases h

theorem Sound.setTask (h : Sound settings jobs s) {i : ℕ} {t : TaskState}
    (htask : ∀ job, jobs[i]? = some job → TaskSound settings job t)
    (hold : (s.tasks i).isFinished = false)
    (hflight : (s.setTask i t).inFlight jobs.length ≤ settings.maxWorkers)
    (hcancel : s.phase = .awaiting → t ≠ .cancelled) : Sound settings jobs (s.setTask i t) where
  startEpoch := h.startEpoch
  tasks := by
    intro j job hjob
    rw [setTask_tasks]
    split_ifs with hji
    · exact htask job (hji ▸ hjob)
    · exact h.tasks j job hjob
  inFlight := hflight
  phase := by
    have hphase := h.phase
    change PhaseSound settings jobs (s.setTask i t).tasks s.phase
    cases hs : s.phase with
    | awaiting =>
      rw [hs] at hphase
      intro j
      rw [setTask_tasks]
      split_ifs
      · exact hcancel hs
      · exact hphase j
    | collecting done pending =>
      rw [hs] at hphase
      refine ⟨hphase.1, ?_⟩
      intro j hj
      rw [setTask_tasks]
      split_ifs with hji
      · -- the task that moves had not finished
        have hdone := hphase.2 j hj
        rw [hji, hold] at hdone
        cases hdone
      · exact hphase.2 j hj
    | cancelling | returned | raised =>
      rw [hs] at hphase
      exact hphase

/-- The tasks stay as they are. -/
theorem Sound.goto (h : Sound settings jobs s) {phase : RunPhase}
    (hphase : PhaseSound settings jobs s.tasks phase) :
    Sound settings jobs { s with phase := phase } :=
  ⟨h.startEpoch, h.tasks, h.inFlight, hphase⟩

theorem result_of_finished {i : ℕ} (h : Sound settings jobs s) (hi : i < jobs.length)
    (hfinished : (s.tasks i).isFinished = true) :
    ∃ r, (s.tasks i).result = some r ∧ ResultOf settings jobs[i] r := by
  have htask := h.tasks i jobs[i] (List.getElem?_eq_getElem hi)
  cases hs : s.tasks i with
  | finished result =>
    rw [hs] at htask
    obtain ⟨r, rfl, hr⟩ := htask
    exact ⟨r, rfl, hr⟩
  | _ =>
    rw [hs] at hfinished
    cases hfinished

theorem sound_answered (h : Sound settings jobs s) (i : ℕ) {response : PnmHttpResponseModel}
    (parsed : PnmCaptureParsedModel) (retry : Bool) {now : ℚ} (hstatus : 0 ≤ response.statusCode)
    (hnow : 0 ≤ now) : Sound settings jobs
      (s.answered settings jobs i response parsed retry now) := by
  rw [answered]
  split
  next job startedEpoch attempt hjob hs =>
    have htask := h.tasks i job hjob
    rw [hs] at htask
    have hafter := taskSound_afterAttempt parsed retry htask hstatus hnow
    have hposting : (afterAttempt settings job startedEpoch attempt response parsed retry
        now).isPosting = false := by
      rw [afterAttempt]
      split_ifs <;> rfl
    refine h.setTask ?_ (by rw [hs]; rfl) ?_ ?_
    · intro job' hjob'
      rw [hjob] at hjob'
      obtain rfl := Option.some_inj.mp hjob'
      exact hafter
    · exact (inFlight_setTask_le _ _ hposting).trans h.inFlight
    · intro _
      rw [afterAttempt]
      split_ifs <;> exact TaskState.noConfusion
  next => exact h

theorem sound_gatherAll (h : Sound settings jobs s) : Sound settings jobs (s.gatherAll jobs) := by
  have hresult (i : ℕ) (hi : i < jobs.length) (hfinished : (s.tasks i).isFinished = true) :=
    result_of_finished h hi hfinished
  rw [gatherAll]
  split_ifs with hfailed hall
  · -- no task fails, so `gather` raises nothing
    obtain ⟨i, hi, hfail⟩ := List.any_eq_true.mp hfailed
    have hfinished : (s.tasks i).isFinished = true := by
      cases hs : s.tasks i with
      | finished => rfl
      | _ =>
        rw [hs] at hfail
        cases hfail
    obtain ⟨r, hr, -⟩ := hresult i (List.mem_range.mp hi) hfinished
    cases hs : s.tasks i with
    | finished result =>
      rw [hs] at hfail hr
      cases result with
      | none => cases hr
      | some => cases hfail
    | _ =>
      rw [hs] at hfail
      cases hfail
  · rw [List.all_eq_true] at hall
    have hsome : ∀ i ∈ List.range jobs.length, (s.tasks i).result.isSome = true := by
      intro i hi
      obtain ⟨r, hr, -⟩ := hresult i (List.mem_range.mp hi) (hall i hi)
      rw [hr]
      rfl
    rw [gather_eq_some hsome]
    refine h.goto (forall₂_filterMap_range ?_)
    intro i job hjob
    obtain ⟨hi, rfl⟩ := List.getElem?_eq_some_iff.mp hjob
    exact hresult i hi (hall i (List.mem_range.mpr hi))
  · exact h

theorem sound_collected (h : Sound settings jobs s) {done pending : List ℕ}
    (hperm : (done ++ pending).Perm (List.range jobs.length))
    (hdone : ∀ i ∈ done, (s.tasks i).isFinished = true) :
    Sound settings jobs (s.collected jobs done pending) := by
  have hlt : ∀ i ∈ done ++ pending, i < jobs.length := fun i hi =>
    List.mem_range.mp (hperm.mem_iff.mp hi)
  have hresult (i : ℕ) (hi : i ∈ done) :=
    result_of_finished h (hlt i (List.mem_append_left _ hi)) (hdone i hi)
  have hsome : ∀ i ∈ done, (s.tasks i).result.isSome = true := by
    intro i hi
    obtain ⟨r, hr, -⟩ := hresult i hi
    rw [hr]
    rfl
  have hlookup := lookup_fileResults hsome
  -- the results filed so far are those of the done tasks
  have hfiled : Filed settings jobs
      (fileResults done (done.filterMap fun i => (s.tasks i).result)) := by
    intro i r hr
    rw [hlookup] at hr
    split_ifs at hr with hi
    obtain ⟨r', hr', hof⟩ := hresult i hi
    rw [hr'] at hr
    obtain rfl := Option.some_inj.mp hr
    exact ⟨_, List.getElem?_eq_getElem (hlt i (List.mem_append_left _ hi)), hof⟩
  have hkeys : ∀ i < jobs.length,
      i ∈ (fileResults done (done.filterMap fun i => (s.tasks i).result)).keys ∨ i ∈ pending := by
    intro i hi
    rcases List.mem_append.mp (hperm.mem_iff.mpr (List.mem_range.mpr hi)) with hmem | hmem
    · left
      rw [← OrderedDict.lookup_isSome_iff, hlookup, if_pos hmem]
      exact Option.isSome_iff_exists.mp (hsome i hmem)
    · exact .inr hmem
  rw [collected, gather_eq_some hsome]
  dsimp only
  split_ifs with hpending
  · refine h.goto (hfiled.ordered ?_)
    intro i hi
    rw [List.isEmpty_iff.mp hpending] at hkeys
    exact (hkeys i hi).resolve_right List.not_mem_nil
  · exact h.goto ⟨hfiled, fun i hi => hlt i (List.mem_append_right _ hi), hkeys⟩

theorem sound_step (a : ExecutorAction) (ha : a.Nonneg) (h : Sound settings jobs s) :
    Sound settings jobs (s.step settings jobs a) := by
  cases a with
  | start i now =>
    simp only [step]
    split
    next hjob hs =>
      refine h.setTask ?_ (by rw [hs]; rfl) ((inFlight_setTask_le _ _ rfl).trans h.inFlight)
        fun _ => TaskState.noConfusion
      exact fun _ _ => ⟨ha, le_rfl, Nat.le_add_left _ _⟩
    next => exact h
  | acquire i =>
    simp only [step]
    split
    next startedEpoch attempt _ hs =>
      split_ifs with hfree
      · refine h.setTask ?_ (by rw [hs]; rfl) ?_ fun _ => TaskState.noConfusion
        · intro job hjob
          have htask := h.tasks i job hjob
          rw [hs] at htask
          exact htask
        · exact (inFlight_setTask_le_succ _ _ _).trans hfree
      · exact h
    next => exact h
  | respond i response parsed retry now => exact sound_answered h i parsed retry ha.1 ha.2
  | postTimeout i parsed retry now =>
    simp only [step]
    split_ifs
    · exact sound_answered h i parsed retry le_rfl ha
    · exact h
  | wake i =>
    simp only [step]
    split
    next startedEpoch attempt _ hs =>
      refine h.setTask ?_ (by rw [hs]; rfl) ((inFlight_setTask_le _ _ rfl).trans h.inFlight)
        fun _ => TaskState.noConfusion
      intro job hjob
      have htask := h.tasks i job hjob
      rw [hs] at htask
      obtain ⟨hstarted, hone, hle⟩ := htask
      exact ⟨hstarted, by omega, by omega⟩
    next => exact h
  | wait order =>
    simp only [step]
    split
    next hs =>
      split_ifs with hnone hperm
      · exact sound_gatherAll h
      · refine h.goto ⟨?_, ?_⟩
        · exact (List.filter_append_perm _ _).trans hperm
        · exact fun i hi => (List.mem_filter.mp hi).2
      · exact h
    next => exact h
  | collect =>
    simp only [step]
    split
    next done pending hs =>
      have hphase := h.phase
      rw [hs] at hphase
      exact sound_collected h hphase.1 hphase.2
    next => exact h
  | cancel i =>
    simp only [step]
    split
    next pending results hs =>
      split_ifs with hpending
      · have hold : (s.tasks i).isFinished = false := by
          cases ht : s.tasks i with
          | finished =>
            rw [ht] at hpending
            exact hpending.2
          | _ => rfl
        refine h.setTask (fun _ _ => trivial) hold
          ((inFlight_setTask_le _ _ rfl).trans h.inFlight) ?_
        intro hawaiting
        rw [hs] at hawaiting
        cases hawaiting
      · exact h
    next => exact h
  | finish now =>
    simp only [step]
    split
    next pending results hs =>
      have hphase := h.phase
      rw [hs] at hphase
      obtain ⟨hfiled, hlt, hkeys⟩ := hphase
      split_ifs
      · obtain ⟨filled, hfilled, hall, hmem⟩ := fillTimeouts_eq_some h.startEpoch ha hlt hfiled
        rw [hfilled]
        exact h.goto (hall.ordered fun i hi => hmem i (hkeys i hi))
      · exact h
    next => exact h

theorem sound_exec {as : List ExecutorAction} (has : ∀ a ∈ as, a.Nonneg)
    (h : Sound settings jobs s) : Sound settings jobs (exec (step settings jobs) s as) :=
  invariant_of_guarded (I := Sound settings jobs) (fun _ a ha hs => sound_step a ha hs)
    (guarded_of_forall has) h

/-- The steps that a task has left at most. -/
def taskWork (retryCount : ℕ) : TaskState → ℕ
  | .created => 3*(retryCount+1)+1
  | .acquiring _ attempt => 3*(retryCount+2-attempt)
  | .posting _ attempt => 3*(retryCount+2-attempt)-1
  | .sleeping _ attempt => 3*(retryCount+2-attempt)-2
  | .finished _ | .cancelled => 0

def phaseWork : RunPhase → ℕ
  | .awaiting => 3
  | .collecting _ _ => 2
  | .cancelling _ _ => 1
  | .returned _ | .raised => 0

def work (settings : PnmCaptureExecutionSettings) (jobs : List PnmCaptureJobModel)
    (s : ExecutorState) : ℕ :=
  ∑ i ∈ Finset.range jobs.length, taskWork settings.retryCount (s.tasks i)+phaseWork s.phase

theorem work_setTask_lt {i : ℕ} (hi : i < jobs.length) {t : TaskState}
    (ht : taskWork settings.retryCount t < taskWork settings.retryCount (s.tasks i)) :
    work settings jobs (s.setTask i t) < work settings jobs s := by
  apply Nat.add_lt_add_right
  refine Finset.sum_lt_sum ?_ ⟨i, Finset.mem_range.mpr hi, ?_⟩
  · intro j _
    rw [setTask_tasks]
    split_ifs with hji
    · rw [hji]
      exact ht.le
    · exact le_rfl
  · rw [setTask_tasks, if_pos rfl]
    exact ht

theorem work_goto_lt {phase : RunPhase} (hphase : phaseWork phase < phaseWork s.phase) :
    work settings jobs { s with phase := phase } < work settings jobs s :=
  Nat.add_lt_add_left hphase _

/-- An attempt that is answered leaves less to do: one attempt fewer, or none at all. -/
theorem taskWork_afterAttempt_lt {startedEpoch now : ℚ} {attempt : ℕ}
    {response : PnmHttpResponseModel} {parsed : PnmCaptureParsedModel} {retry : Bool}
    (hle : attempt ≤ settings.retryCount+1) :
    taskWork settings.retryCount
        (afterAttempt settings job startedEpoch attempt response parsed retry now) <
      taskWork settings.retryCount (.posting startedEpoch attempt) := by
  rw [afterAttempt]
  split_ifs with hlast
  · simp only [taskWork]
    omega
  · simp only [taskWork]
    omega
  · have hleft : ¬ settings.retryCount < attempt := fun hlt => hlast (.inl hlt)
    simp only [taskWork]
    omega

theorem answered_work (h : Sound settings jobs s) (i : ℕ) (response : PnmHttpResponseModel)
    (parsed : PnmCaptureParsedModel) (retry : Bool) (now : ℚ) :
    s.answered settings jobs i response parsed retry now = s ∨
      work settings jobs (s.answered settings jobs i response parsed retry now) <
        work settings jobs s := by
  rw [answered]
  split
  next job startedEpoch attempt hjob hs =>
    have htask := h.tasks i job hjob
    rw [hs] at htask
    refine .inr (work_setTask_lt (List.getElem?_eq_some_iff.mp hjob).1 ?_)
    rw [hs]
    exact taskWork_afterAttempt_lt htask.2.2
  next => exact .inl rfl

/-- A task that has not ended has a step left. -/
theorem taskWork_pos {task : TaskState} (htask : TaskSound settings job task)
    (hopen : task.isEnded = false) : 0 < taskWork settings.retryCount task := by
  cases task with
  | finished | cancelled => cases hopen
  | created =>
    simp only [taskWork]
    omega
  | acquiring | posting | sleeping =>
    obtain ⟨-, -, hle⟩ := htask
    simp only [taskWork]
    omega

theorem gatherAll_work (hs : s.phase = .awaiting) :
    s.gatherAll jobs = s ∨ work settings jobs (s.gatherAll jobs) < work settings jobs s := by
  have hdrop {phase : RunPhase} (hphase : phaseWork phase < 3) :
      work settings jobs { s with phase := phase } < work settings jobs s :=
    work_goto_lt (by rw [hs]; exact hphase)
  rw [gatherAll]
  split_ifs
  · exact .inr (hdrop (by decide))
  · split
    · exact .inr (hdrop (by simp only [phaseWork]; omega))
    · exact .inl rfl
  · exact .inl rfl

theorem collected_work {done pending : List ℕ} (hs : s.phase = .collecting done pending) :
    work settings jobs (s.collected jobs done pending) < work settings jobs s := by
  have hdrop {phase : RunPhase} (hphase : phaseWork phase < 2) :
      work settings jobs { s with phase := phase } < work settings jobs s :=
    work_goto_lt (by rw [hs]; exact hphase)
  rw [collected]
  split
  · exact hdrop (by decide)
  · dsimp only
    split_ifs
    · exact hdrop (by simp only [phaseWork]; omega)
    · exact hdrop (by simp only [phaseWork]; omega)

/-- A step that has an effect leaves less to do. -/
theorem step_eq_or_work_lt (h : Sound settings jobs s) (a : ExecutorAction) :
    s.step settings jobs a = s ∨
      work settings jobs (s.step settings jobs a) < work settings jobs s := by
  have hlt {i : ℕ} {job : PnmCaptureJobModel} (hjob : jobs[i]? = some job) : i < jobs.length :=
    (List.getElem?_eq_some_iff.mp hjob).1
  cases a with
  | start i now =>
    simp only [step]
    split
    next hjob hs =>
      refine .inr (work_setTask_lt (hlt hjob) ?_)
      rw [hs]
      simp only [taskWork]
      omega
    next => exact .inl rfl
  | acquire i =>
    simp only [step]
    split
    next startedEpoch attempt hjob hs =>
      split_ifs
      · have htask := h.tasks i _ hjob
        rw [hs] at htask
        obtain ⟨-, -, hle⟩ := htask
        refine .inr (work_setTask_lt (hlt hjob) ?_)
        rw [hs]
        simp only [taskWork]
        omega
      · exact .inl rfl
    next => exact .inl rfl
  | respond i response parsed retry now => exact answered_work h i response parsed retry now
  | postTimeout i parsed retry now =>
    simp only [step]
    split_ifs
    · exact answered_work h i timeoutResponse parsed retry now
    · exact .inl rfl
  | wake i =>
    simp only [step]
    split
    next startedEpoch attempt hjob hs =>
      have htask := h.tasks i _ hjob
      rw [hs] at htask
      obtain ⟨-, -, hle⟩ := htask
      refine .inr (work_setTask_lt (hlt hjob) ?_)
      rw [hs]
      simp only [taskWork]
      omega
    next => exact .inl rfl
  | wait order =>
    simp only [step]
    split
    next hs =>
      split_ifs
      · exact gatherAll_work hs
      · refine .inr (work_goto_lt ?_)
        rw [hs]
        simp only [phaseWork]
        omega
      · exact .inl rfl
    next => exact .inl rfl
  | collect =>
    simp only [step]
    split
    next done pending hs => exact .inr (collected_work hs)
    next => exact .inl rfl
  | cancel i =>
    simp only [step]
    split
    next pending results hs =>
      split_ifs with hpending
      · have hphase := h.phase
        rw [hs] at hphase
        have hi : i < jobs.length := hphase.2.1 i hpending.1
        have htask := h.tasks i _ (List.getElem?_eq_getElem hi)
        exact .inr (work_setTask_lt hi (taskWork_pos htask hpending.2))
      · exact .inl rfl
    next => exact .inl rfl
  | finish now =>
    simp only [step]
    split
    next pending results hs =>
      have hdrop {phase : RunPhase} (hphase : phaseWork phase < 1) :
          work settings jobs { s with phase := phase } < work settings jobs s :=
        work_goto_lt (by rw [hs]; exact hphase)
      split_ifs
      · split
        · exact .inr (hdrop (by decide))
        · exact .inr (hdrop (by simp only [phaseWork]; omega))
      · exact .inl rfl
    next => exact .inl rfl

/-- In a run whose every step has an effect each step uses up some of the work. -/
theorem length_add_work_le {as : List ExecutorAction} (has : ∀ a ∈ as, a.Nonneg)
    (h : Sound settings jobs s)
    (heffect : Guarded (step settings jobs) (fun s a => s.step settings jobs a ≠ s) s as) :
    as.length+work settings jobs (exec (step settings jobs) s as) ≤ work settings jobs s := by
  have hsteps := (guarded_of_forall has).and heffect
  refine length_add_rank_le (I := Sound settings jobs) (work settings jobs) ?_ hsteps h
  intro t a hguard ht
  exact ⟨sound_step a hguard.1 ht, (step_eq_or_work_lt ht a).resolve_left hguard.2⟩

theorem work_initial_le (startEpoch : ℚ) :
    work settings jobs (initial jobs startEpoch) ≤
      jobs.length*(3*(settings.retryCount+1)+1)+3 := by
  have htasks : ∑ i ∈ Finset.range jobs.length,
      taskWork settings.retryCount ((initial jobs startEpoch).tasks i) =
        jobs.length*(3*(settings.retryCount+1)+1) := by
    have hsum := Finset.sum_const_nat (s := Finset.range jobs.length)
      (f := fun i => taskWork settings.retryCount ((initial jobs startEpoch).tasks i))
      (m := 3*(settings.retryCount+1)+1) fun _ _ => rfl
    rw [hsum, Finset.card_range]
  have hphase : phaseWork (initial jobs startEpoch).phase ≤ 3 := by
    simp only [initial]
    split_ifs
    · exact Nat.zero_le _
    · exact le_rfl
  rw [work, htasks]
  exact Nat.add_le_add_left hphase _

/-- A task that has neither finished nor been cancelled has a step, unless it waits for the
semaphore while another one posts. -/
theorem exists_step_of_unfinished {i : ℕ} (hi : i < jobs.length)
    (hended : (s.tasks i).isEnded = false) :
    ∃ a : ExecutorAction, a.Nonneg ∧ s.step settings jobs a ≠ s := by
  have hjob {j : ℕ} (hj : j < jobs.length) : jobs[j]? = some jobs[j] :=
    List.getElem?_eq_getElem hj
  have hmoves {j : ℕ} {t : TaskState} (ht : t ≠ s.tasks j) : s.setTask j t ≠ s := by
    intro heq
    have hj := congrArg (fun s' => s'.tasks j) heq
    simp only [setTask_tasks, if_pos] at hj
    exact ht hj
  have hposting {j : ℕ} (hj : j < jobs.length) (hpost : (s.tasks j).isPosting = true) :
      ∃ a : ExecutorAction, a.Nonneg ∧ s.step settings jobs a ≠ s := by
    cases hs : s.tasks j with
    | posting startedEpoch attempt =>
      refine ⟨.respond j {} {} false 0, ⟨le_rfl, le_rfl⟩, ?_⟩
      simp only [step, answered, hjob hj, hs]
      apply hmoves
      rw [hs, afterAttempt, if_pos (.inr rfl)]
      exact TaskState.noConfusion
    | _ =>
      rw [hs] at hpost
      cases hpost
  cases hs : s.tasks i with
  | finished | cancelled =>
    rw [hs] at hended
    cases hended
  | created =>
    refine ⟨.start i 0, le_rfl, ?_⟩
    simp only [step, hjob hi, hs]
    apply hmoves
    rw [hs]
    exact TaskState.noConfusion
  | acquiring startedEpoch attempt =>
    by_cases hfree : s.inFlight jobs.length < settings.maxWorkers
    · refine ⟨.acquire i, trivial, ?_⟩
      simp only [step, hjob hi, hs, if_pos hfree]
      apply hmoves
      rw [hs]
      exact TaskState.noConfusion
    · -- the semaphore has at least one permit, so someone posts
      have hpos : 0 < s.inFlight jobs.length := by
        have hone := settings.one_le_maxWorkers
        omega
      obtain ⟨j, hj⟩ := Finset.card_pos.mp hpos
      rw [Finset.mem_filter, Finset.mem_range] at hj
      exact hposting hj.1 hj.2
  | posting startedEpoch attempt => exact hposting hi (by rw [hs]; rfl)
  | sleeping startedEpoch attempt =>
    refine ⟨.wake i, trivial, ?_⟩
    simp only [step, hjob hi, hs]
    apply hmoves
    rw [hs]
    exact TaskState.noConfusion

/-- The only state that no step changes is the one in which `run` has returned. -/
theorem exists_step_of_not_returned (h : Sound settings jobs s)
    (hrun : ∀ results, s.phase ≠ .returned results) :
    ∃ a : ExecutorAction, a.Nonneg ∧ s.step settings jobs a ≠ s := by
  have hphase := h.phase
  have hmoves {s' : ExecutorState} (hne : s'.phase ≠ s.phase) : s' ≠ s :=
    fun heq => hne (congrArg ExecutorState.phase heq)
  cases hs : s.phase with
  | awaiting =>
    rw [hs] at hphase
    by_cases hall : ∀ i < jobs.length, (s.tasks i).isFinished = true
    · refine ⟨.wait (List.range jobs.length), trivial, ?_⟩
      simp only [step, hs]
      split_ifs with hnone hperm
      · -- all tasks have finished, and `gather` returns or raises
        have hsome : ∀ i ∈ List.range jobs.length, (s.tasks i).result.isSome = true := by
          intro i hi
          obtain ⟨r, hr, -⟩ := result_of_finished h (List.mem_range.mp hi)
            (hall i (List.mem_range.mp hi))
          rw [hr]
          rfl
        have hfinished : (List.range jobs.length).all (fun i => (s.tasks i).isFinished) = true :=
          List.all_eq_true.mpr fun i hi => hall i (List.mem_range.mp hi)
        apply hmoves
        rw [gatherAll, hs]
        split_ifs
        · exact RunPhase.noConfusion
        · rw [gather_eq_some hsome]
          exact RunPhase.noConfusion
      · apply hmoves
        rw [hs]
        exact RunPhase.noConfusion
      · exact absurd (List.Perm.refl _) hperm
    · simp only [not_forall] at hall
      obtain ⟨i, hi, hunfinished⟩ := hall
      refine exists_step_of_unfinished hi ?_
      cases ht : s.tasks i with
      | cancelled => exact absurd ht (hphase i)
      | finished =>
        rw [ht] at hunfinished
        exact absurd rfl hunfinished
      | _ => rfl
  | collecting done pending =>
    refine ⟨.collect, trivial, ?_⟩
    simp only [step, hs]
    apply hmoves
    rw [collected, hs]
    split
    · exact RunPhase.noConfusion
    · dsimp only
      split_ifs <;> exact RunPhase.noConfusion
  | cancelling pending results =>
    rw [hs] at hphase
    by_cases hall : ∀ i ∈ pending, (s.tasks i).isEnded = true
    · refine ⟨.finish fun _ => 0, fun _ => le_rfl, ?_⟩
      have hended : pending.all (fun i => (s.tasks i).isEnded) = true := List.all_eq_true.mpr hall
      simp only [step, hs, hended, if_true]
      apply hmoves
      rw [hs]
      split <;> exact RunPhase.noConfusion
    · simp only [not_forall, Bool.not_eq_true] at hall
      obtain ⟨i, hi, hopen⟩ := hall
      exact exists_step_of_unfinished (hphase.2.1 i hi) hopen
  | returned results => exact absurd hs (hrun results)
  | raised =>
    rw [hs] at hphase
    cases hphase

end ExecutorState

open ExecutorState

/-- Every run of the executor, with any answers and timeouts and in any order, keeps the bound on
the posts and raises nothing. Where it returns it gives one result for each job, in the order of
the jobs. It cannot go on without end, and where it cannot go on at all it has returned. -/
theorem executor_run (settings : PnmCaptureExecutionSettings) (jobs : List PnmCaptureJobModel)
    (startEpoch : ℚ) (hstart : 0 ≤ startEpoch) (as : List ExecutorAction)
    (has : ∀ a ∈ as, a.Nonneg) :
    let s := exec (step settings jobs) (initial jobs startEpoch) as
    s.inFlight jobs.length ≤ settings.maxWorkers ∧ s.phase ≠ .raised ∧
    (∀ results, s.phase = .returned results → List.Forall₂ (ResultOf settings) jobs results) ∧
    (Guarded (step settings jobs) (fun s a => s.step settings jobs a ≠ s)
        (initial jobs startEpoch) as →
      as.length ≤ jobs.length*(3*(settings.retryCount+1)+1)+3) ∧
    ((∀ a : ExecutorAction, a.Nonneg → s.step settings jobs a = s) →
      ∃ results, s.phase = .returned results) := by
  intro s
  have hstartSound : Sound settings jobs (initial jobs startEpoch) := sound_initial hstart
  have hsound : Sound settings jobs s := sound_exec has hstartSound
  have hphase := hsound.phase
  refine ⟨hsound.inFlight, ?_, ?_, ?_, ?_⟩
  · intro hraised
    rw [hraised] at hphase
    exact hphase
  · intro results hreturned
    rw [hreturned] at hphase
    exact hphase
  · intro heffect
    have hlength := length_add_work_le has hstartSound heffect
    have hwork : work settings jobs (initial jobs startEpoch) ≤ _ := work_initial_le startEpoch
    omega
  · intro hstuck
    by_contra hrun
    obtain ⟨a, ha, hne⟩ := exists_step_of_not_returned hsound fun results hreturned =>
      hrun ⟨results, hreturned⟩
    exact hne (hstuck a ha)

/-- One worker, one retry after five seconds, and both timeouts. -/
def retrySettings : PnmCaptureExecutionSettings where
  maxWorkers := 1
  retryCount := 1
  retryDelaySeconds := 5
  perModemTimeoutSeconds := 30
  overallTimeoutSeconds := 120
  one_le_maxWorkers := Nat.one_pos

def twoJobs : List PnmCaptureJobModel := [{ macAddress := "aa" }, { macAddress := "bb" }]

/-- The first job times out once and succeeds at its retry; the second one is still waiting for
the semaphore at the overall timeout. -/
def retryRun : List ExecutorAction :=
  [.start 1 0, .start 0 0, .acquire 0, .acquire 1, .postTimeout 0 {} true 30, .wake 0, .acquire 0,
    .respond 0 { statusCode := 200 } { statusCode := some .success } false 40,
    .wait [1, 0], .collect, .cancel 1, .finish fun _ => 120]

def RunPhase.summary : RunPhase → List (MacAddressStr × ℕ × Option PnmCaptureFailureReason)
  | .returned results => results.map fun r => (r.macAddress, r.attempts, r.failureReason)
  | _ => []

theorem nonneg_retryRun : ∀ a ∈ retryRun, a.Nonneg := by
  simp only [retryRun, List.forall_mem_cons, ExecutorAction.Nonneg, true_and, le_refl,
    List.not_mem_nil, false_imp_iff, implies_true, and_true]
  exact ⟨by decide, ⟨by decide, by decide⟩, fun _ => by decide⟩

theorem retryRun_returns :
    let s := exec (step retrySettings twoJobs) (initial twoJobs 0) retryRun
    s.phase.summary = [("aa", 2, none), ("bb", 0, some .overallTimeout)] ∧
      s.inFlight twoJobs.length ≤ 1 ∧ s.phase ≠ .raised := by
  intro s
  have hrun := executor_run retrySettings twoJobs 0 le_rfl retryRun nonneg_retryRun
  exact ⟨by decide +kernel, hrun.1, hrun.2.1⟩

/-- The result model takes no negative HTTP status, so an answer with one makes `run` raise. -/
theorem negative_status_raises :
    let as : List ExecutorAction := [.start 0 0, .acquire 0,
      .respond 0 { statusCode := -1 } { statusCode := some .success } false 0, .wait [0], .collect]
    let jobs : List PnmCaptureJobModel := [{ macAddress := "aa" }]
    (exec (step retrySettings jobs) (initial jobs 0) as).phase = .raised := by
  rfl

end PypnmCmts.PnmCaptureExecutor
