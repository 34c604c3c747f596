import Mathlib.Data.List.Nodup
import Mathlib.Data.List.Perm.Subperm
import Mathlib.Data.List.Range
import PypnmCmts.LabelledRun

/-! A pool of worker threads for a list of tasks, with the thread that has submitted them
and gathers what they give. A free worker begins the first task of the queue. The gathering thread
either takes each finished task as it likes, up to the first that has failed, or waits for a time
and then takes those that have finished. Once it has ended, no task is begun any more. -/
namespace WorkerPool
open scoped List

inductive Phase (τ ε ρ : Type*)
  | gathering (taken : List (τ × ρ))
  | returned (taken : List (τ × ρ))
  | raised (error : ε)

def Phase.ended {τ ε ρ : Type*} : Phase τ ε ρ → Bool
  | .gathering _ => false
  | _ => true

structure State (τ ε ρ : Type*) where
  queue : List τ
  running : List τ
  finished : List τ
  cancelled : List τ
  phase : Phase τ ε ρ

/-- Which worker gets on next, and what the gathering thread does, is up to the scheduler. -/
inductive Action (τ : Type*)
  | start
  | finish (task : τ)
  | take (task : τ)
  | close
  /-- The time is up, or all tasks have finished; `order` is how the set of these is iterated. -/
  | expire (order : List τ)

/-- What is known of a pool before it runs. -/
structure Pool (τ ε ρ : Type*) where
  tasks : List τ
  nodup : tasks.Nodup
  limit : ℕ
  limit_pos : 0 < limit
  timed : Bool
  outcome : τ → Except ε ρ

namespace Pool
variable {τ ε ρ : Type*} (p : Pool τ ε ρ)

def initial : State τ ε ρ where
  queue := p.tasks
  running := []
  finished := []
  cancelled := []
  phase := .gathering []

/-- The gathering thread ends, and what has not begun is cancelled. -/
def shutdown (s : State τ ε ρ) (phase : Phase τ ε ρ) : State τ ε ρ :=
  { s with queue := [], cancelled := s.cancelled ++ s.queue, phase }

/-- What the tasks have given, up to the first that has failed. -/
def readAll (order : List τ) : Except ε (List (τ × ρ)) :=
  order.mapM fun task => (p.outcome task).map fun result => (task, result)

def step [DecidableEq τ] (s : State τ ε ρ) : Action τ → State τ ε ρ
  | .start =>
    match s.queue with
    | [] => s
    | task :: queue =>
      if s.running.length < p.limit then { s with queue, running := task :: s.running } else s
  | .finish task =>
    if task ∈ s.running then
      { s with running := s.running.erase task, finished := s.finished ++ [task] }
    else s
  | .take task =>
    match s.phase with
    | .gathering taken =>
      if p.timed = false ∧ task ∈ s.finished ∧ task ∉ taken.map Prod.fst then
        match p.outcome task with
        | .ok result => { s with phase := .gathering (taken ++ [(task, result)]) }
        | .error error => shutdown s (.raised error)
      else s
    | _ => s
  | .close =>
    match s.phase with
    | .gathering taken =>
      if p.timed = false ∧ taken.length = p.tasks.length then shutdown s (.returned taken) else s
    | _ => s
  | .expire order =>
    match s.phase with
    | .gathering _ =>
      if p.timed = true ∧ order.Perm s.finished then
        match p.readAll order with
        | .ok taken => shutdown s (.returned taken)
        | .error error => shutdown s (.raised error)
      else s
    | _ => s

/-- What has been taken are outcomes of finished tasks, one of each. -/
structure Taken (s : State τ ε ρ) (taken : List (τ × ρ)) : Prop where
  once : (taken.map Prod.fst).Nodup
  outcome : ∀ entry ∈ taken, entry.1 ∈ s.finished ∧ p.outcome entry.1 = .ok entry.2

def PhaseSound (s : State τ ε ρ) : Phase τ ε ρ → Prop
  | .gathering taken => s.cancelled = [] ∧ p.Taken s taken
  | .returned taken => s.queue = [] ∧ p.Taken s taken ∧
      (p.timed = false → taken.length = p.tasks.length)
  | .raised error => s.queue = [] ∧ ∃ task ∈ s.finished, p.outcome task = .error error

/-- Each task is in one place, and no more of them run than the limit says. -/
structure Sound (s : State τ ε ρ) : Prop where
  places : (s.queue ++ s.running ++ s.finished ++ s.cancelled).Perm (p.tasks)
  bounded : s.running.length ≤ p.limit
  phase : p.PhaseSound s s.phase

variable {p} {s : State τ ε ρ}

theorem taken_nil (s : State τ ε ρ) : p.Taken s [] := ⟨List.nodup_nil, fun _ h => by cases h⟩

theorem sound_initial : p.Sound p.initial := by
  refine ⟨?_, Nat.zero_le _, rfl, taken_nil _⟩
  simp only [initial, List.append_nil, List.Perm.refl]

/-- Tasks that finish later leave what has been taken as it is. -/
theorem Taken.mono {t : State τ ε ρ} {taken : List (τ × ρ)} (h : p.Taken s taken)
    (hfinished : s.finished ⊆ t.finished) : p.Taken t taken :=
  ⟨h.once, fun entry hentry => ⟨hfinished (h.outcome entry hentry).1, (h.outcome entry hentry).2⟩⟩

theorem Taken.concat {taken : List (τ × ρ)} (h : p.Taken s taken) {task : τ} {result : ρ}
    (hfinished : task ∈ s.finished) (hnew : task ∉ taken.map Prod.fst)
    (hresult : p.outcome task = .ok result) : p.Taken s (taken ++ [(task, result)]) := by
  refine ⟨?_, ?_⟩
  · rw [List.map_append, List.map_singleton, List.nodup_append]
    refine ⟨h.once, List.nodup_singleton _, ?_⟩
    intro a ha b hb hab
    rw [hab, List.mem_singleton.mp hb] at ha
    exact hnew ha
  · intro entry hentry
    rcases List.mem_append.mp hentry with hold | hlast
    · exact h.outcome entry hold
    · rw [List.mem_singleton.mp hlast]
      exact ⟨hfinished, hresult⟩

theorem readAll_spec (order : List τ) :
    (∀ taken, p.readAll order = .ok taken →
      taken.map Prod.fst = order ∧ ∀ entry ∈ taken, p.outcome entry.1 = .ok entry.2) ∧
    ∀ error, p.readAll order = .error error → ∃ task ∈ order, p.outcome task = .error error := by
  induction order with
  | nil =>
    refine ⟨fun taken h => ?_, fun error h => (by cases h)⟩
    cases h
    exact ⟨rfl, fun _ hmem => by cases hmem⟩
  | cons task order ih =>
    have hunfold : p.readAll (task :: order) = (do
        let entry ← (p.outcome task).map fun result => (task, result)
        let rest ← p.readAll order
        pure (entry :: rest)) := List.mapM_cons
    rw [hunfold]
    cases houtcome : p.outcome task with
    | error failure =>
      refine ⟨fun taken h => (by cases h), ?_⟩
      intro error h
      cases h
      exact ⟨task, List.mem_cons_self, houtcome⟩
    | ok result =>
      cases hrest : p.readAll order with
      | error failure =>
        refine ⟨fun taken h => (by cases h), ?_⟩
        intro error h
        cases h
        obtain ⟨failed, hmem, hfailed⟩ := ih.2 failure hrest
        exact ⟨failed, List.mem_cons_of_mem _ hmem, hfailed⟩
      | ok rest =>
        refine ⟨?_, fun error h => (by cases h)⟩
        intro taken h
        cases h
        obtain ⟨hkeys, hresults⟩ := ih.1 rest hrest
        refine ⟨by rw [List.map_cons, hkeys], ?_⟩
        intro entry hentry
        rcases List.mem_cons.mp hentry with hhead | htail
        · rw [hhead]
          exact houtcome
        · exact hresults entry htail

theorem Sound.mem_tasks (h : p.Sound s) {task : τ} (hfinished : task ∈ s.finished) :
    task ∈ p.tasks := by
  rw [← h.places.mem_iff]
  simp only [List.mem_append, hfinished, or_true, true_or]

theorem Sound.nodup_finished (h : p.Sound s) : s.finished.Nodup := by
  have hall := h.places.nodup_iff.mpr p.nodup
  exact (List.nodup_append.mp (List.nodup_append.mp hall).1).2.1

/-- The end of the gathering keeps every task in its place, but for those that were queued. -/
theorem Sound.shutdown (h : p.Sound s) {phase : Phase τ ε ρ}
    (hphase : p.PhaseSound (shutdown s phase) phase) : p.Sound (shutdown s phase) := by
  refine ⟨?_, h.bounded, hphase⟩
  have hmoved : s.running ++ s.finished ++ s.cancelled ++ s.queue ~
      s.queue ++ (s.running ++ s.finished ++ s.cancelled) := List.perm_append_comm
  apply List.Perm.trans _ h.places
  simpa only [Pool.shutdown, List.nil_append, List.append_assoc] using hmoved

theorem Taken.subperm {taken : List (τ × ρ)} (h : p.Taken s taken) :
    taken.map Prod.fst <+~ s.finished := by
  apply h.once.subperm
  intro task htask
  obtain ⟨entry, hentry, rfl⟩ := List.mem_map.mp htask
  exact (h.outcome entry hentry).1

theorem Taken.length_le {taken : List (τ × ρ)} (h : p.Taken s taken) :
    taken.length ≤ s.finished.length := by
  have hleast := h.subperm.length_le
  rwa [List.length_map] at hleast

/-- A finished task that the gathering thread has not taken yet. -/
theorem Sound.exists_untaken (h : p.Sound s) {taken : List (τ × ρ)}
    (hlength : taken.length < s.finished.length) :
    ∃ task ∈ s.finished, task ∉ taken.map Prod.fst := by
  by_contra hnone
  push Not at hnone
  have hleast := (h.nodup_finished.subperm hnone).length_le
  rw [List.length_map] at hleast
  omega

theorem Sound.length_finished_le (h : p.Sound s) : s.finished.length ≤ p.tasks.length := by
  have htotal := h.places.length_eq
  simp only [List.length_append] at htotal
  omega

/-- Without a time limit the gathering returns when it has taken all the tasks, and by then each of
them has been begun and has finished. -/
theorem Sound.returned (h : p.Sound s) (huntimed : p.timed = false) {taken : List (τ × ρ)}
    (hreturned : s.phase = .returned taken) :
    taken.map Prod.fst ~ p.tasks ∧ s.running ++ s.finished ~ p.tasks := by
  have hphase := h.phase
  rw [hreturned] at hphase
  obtain ⟨hqueue, htaken, hall⟩ := hphase
  have hplaces := h.places
  rw [hqueue, List.nil_append] at hplaces
  have hlength : (taken.map Prod.fst).length = p.tasks.length := by
    rw [List.length_map, hall huntimed]
  have htotal := hplaces.length_eq
  have hleast := htaken.subperm.length_le
  simp only [List.length_append] at htotal
  have hcancelled : s.cancelled = [] := List.eq_nil_of_length_eq_zero (by omega)
  have hrunning : s.running = [] := List.eq_nil_of_length_eq_zero (by omega)
  rw [hcancelled, List.append_nil] at hplaces
  refine ⟨?_, hplaces⟩
  rw [hrunning, List.nil_append] at hplaces
  have hsame : taken.map Prod.fst ~ s.finished :=
    htaken.subperm.perm_of_length_le (by omega)
  exact hsame.trans hplaces

/-- A gathering without a time limit that has ended has returned exactly when no task fails. -/
theorem Sound.returned_iff (h : p.Sound s) (huntimed : p.timed = false)
    (hended : s.phase.ended = true) :
    (∃ taken, s.phase = .returned taken) ↔ ∀ task ∈ p.tasks, ∃ result,
      p.outcome task = .ok result := by
  have hphase := h.phase
  cases hend : s.phase with
  | gathering taken =>
    rw [hend] at hended
    cases hended
  | returned taken =>
    rw [hend] at hphase
    refine iff_of_true ⟨taken, rfl⟩ ?_
    intro task htask
    have hmem : task ∈ taken.map Prod.fst :=
      (h.returned huntimed hend).1.mem_iff.mpr htask
    obtain ⟨entry, hentry, rfl⟩ := List.mem_map.mp hmem
    exact ⟨entry.2, (hphase.2.1.outcome entry hentry).2⟩
  | raised error =>
    rw [hend] at hphase
    obtain ⟨-, failed, hfailed, herror⟩ := hphase
    refine iff_of_false (fun hreturned => ?_) (fun hall => ?_)
    · obtain ⟨taken, htaken⟩ := hreturned
      cases htaken
    · obtain ⟨result, hresult⟩ := hall failed (h.mem_tasks hfailed)
      rw [herror] at hresult
      cases hresult

section Steps
variable [DecidableEq τ]

theorem sound_start (h : p.Sound s) : p.Sound (p.step s .start) := by
  simp only [step]
  split
  · exact h
  rename_i task queue hqueue
  split
  case isFalse => exact h
  rename_i hfree
  refine ⟨?_, hfree, ?_⟩
  · apply List.Perm.trans _ h.places
    rw [hqueue]
    exact ((List.perm_middle.append_right _).append_right _)
  · -- nothing is queued behind an end
    have hphase := h.phase
    cases hended : s.phase with
    | gathering taken =>
      rw [hended] at hphase
      exact ⟨hphase.1, hphase.2.mono fun _ hmem => hmem⟩
    | returned taken =>
      rw [hended] at hphase
      exact absurd (hqueue.symm.trans hphase.1) (List.cons_ne_nil _ _)
    | raised error =>
      rw [hended] at hphase
      exact absurd (hqueue.symm.trans hphase.1) (List.cons_ne_nil _ _)

theorem sound_finish (h : p.Sound s) (task : τ) : p.Sound (p.step s (.finish task)) := by
  simp only [step]
  split
  case isFalse => exact h
  rename_i hrunning
  have hmore : s.finished ⊆ s.finished ++ [task] := List.subset_append_left _ _
  refine ⟨?_, (List.length_erase_le).trans h.bounded, ?_⟩
  · apply List.Perm.trans _ h.places
    have hmoved : s.running.erase task ++ (s.finished ++ [task]) ~ s.running ++ s.finished := by
      calc s.running.erase task ++ (s.finished ++ [task])
          ~ task :: (s.running.erase task ++ s.finished) := by
            rw [← List.append_assoc]
            exact List.perm_append_singleton _ _
        _ ~ s.running ++ s.finished := (List.perm_cons_erase hrunning).symm.append_right _
    simpa only [List.append_assoc] using
      (hmoved.append_left s.queue).append_right s.cancelled
  · have hphase := h.phase
    cases hended : s.phase with
    | gathering taken =>
      rw [hended] at hphase
      exact ⟨hphase.1, hphase.2.mono hmore⟩
    | returned taken =>
      rw [hended] at hphase
      exact ⟨hphase.1, hphase.2.1.mono hmore, hphase.2.2⟩
    | raised error =>
      rw [hended] at hphase
      obtain ⟨hqueue, failed, hfailed, herror⟩ := hphase
      exact ⟨hqueue, failed, hmore hfailed, herror⟩

theorem sound_take (h : p.Sound s) (task : τ) : p.Sound (p.step s (.take task)) := by
  simp only [step]
  split
  case h_2 => exact h
  rename_i taken hgathering
  split
  case isFalse => exact h
  rename_i hready
  obtain ⟨-, hfinished, hnew⟩ := hready
  have hphase := h.phase
  rw [hgathering] at hphase
  cases houtcome : p.outcome task with
  | ok result =>
    have htaken := hphase.2.concat hfinished hnew houtcome
    exact ⟨h.places, h.bounded, hphase.1, htaken.mono fun _ hmem => hmem⟩
  | error error => exact h.shutdown ⟨rfl, task, hfinished, houtcome⟩

theorem sound_close (h : p.Sound s) : p.Sound (p.step s .close) := by
  simp only [step]
  split
  case h_2 => exact h
  rename_i taken hgathering
  split
  case isFalse => exact h
  rename_i hall
  have hphase := h.phase
  rw [hgathering] at hphase
  exact h.shutdown ⟨rfl, hphase.2.mono fun _ hmem => hmem, fun _ => hall.2⟩

theorem sound_expire (h : p.Sound s) (order : List τ) : p.Sound (p.step s (.expire order)) := by
  simp only [step]
  split
  case h_2 => exact h
  split
  case isFalse => exact h
  rename_i htimed
  obtain ⟨htimed, horder⟩ := htimed
  cases hread : p.readAll order with
  | ok taken =>
    obtain ⟨hkeys, hresults⟩ := (readAll_spec order).1 taken hread
    have htaken : p.Taken s taken := by
      refine ⟨?_, ?_⟩
      · rw [hkeys]
        exact horder.nodup_iff.mpr h.nodup_finished
      · intro entry hentry
        have hmem : entry.1 ∈ order := hkeys ▸ List.mem_map_of_mem hentry
        exact ⟨horder.mem_iff.mp hmem, hresults entry hentry⟩
    refine h.shutdown ⟨rfl, htaken.mono fun _ hmem => hmem, ?_⟩
    intro huntimed
    rw [htimed] at huntimed
    cases huntimed
  | error error =>
    obtain ⟨failed, hfailed, herror⟩ := (readAll_spec order).2 error hread
    exact h.shutdown ⟨rfl, failed, horder.mem_iff.mp hfailed, herror⟩

theorem sound_step (h : p.Sound s) (a : Action τ) : p.Sound (p.step s a) := by
  cases a with
  | start => exact sound_start h
  | finish task => exact sound_finish h task
  | take task => exact sound_take h task
  | close => exact sound_close h
  | expire order => exact sound_expire h order

theorem sound_exec (p : Pool τ ε ρ) (as : List (Action τ)) :
    p.Sound (LabelledRun.exec p.step p.initial as) :=
  LabelledRun.invariant_of_step (I := p.Sound) (fun _ a h => sound_step h a) as sound_initial

end Steps

section Progress

variable (p) in
/-- What is left to be done: a queued task is begun and finishes, the gathering thread takes each
task and ends. -/
def rank (s : State τ ε ρ) : ℕ :=
  2*s.queue.length+s.running.length+
    match s.phase with
    | .gathering taken => p.tasks.length-taken.length+1
    | _ => 0

theorem rank_initial : p.rank p.initial = 3*p.tasks.length+1 := by
  simp only [rank, initial, List.length_nil]
  omega

theorem rank_shutdown (s : State τ ε ρ) {phase : Phase τ ε ρ} (hended : phase.ended = true) :
    p.rank (shutdown s phase) = s.running.length := by
  cases phase with
  | gathering taken => cases hended
  | returned taken => simp only [rank, shutdown, List.length_nil, Nat.mul_zero, Nat.zero_add,
      Nat.add_zero]
  | raised error => simp only [rank, shutdown, List.length_nil, Nat.mul_zero, Nat.zero_add,
      Nat.add_zero]

theorem rank_gathering {taken : List (τ × ρ)} (hgathering : s.phase = .gathering taken) :
    p.rank s = 2*s.queue.length+s.running.length+(p.tasks.length-taken.length+1) := by
  rw [rank, hgathering]

theorem rank_shutdown_lt {taken : List (τ × ρ)} (hgathering : s.phase = .gathering taken)
    {phase : Phase τ ε ρ} (hended : phase.ended = true) :
    p.rank (shutdown s phase) < p.rank s := by
  rw [rank_gathering hgathering, rank_shutdown s hended]
  omega

variable [DecidableEq τ]

/-- A step that changes anything leaves less to be done. -/
theorem rank_step (h : p.Sound s) (a : Action τ) :
    p.step s a = s ∨ p.rank (p.step s a) < p.rank s := by
  have hphase := h.phase
  cases a with
  | start =>
    simp only [step]
    split
    · exact Or.inl rfl
    rename_i task queue hqueue
    split
    case isFalse => exact Or.inl rfl
    right
    simp only [rank, hqueue, List.length_cons]
    omega
  | finish task =>
    simp only [step]
    split
    case isFalse => exact Or.inl rfl
    rename_i hrunning
    right
    have hlength := List.length_erase_of_mem hrunning
    have hsome := List.length_pos_of_mem hrunning
    simp only [rank, hlength]
    omega
  | take task =>
    simp only [step]
    split
    case h_2 => exact Or.inl rfl
    rename_i taken hgathering
    split
    case isFalse => exact Or.inl rfl
    rename_i hready
    obtain ⟨-, hfinished, hnew⟩ := hready
    right
    cases houtcome : p.outcome task with
    | ok result =>
      rw [hgathering] at hphase
      have hmore := (hphase.2.concat hfinished hnew houtcome).length_le
      have hmost := h.length_finished_le
      rw [List.length_append, List.length_singleton] at hmore
      rw [rank_gathering hgathering]
      simp only [rank, List.length_append, List.length_singleton]
      omega
    | error error => exact rank_shutdown_lt hgathering rfl
  | close =>
    simp only [step]
    split
    case h_2 => exact Or.inl rfl
    rename_i taken hgathering
    split
    case isFalse => exact Or.inl rfl
    exact Or.inr (rank_shutdown_lt hgathering rfl)
  | expire order =>
    simp only [step]
    split
    case h_2 => exact Or.inl rfl
    rename_i taken hgathering
    split
    case isFalse => exact Or.inl rfl
    right
    split
    · exact rank_shutdown_lt hgathering rfl
    · exact rank_shutdown_lt hgathering rfl

/-- Until the gathering has ended, some step makes progress. -/
theorem exists_progress (h : p.Sound s) (hwaiting : s.phase.ended = false) :
    ∃ a, p.rank (p.step s a) < p.rank s := by
  suffices heffective : ∃ a, p.step s a ≠ s by
    obtain ⟨a, ha⟩ := heffective
    exact ⟨a, (rank_step h a).resolve_left ha⟩
  cases hphase : s.phase with
  | returned taken => rw [hphase] at hwaiting; cases hwaiting
  | raised error => rw [hphase] at hwaiting; cases hwaiting
  | gathering taken =>
    have hsound := h.phase
    rw [hphase] at hsound
    obtain ⟨hcancelled, htaken⟩ := hsound
    -- a running task can finish, else a queued one can begin
    cases hrunning : s.running with
    | cons task running =>
      refine ⟨.finish task, fun heq => ?_⟩
      have hmem : task ∈ s.running := hrunning ▸ List.mem_cons_self
      have hlength := congrArg (fun t : State τ ε ρ => t.finished.length) heq
      simp [step, hmem] at hlength
    | nil =>
      cases hqueue : s.queue with
      | cons task queue =>
        refine ⟨.start, fun heq => ?_⟩
        have hlength := congrArg (fun t : State τ ε ρ => t.queue.length) heq
        simp [step, hqueue, hrunning, p.limit_pos] at hlength
      | nil =>
        -- all tasks have finished, and the gathering thread is to go on
        have hplaces := h.places
        rw [hqueue, hrunning, hcancelled] at hplaces
        simp only [List.nil_append, List.append_nil] at hplaces
        have hfinished := hplaces.length_eq
        by_cases htimed : p.timed = true
        · refine ⟨.expire s.finished, fun heq => ?_⟩
          have hend := congrArg State.phase heq
          simp only [step, hphase, htimed, List.Perm.refl, and_self, if_true] at hend
          cases hread : p.readAll s.finished <;> simp [hread, shutdown] at hend
        have huntimed : p.timed = false := by simpa using htimed
        by_cases hall : taken.length = p.tasks.length
        · refine ⟨.close, fun heq => ?_⟩
          have hend := congrArg State.phase heq
          simp [step, hphase, huntimed, hall, shutdown] at hend
        have hless : taken.length < s.finished.length := by
          have hmost := htaken.length_le
          omega
        obtain ⟨task, htask, hnew⟩ := h.exists_untaken hless
        refine ⟨.take task, fun heq => ?_⟩
        have hend := congrArg State.phase heq
        simp only [step, hphase, huntimed, htask, hnew, not_false_iff, and_self, if_true] at hend
        cases houtcome : p.outcome task <;> simp [houtcome, shutdown] at hend

/-- Every gathering comes to an end. -/
theorem exists_ended (h : p.Sound s) :
    ∃ as, (LabelledRun.exec p.step s as).phase.ended = true := by
  refine LabelledRun.exists_exec (I := p.Sound) (P := fun t => t.phase.ended = true) p.rank
    (fun t ht hwaiting => ?_) h
  obtain ⟨a, ha⟩ := exists_progress ht (eq_false_of_ne_true hwaiting)
  exact ⟨a, sound_step ht a, ha⟩

/-- A run in which each step changes something is not longer than what there was to be done. -/
theorem length_le_rank (h : p.Sound s) {as : List (Action τ)}
    (hsteps : LabelledRun.Guarded p.step (fun t a => p.step t a ≠ t) s as) :
    as.length ≤ p.rank s := by
  have hlength := LabelledRun.length_add_rank_le (I := p.Sound) p.rank
    (fun t a hne ht => ⟨sound_step ht a, (rank_step ht a).resolve_left hne⟩) hsteps h
  omega

end Progress

end Pool
end WorkerPool
