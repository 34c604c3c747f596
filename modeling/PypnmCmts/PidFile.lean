import PypnmCmts.LabelledRun
import PypnmCmts.OrchestratorLauncher
import PypnmCmts.PosixPath

/-! `orchestrator/pidfile_manager.py`: the pidfiles of runtimes that enter and leave their scopes,
one call of the file system at a time. -/
namespace PypnmCmts

open LabelledRun

namespace PidFileRecord

def pidDirName : String := "pids"
def controllerPidfile : String := "controller.pid"
def workerPidPrefix : String := "worker_"
def workerUnboundPidfile : String := "worker_unbound.pid"

variable (stateDir : PosixPath)

def record (pidfileName : String) : PosixPath := (stateDir.join pidDirName).join pidfileName

def forController : PosixPath := record stateDir controllerPidfile

def forWorker (sgId : ServiceGroupId) : PosixPath :=
  record stateDir (workerPidPrefix ++ toString sgId ++ ".pid")

def forWorkerUnbound : PosixPath := record stateDir workerUnboundPidfile

/-- The path of the record for a runtime. All modes but one share a name. -/
def forRuntime (sgId : Option ServiceGroupId) : OrchestratorMode → PosixPath
  | .controller => forController stateDir
  | .worker =>
    match sgId with
    | none => forWorkerUnbound stateDir
    | some sgId => forWorker stateDir sgId
  | .standalone => forController stateDir
  | .combined => forController stateDir

/-- What `_write` writes. -/
def pidText (pid : ℕ) : String := toString pid ++ "\n"

end PidFileRecord

structure PidRuntime where
  stateDir : PosixPath
  mode : OrchestratorMode
  sgId : Option ServiceGroupId
  pid : ℕ

namespace PidRuntime

def pidfilePath (r : PidRuntime) : PosixPath := PidFileRecord.forRuntime r.stateDir r.sgId r.mode

end PidRuntime

/-- Where a runtime is: in the middle of `_write`, with the directory made or the file opened, in
its scope, or in the middle of `_cleanup`. -/
inductive PidPhase
  | outside
  | opening
  | writing
  | inside
  | unlinking
deriving DecidableEq

/-- A runtime begins `__enter__` or `__exit__`, makes its next call, or is killed. A call works or
raises, and a write that raises leaves some text. -/
inductive PidAction (ι : Type*)
  | enter (who : ι) (ok : Bool)
  | next (who : ι) (ok : Bool) (left : String)
  | exit (who : ι) (ok : Bool)
  | kill (who : ι)

structure PidWorld (ι : Type*) where
  phase : ι → PidPhase
  file : PosixPath → Option String

/-- Runtimes, some of which may have a pidfile in common. -/
abbrev PidGroup (ι : Type*) := ι → PidRuntime

namespace PidGroup
variable {ι : Type*} [DecidableEq ι] (group : PidGroup ι)

def path (i : ι) : PosixPath := (group i).pidfilePath

def text (i : ι) : String := PidFileRecord.pidText (group i).pid

/-- The next call of a runtime in the middle of `_write` or `_cleanup`. Whatever it raises is
suppressed. -/
def nextCall (w : PidWorld ι) (i : ι) (ok : Bool) (left : String) : PidWorld ι :=
  match w.phase i with
  | .opening =>
    -- opening the file empties it
    if ok then ⟨Function.update w.phase i .writing, Function.update w.file (group.path i) (some "")⟩
    else ⟨Function.update w.phase i .inside, w.file⟩
  | .writing =>
    ⟨Function.update w.phase i .inside, Function.update w.file (group.path i)
      (some (if ok then group.text i else left))⟩
  | .unlinking =>
    ⟨Function.update w.phase i .outside,
      if ok then Function.update w.file (group.path i) none else w.file⟩
  | .outside => w
  | .inside => w

def step (w : PidWorld ι) : PidAction ι → PidWorld ι
  | .enter i ok =>
    if w.phase i ≠ .outside then w
    else { w with phase := Function.update w.phase i (if ok then .opening else .inside) }
  | .next i ok left => group.nextCall w i ok left
  | .exit i ok =>
    if w.phase i ≠ .inside then w
    else if ok && (w.file (group.path i)).isSome then
      { w with phase := Function.update w.phase i .unlinking }
    else { w with phase := Function.update w.phase i .outside }
  | .kill i => { w with phase := Function.update w.phase i .outside }

/-- While a runtime is in its scope, its pidfile has the pid of one that is. -/
def Owned (w : PidWorld ι) : Prop :=
  ∀ i, w.phase i = .inside →
    ∃ j, group.path j = group.path i ∧ w.phase j = .inside ∧
      w.file (group.path i) = some (group.text j)

/-- What an action removes is a file with the pid of the runtime that acts. -/
def RemovesOwn (w : PidWorld ι) (a : PidAction ι) : Prop :=
  ∀ p, w.file p ≠ none → (group.step w a).file p = none →
    ∃ i ok left, a = .next i ok left ∧ p = group.path i ∧ w.file p = some (group.text i)

/-- A runtime begins to enter only when no other one with its path has begun to enter and not left,
and its file is written. -/
def EntersAlone (w : PidWorld ι) : PidAction ι → Prop
  | .enter i ok => ok = true ∧ ∀ j, group.path j = group.path i → w.phase j = .outside
  | .next i ok _ => w.phase i = .unlinking ∨ ok = true
  | .exit _ _ => True
  | .kill _ => True

def start (file : PosixPath → Option String) : PidWorld ι := ⟨fun _ => .outside, file⟩

/-- No two runtimes with one path are on it, and the file of one that has written it is its own. -/
structure Alone (w : PidWorld ι) : Prop where
  exclusive : ∀ i j, group.path i = group.path j → w.phase i ≠ .outside → w.phase j ≠ .outside →
    i = j
  written : ∀ i, w.phase i = .inside ∨ w.phase i = .unlinking →
    w.file (group.path i) = some (group.text i)

variable {group} {w : PidWorld ι}

omit [DecidableEq ι] in
theorem Alone.owned (h : group.Alone w) : group.Owned w := by
  intro i hi
  exact ⟨i, rfl, hi, h.written i (Or.inl hi)⟩

omit [DecidableEq ι] in
theorem Alone.others (h : group.Alone w) {i : ι} (hi : w.phase i ≠ .outside) :
    ∀ j, j ≠ i → group.path j = group.path i → w.phase j = .outside := by
  intro j hne hpath
  by_contra hj
  exact hne (h.exclusive j i hpath hj hi)

/-- A runtime that is alone on its path goes on, and only its own file changes. -/
theorem Alone.move (h : group.Alone w) {i : ι}
    (hothers : ∀ j, j ≠ i → group.path j = group.path i → w.phase j = .outside) (phase : PidPhase)
    {file : PosixPath → Option String} (hframe : ∀ p, p ≠ group.path i → file p = w.file p)
    (hwritten : phase = .inside ∨ phase = .unlinking →
      file (group.path i) = some (group.text i)) :
    group.Alone ⟨Function.update w.phase i phase, file⟩ where
  exclusive j k hpath hj hk := by
    dsimp only at hj hk
    by_cases hji : j = i
    · by_cases hki : k = i
      · rw [hji, hki]
      · rw [Function.update_of_ne hki] at hk
        exact absurd (hothers k hki (by rw [← hpath, hji])) hk
    · rw [Function.update_of_ne hji] at hj
      by_cases hki : k = i
      · exact absurd (hothers j hji (by rw [hpath, hki])) hj
      · rw [Function.update_of_ne hki] at hk
        exact h.exclusive j k hpath hj hk
  written j hj := by
    dsimp only at hj ⊢
    by_cases hji : j = i
    · rw [hji, Function.update_self] at hj
      rw [hji]
      exact hwritten hj
    · rw [Function.update_of_ne hji] at hj
      by_cases hpath : group.path j = group.path i
      · rw [hothers j hji hpath] at hj
        simp at hj
      · rw [hframe _ hpath]
        exact h.written j hj

/-- A runtime leaves its file as it is. -/
theorem Alone.leave (h : group.Alone w) (i : ι) :
    group.Alone ⟨Function.update w.phase i .outside, w.file⟩ where
  exclusive j k hpath hj hk := by
    have hmoved : ∀ k, Function.update w.phase i .outside k ≠ .outside → w.phase k ≠ .outside := by
      intro k hk
      by_cases hki : k = i
      · simp [hki] at hk
      · rwa [Function.update_of_ne hki] at hk
    exact h.exclusive j k hpath (hmoved j hj) (hmoved k hk)
  written j hj := by
    dsimp only at hj ⊢
    by_cases hji : j = i
    · simp [hji] at hj
    · rw [Function.update_of_ne hji] at hj
      exact h.written j hj

theorem alone_step (h : group.Alone w) {a : PidAction ι} (hguard : group.EntersAlone w a) :
    group.Alone (group.step w a) := by
  have hupdate : ∀ (i : ι) (text : Option String) (p : PosixPath), p ≠ group.path i →
      Function.update w.file (group.path i) text p = w.file p := by
    intro i text p hp
    exact Function.update_of_ne hp _ _
  cases a with
  | enter i ok =>
    obtain ⟨hok, hnone⟩ := hguard
    rw [step, if_neg (not_not.mpr (hnone i rfl)), hok, if_pos rfl]
    exact h.move (fun j _ hpath => hnone j hpath) .opening (fun _ _ => rfl) (by simp)
  | next i ok left =>
    simp only [step, nextCall]
    cases hi : w.phase i with
    | opening =>
      have hok : ok = true := hguard.resolve_left (by simp [hi])
      rw [hok, if_pos rfl]
      exact h.move (h.others (by simp [hi])) .writing (hupdate i _) (by simp)
    | writing =>
      have hok : ok = true := hguard.resolve_left (by simp [hi])
      rw [hok, if_pos rfl]
      refine h.move (h.others (by simp [hi])) .inside (hupdate i _) ?_
      intro _
      exact Function.update_self _ _ _
    | unlinking =>
      cases ok with
      | false => exact h.leave i
      | true => exact h.move (h.others (by simp [hi])) .outside (hupdate i _) (by simp)
    | outside => exact h
    | inside => exact h
  | exit i ok =>
    rw [step]
    split
    · exact h
    · next hi =>
      split
      · refine h.move (h.others ?_) .unlinking (fun _ _ => rfl) ?_
        · simp [not_not.mp hi]
        · intro _
          exact h.written i (Or.inl (not_not.mp hi))
      · exact h.leave i
  | kill i => exact h.leave i

/-- An action leaves the files as they are, or it is a call of a runtime that touches its own file,
and removes it only in `_cleanup`. -/
theorem file_step (group : PidGroup ι) (w : PidWorld ι) (a : PidAction ι) :
    (group.step w a).file = w.file ∨ ∃ i ok left content, a = .next i ok left ∧
      (group.step w a).file = Function.update w.file (group.path i) content ∧
      (content = none → w.phase i = .unlinking) := by
  cases a with
  | enter i ok =>
    rw [step]
    split
    · exact Or.inl rfl
    · exact Or.inl rfl
  | next i ok left =>
    simp only [step, nextCall]
    cases hi : w.phase i with
    | opening =>
      cases ok with
      | false => exact Or.inl rfl
      | true => exact Or.inr ⟨i, true, left, some "", rfl, rfl, fun h => by cases h⟩
    | writing => exact Or.inr ⟨i, ok, left, _, rfl, rfl, fun h => by cases h⟩
    | unlinking =>
      cases ok with
      | false => exact Or.inl rfl
      | true => exact Or.inr ⟨i, true, left, none, rfl, rfl, fun _ => hi⟩
    | outside => exact Or.inl rfl
    | inside => exact Or.inl rfl
  | exit i ok =>
    rw [step]
    split
    · exact Or.inl rfl
    · split
      · exact Or.inl rfl
      · exact Or.inl rfl
  | kill i => exact Or.inl rfl

/-- The file that is removed is the one that its runtime has written. -/
theorem removesOwn_of_alone (h : group.Alone w) (a : PidAction ι) : group.RemovesOwn w a := by
  intro p hp hnone
  rcases file_step group w a with hsame | ⟨i, ok, left, content, ha, hfile, hremoved⟩
  · rw [hsame] at hnone
    exact absurd hnone hp
  · rw [hfile] at hnone
    by_cases hpath : p = group.path i
    · rw [hpath, Function.update_self] at hnone
      exact ⟨i, ok, left, ha, hpath, hpath ▸ h.written i (Or.inr (hremoved hnone))⟩
    · rw [Function.update_of_ne hpath] at hnone
      exact absurd hnone hp

/-- In every run of any number of runtimes in which each enters alone on its path, pidfiles are
owned in all states reached, and removed by their owners. -/
theorem pidfile_owned (group : PidGroup ι) (file : PosixPath → Option String)
    (actions : List (PidAction ι))
    (halone : Guarded group.step group.EntersAlone (start file) actions) :
    (∀ before after, actions = before ++ after →
      group.Owned (exec group.step (start file) before)) ∧
    ∀ before a after, actions = before ++ a :: after →
      group.RemovesOwn (exec group.step (start file) before) a := by
  have hstart : group.Alone (start file) :=
    ⟨fun i _ _ hi _ => absurd rfl hi, fun i hi => by simp [start] at hi⟩
  have hstates : ∀ before after, actions = before ++ after →
      group.Alone (exec group.step (start file) before) := by
    intro before after heq
    rw [heq, guarded_append] at halone
    exact invariant_of_guarded (I := group.Alone) (fun w a hguard h => alone_step h hguard)
      halone.1 hstart
  refine ⟨?_, ?_⟩
  · intro before after heq
    exact (hstates before after heq).owned
  · intro before a after heq
    exact removesOwn_of_alone (hstates before (a :: after) heq) a

/-- A controller and a combined orchestrator on one state directory. -/
def pairRuntimes : PidGroup Bool
  | false => ⟨⟨"/", ["state"]⟩, .controller, none, 100⟩
  | true => ⟨⟨"/", ["state"]⟩, .combined, none, 200⟩

def entering (i : Bool) : List (PidAction Bool) := [.enter i true, .next i true "", .next i true ""]

def leaving (i : Bool) : List (PidAction Bool) := [.exit i true, .next i true ""]

/-- One after the other. -/
theorem pidfile_owned_in_turn :
    pairRuntimes.Owned (exec pairRuntimes.step (start fun _ => none)
      (entering false ++ leaving false ++ entering true)) := by
  refine (pidfile_owned pairRuntimes (fun _ => none)
    (entering false ++ leaving false ++ entering true) ?_).1 _ [] (by rw [List.append_nil])
  simp only [entering, leaving, List.cons_append, List.nil_append, Guarded, EntersAlone]
  decide

/-- The first one to leave removes the file of the other one, which stays in its scope. -/
theorem pidfile_removed_by_other :
    pairRuntimes.path false = pairRuntimes.path true ∧
    ¬pairRuntimes.Owned (exec pairRuntimes.step (start fun _ => none)
      (entering false ++ entering true ++ leaving false)) ∧
    ¬pairRuntimes.RemovesOwn (exec pairRuntimes.step (start fun _ => none)
      (entering false ++ entering true ++ [.exit false true])) (.next false true "") := by
  refine ⟨rfl, ?_, ?_⟩
  · intro howned
    obtain ⟨j, -, -, hfile⟩ := howned true (by decide)
    cases j with
    | false => exact absurd hfile (by decide)
    | true => exact absurd hfile (by decide)
  · intro hremoves
    obtain ⟨i, ok, left, ha, -, hfile⟩ := hremoves (pairRuntimes.path true) (by decide) (by decide)
    cases ha
    exact absurd hfile (by decide)

end PidGroup
end PypnmCmts
