import Mathlib.Logic.Function.Basic
import PypnmCmts.LabelledRun

/-! The reload requests of `support/web_service_reload.py` and the watcher of
`tools/support/watch_reload_sentinel.py`, one call on the sentinel file at a time. The watcher knows
a request by the modification time of the file. -/
namespace PypnmCmts

open LabelledRun

/-- The sentinel file, with the time of its last modification. -/
structure SentinelFile where
  inode : ℕ
  mtimeNs : ℕ
deriving DecidableEq

/-- Where a call of `request_web_service_reload` is. Having opened its file, it writes to that
one. -/
inductive RequestPc
  | idle
  | looking
  | unlinking
  | opening
  | writing (inode : ℕ)
deriving DecidableEq

/-- The places of `_sentinel_mtime`: before the loop, in it, and behind the restart command. -/
inductive MtimeUse
  | first
  | loop
  | again
deriving DecidableEq

/-- Where the watcher is. The `exists` of `_sentinel_mtime` has `found` the file before its
`stat`. -/
inductive WatcherPc
  | reading (use : MtimeUse) (found : Bool)
  | restarting
  | dead
deriving DecidableEq

/-- What has happened, for the statements: a modification of the file, a removal, a reading that the
watcher remembers, a file that it found, what it did about the file, and its end. -/
inductive ReloadEvent
  | stamped
  | unlinked
  | read
  | found
  | restarted
  | passed
  | died
deriving DecidableEq

structure ReloadWorld (ι : Type) where
  sentinel : Option SentinelFile
  nextInode : ℕ
  clockNs : ℕ
  requests : ι → RequestPc
  lastMtimeNs : Option ℕ
  watcher : WatcherPc
  log : List ReloadEvent

inductive ReloadAction (ι : Type)
  | request (who : ι)
  | call (who : ι) (nowNs : ℕ) (fails : Bool)
  | watch

namespace ReloadWorld
variable {ι : Type} [DecidableEq ι]

/-- The watcher begins beside whatever file there is. -/
def start (sentinel : Option SentinelFile) (nextInode clockNs : ℕ) : ReloadWorld ι where
  sentinel := sentinel
  nextInode := nextInode
  clockNs := clockNs
  requests _ := .idle
  lastMtimeNs := none
  watcher := .reading .first false
  log := []

def setRequest (w : ReloadWorld ι) (who : ι) (pc : RequestPc) : ReloadWorld ι :=
  { w with requests := Function.update w.requests who pc }

def record (w : ReloadWorld ι) (event : ReloadEvent) : ReloadWorld ι :=
  { w with log := w.log ++ [event] }

/-- The file is modified now. -/
def stamp (w : ReloadWorld ι) (inode nowNs : ℕ) : ReloadWorld ι :=
  { w with sentinel := some ⟨inode, nowNs⟩, clockNs := nowNs }.record .stamped

/-- The next call of `request_web_service_reload`. A call that fails ends it with an exception. -/
def requestStep (w : ReloadWorld ι) (who : ι) (nowNs : ℕ) (fails : Bool) : ReloadWorld ι :=
  match w.requests who with
  | .idle => w
  | .looking =>
    w.setRequest who
      (if fails then .idle else if w.sentinel.isSome then .unlinking else .opening)
  | .unlinking =>
    -- another request may have unlinked the file first
    if fails || w.sentinel.isNone then w.setRequest who .idle
    else ({ w with sentinel := none }.record .unlinked).setRequest who .opening
  | .opening =>
    if fails then w.setRequest who .idle
    else
      match w.sentinel with
      | some file => (w.stamp file.inode nowNs).setRequest who (.writing file.inode)
      | none =>
        ({ w with nextInode := w.nextInode+1 }.stamp w.nextInode nowNs).setRequest who
          (.writing w.nextInode)
  | .writing inode =>
    -- a file that was unlinked meanwhile is written where nobody sees it
    if fails || w.sentinel.all (fun file => file.inode ≠ inode) then w.setRequest who .idle
    else (w.stamp inode nowNs).setRequest who .idle

/-- The watcher remembers a reading. -/
def remember (w : ReloadWorld ι) (mtimeNs : Option ℕ) : ReloadWorld ι :=
  { w with lastMtimeNs := mtimeNs, watcher := .reading .loop false }.record .read

def goto (w : ReloadWorld ι) (pc : WatcherPc) : ReloadWorld ι := { w with watcher := pc }

/-- The next call of the watcher. -/
def watcherStep (w : ReloadWorld ι) : ReloadWorld ι :=
  match w.watcher with
  | .dead => w
  | .restarting => w.goto (.reading .again false)
  | .reading use false =>
    if w.sentinel.isSome then (w.goto (.reading use true)).record .found else w.remember none
  | .reading use true =>
    match w.sentinel, use with
    -- the `stat` of a file that is gone raises
    | none, _ => (w.goto .dead).record .died
    | some file, .loop =>
      if w.lastMtimeNs = some file.mtimeNs then (w.goto (.reading .loop false)).record .passed
      else (w.goto .restarting).record .restarted
    | some file, _ => w.remember (some file.mtimeNs)

def step (w : ReloadWorld ι) : ReloadAction ι → ReloadWorld ι
  | .request who => if w.requests who = .idle then w.setRequest who .looking else w
  | .call who nowNs fails => w.requestStep who nowNs fails
  | .watch => w.watcherStep

/-- The file was modified after the last reading that the watcher remembers. -/
def pending (log : List ReloadEvent) : Bool :=
  log.foldl (fun pending event =>
    match event with
    | .stamped => true
    | .read => false
    | _ => pending) false

/-- The file was removed after the watcher had found it. -/
def removed (log : List ReloadEvent) : Bool :=
  log.foldl (fun removed event =>
    match event with
    | .unlinked => true
    | .found => false
    | _ => removed) false

/-- Why something happens after `log`: a look at the file leads to a restart if and only if it was
modified since the last reading, and the watcher dies of a removal only. -/
structure Reason (log : List ReloadEvent) (event : ReloadEvent) : Prop where
  restarted : event = .restarted → pending log = true
  passed : event = .passed → pending log = false
  died : event = .died → removed log = true

def Explained (log : List ReloadEvent) : Prop :=
  ∀ before event after, log = before ++ event :: after → Reason before event

/-- Each modification is later than all before. -/
def Stamped (w : ReloadWorld ι) : ReloadAction ι → Prop
  | .call _ nowNs _ => w.clockNs < nowNs
  | _ => True

theorem pending_concat (log : List ReloadEvent) (event : ReloadEvent) :
    pending (log ++ [event]) =
      match event with
      | .stamped => true
      | .read => false
      | _ => pending log := by
  rw [pending, List.foldl_append]
  rfl

theorem removed_concat (log : List ReloadEvent) (event : ReloadEvent) :
    removed (log ++ [event]) =
      match event with
      | .unlinked => true
      | .found => false
      | _ => removed log := by
  rw [removed, List.foldl_append]
  rfl

theorem explained_concat {log : List ReloadEvent} {event : ReloadEvent} (h : Explained log)
    (hevent : Reason log event) : Explained (log ++ [event]) := by
  intro before other after heq
  rcases split_concat heq with ⟨-, rfl, rfl⟩ | ⟨after, -, hbefore⟩
  · exact hevent
  · exact h before other after hbefore

/-- A request changes its own place only, modifies the file or removes it. -/
theorem requestStep_cases (w : ReloadWorld ι) (who : ι) (nowNs : ℕ) (fails : Bool) :
    w.requestStep who nowNs fails = w ∨
      ∃ w' pc, w.requestStep who nowNs fails = w'.setRequest who pc ∧
        (w' = w ∨ (∃ inode next, w' = { w with nextInode := next }.stamp inode nowNs) ∨
          w' = { w with sentinel := none }.record .unlinked) := by
  rw [requestStep]
  split
  · exact Or.inl rfl
  · exact Or.inr ⟨w, _, rfl, Or.inl rfl⟩
  · split
    · exact Or.inr ⟨w, _, rfl, Or.inl rfl⟩
    · exact Or.inr ⟨_, _, rfl, Or.inr (Or.inr rfl)⟩
  · split
    · exact Or.inr ⟨w, _, rfl, Or.inl rfl⟩
    · split
      · exact Or.inr ⟨_, _, rfl, Or.inr (Or.inl ⟨_, w.nextInode, rfl⟩)⟩
      · exact Or.inr ⟨_, _, rfl, Or.inr (Or.inl ⟨_, _, rfl⟩)⟩
  · split
    · exact Or.inr ⟨w, _, rfl, Or.inl rfl⟩
    · exact Or.inr ⟨_, _, rfl, Or.inr (Or.inl ⟨_, w.nextInode, rfl⟩)⟩

/-- What is known between two steps. -/
structure Sound (w : ReloadWorld ι) : Prop where
  explained : Explained w.log
  behind : ∀ file, w.sentinel = some file → file.mtimeNs ≤ w.clockNs
  remembered : ∀ m, w.lastMtimeNs = some m → m ≤ w.clockNs
  fresh : ∀ found, w.watcher = .reading .loop found → pending w.log = true →
    ∀ file, w.sentinel = some file → ∀ m, w.lastMtimeNs = some m → m < file.mtimeNs
  same : ∀ found, w.watcher = .reading .loop found → pending w.log = false →
    ∀ file, w.sentinel = some file → w.lastMtimeNs = some file.mtimeNs
  gone : ∀ use, w.watcher = .reading use true → w.sentinel = none → removed w.log = true

variable {w : ReloadWorld ι}

theorem Sound.setRequest (h : w.Sound) (who : ι) (pc : RequestPc) : (w.setRequest who pc).Sound :=
  ⟨h.explained, h.behind, h.remembered, h.fresh, h.same, h.gone⟩

omit [DecidableEq ι] in
theorem Sound.stamp (h : w.Sound) {inode next nowNs : ℕ} (hnow : w.clockNs < nowNs) :
    ({ w with nextInode := next }.stamp inode nowNs).Sound where
  explained := explained_concat h.explained ⟨by simp, by simp, by simp⟩
  behind := by
    intro file hfile
    obtain rfl := Option.some.inj hfile
    exact Nat.le_refl _
  remembered m hm := Nat.le_trans (h.remembered m hm) (Nat.le_of_lt hnow)
  fresh := by
    intro found _ _ file hfile m hm
    obtain rfl := Option.some.inj hfile
    exact Nat.lt_of_le_of_lt (h.remembered m hm) hnow
  same := by
    intro found _ hpending
    have hstamped : pending (w.log ++ [.stamped]) = true := pending_concat w.log .stamped
    rw [show pending (w.log ++ [.stamped]) = false from hpending] at hstamped
    simp at hstamped
  gone := by
    intro use _ hnone
    exact absurd hnone (Option.some_ne_none _)

omit [DecidableEq ι] in
theorem Sound.unlink (h : w.Sound) : ({ w with sentinel := none }.record .unlinked).Sound where
  explained := explained_concat h.explained ⟨by simp, by simp, by simp⟩
  behind _ hfile := absurd hfile.symm (Option.some_ne_none _)
  remembered := h.remembered
  fresh _ _ _ _ hfile := absurd hfile.symm (Option.some_ne_none _)
  same _ _ _ _ hfile := absurd hfile.symm (Option.some_ne_none _)
  gone _ _ _ := removed_concat w.log .unlinked

theorem sound_requestStep (h : w.Sound) (who : ι) {nowNs : ℕ} (hnow : w.clockNs < nowNs)
    (fails : Bool) : (w.requestStep who nowNs fails).Sound := by
  obtain hsame | ⟨w', pc, heq, rfl | ⟨inode, next, rfl⟩ | rfl⟩ :=
    w.requestStep_cases who nowNs fails
  · rw [hsame]
    exact h
  · rw [heq]
    exact h.setRequest who pc
  · rw [heq]
    exact (h.stamp hnow).setRequest who pc
  · rw [heq]
    exact h.unlink.setRequest who pc

omit [DecidableEq ι] in
/-- A reading that is remembered is of the file as it is. -/
theorem Sound.remember (h : w.Sound) {mtimeNs : Option ℕ}
    (hread : mtimeNs = w.sentinel.map SentinelFile.mtimeNs) : (w.remember mtimeNs).Sound where
  explained := explained_concat h.explained ⟨by simp, by simp, by simp⟩
  behind := h.behind
  remembered := by
    intro m hm
    obtain ⟨file, hfile, rfl⟩ := Option.map_eq_some_iff.mp (hread.symm.trans hm)
    exact h.behind file hfile
  fresh := by
    intro found _ hpending
    have hread : pending (w.log ++ [.read]) = false := pending_concat w.log .read
    rw [show pending (w.log ++ [.read]) = true from hpending] at hread
    simp at hread
  same := by
    intro found _ _ file hfile
    have hsentinel : w.sentinel = some file := hfile
    exact hread.trans (by rw [hsentinel]; rfl)
  gone _ hpc := by simp [ReloadWorld.remember, record] at hpc

omit [DecidableEq ι] in
/-- The watcher goes on with a reading, of a file that is there where it was found. -/
theorem Sound.look (h : w.Sound) {use : MtimeUse} {found found' : Bool} {event : ReloadEvent}
    (hpc : w.watcher = .reading use found) (hreason : Reason w.log event)
    (hkept : pending (w.log ++ [event]) = pending w.log)
    (hfound : found' = true → w.sentinel ≠ none) :
    ((w.goto (.reading use found')).record event).Sound := by
  refine ⟨explained_concat h.explained hreason, h.behind, h.remembered, ?_, ?_, ?_⟩
  · intro found'' hloop hpending
    obtain ⟨rfl, -⟩ : use = .loop ∧ found' = found'' := by simpa [goto, record] using hloop
    exact h.fresh found hpc (hkept ▸ hpending)
  · intro found'' hloop hpending
    obtain ⟨rfl, -⟩ : use = .loop ∧ found' = found'' := by simpa [goto, record] using hloop
    exact h.same found hpc (hkept ▸ hpending)
  · intro use' hlook hnone
    obtain ⟨-, rfl⟩ : use = use' ∧ found' = true := by simpa [goto, record] using hlook
    exact absurd hnone (hfound rfl)

omit [DecidableEq ι] in
/-- Nothing is asked of a watcher that does not read. -/
theorem Sound.leave (h : w.Sound) {pc : WatcherPc} {event : ReloadEvent}
    (hreason : Reason w.log event) (hpc : ∀ use found, pc ≠ .reading use found) :
    ((w.goto pc).record event).Sound :=
  ⟨explained_concat h.explained hreason, h.behind, h.remembered,
    fun _ hloop => absurd hloop (hpc _ _), fun _ hloop => absurd hloop (hpc _ _),
    fun _ hlook => absurd hlook (hpc _ _)⟩

omit [DecidableEq ι] in
theorem sound_watcherStep (h : w.Sound) : w.watcherStep.Sound := by
  rw [watcherStep]
  split
  · exact h
  · exact ⟨h.explained, h.behind, h.remembered, fun _ hpc => by simp [goto] at hpc,
      fun _ hpc => by simp [goto] at hpc, fun _ hpc => by simp [goto] at hpc⟩
  next use hpc =>
    split
    next hfound =>
      refine h.look hpc ⟨by simp, by simp, by simp⟩ (pending_concat w.log .found) ?_
      intro _ hnone
      simp [hnone] at hfound
    next hmissing =>
      have hnone : w.sentinel = none := by simpa using hmissing
      exact h.remember (by rw [hnone]; rfl)
  next use hpc =>
    split
    next hnone =>
      exact h.leave ⟨by simp, by simp, fun _ => h.gone _ hpc hnone⟩ (by simp)
    next file hfile =>
      split
      next hsame =>
        -- nothing new: the reading is the one remembered
        have hpending : pending w.log = false := by
          by_contra hne
          have hlt := h.fresh true hpc (by simpa using hne) file hfile file.mtimeNs hsame
          omega
        exact h.look hpc ⟨by simp, fun _ => hpending, by simp⟩ (pending_concat w.log .passed)
          (by simp)
      next hnew =>
        have hpending : pending w.log = true := by
          by_contra hne
          exact hnew (h.same true hpc (by simpa using hne) file hfile)
        exact h.leave ⟨fun _ => hpending, by simp, by simp⟩ (by simp)
    next file hfile _ =>
      exact h.remember (by rw [hfile]; rfl)

theorem sound_step (w : ReloadWorld ι) (a : ReloadAction ι) (hg : w.Stamped a) (h : w.Sound) :
    (w.step a).Sound := by
  cases a with
  | request who =>
    rw [step]
    split
    · exact h.setRequest who .looking
    · exact h
  | call who nowNs fails => exact sound_requestStep h who hg fails
  | watch => exact sound_watcherStep h

/-- In every run of requests beside the watcher: a look that finds the file leads to a restart if
and only if the file was modified after the last reading that the watcher remembers, and the watcher
ends only where a request removed the file between its `exists` and its `stat`. -/
theorem reloads_explained {sentinel : Option SentinelFile} {nextInode clockNs : ℕ}
    (hbehind : ∀ file, sentinel = some file → file.mtimeNs ≤ clockNs)
    (actions : List (ReloadAction ι))
    (hg : Guarded step Stamped (start sentinel nextInode clockNs) actions) :
    Explained (exec step (start sentinel nextInode clockNs : ReloadWorld ι) actions).log := by
  refine (invariant_of_guarded sound_step hg ?_).explained
  refine ⟨?_, hbehind, ?_, ?_, ?_, ?_⟩
  · intro before event after heq
    simp [start] at heq
  · intro m hm
    simp [start] at hm
  · intro found hloop
    simp [start] at hloop
  · intro found hloop
    simp [start] at hloop
  · intro use hloop
    simp [start] at hloop

instance (w : ReloadWorld ι) : ∀ a, Decidable (w.Stamped a)
  | .request _ => isTrue trivial
  | .call _ nowNs _ => inferInstanceAs (Decidable (w.clockNs < nowNs))
  | .watch => isTrue trivial

/-- A request that the watcher restarts for once, looking again afterwards, and a second one that
removes the file while the watcher is about to look at it. -/
def racingActions : List (ReloadAction Bool) :=
  [.watch, .request false, .call false 11 false, .call false 12 false, .watch, .call false 13 false,
    .watch, .watch, .watch, .watch, .watch, .watch, .request true, .call true 14 false, .watch,
    .call true 15 false, .watch]

theorem reloads_explained_racing :
    Explained (exec step (start none 0 10) racingActions).log :=
  reloads_explained (fun _ h => absurd h.symm (Option.some_ne_none _)) racingActions (by decide)

example : (exec step (start none 0 10 : ReloadWorld Bool) racingActions).log =
    [.read, .stamped, .found, .stamped, .restarted, .found, .read, .found, .passed,
      .found, .unlinked,
      .died] := by
  decide

/-- A look would find nothing new. -/
def Settled (w : ReloadWorld ι) : Prop :=
  ∀ found, w.watcher = .reading .loop found → ∀ file, w.sentinel = some file →
    w.lastMtimeNs = some file.mtimeNs

def restarts (w : ReloadWorld ι) : ℕ := w.log.count .restarted

omit [DecidableEq ι] in
theorem restarts_record (event : ReloadEvent) (hevent : event ≠ .restarted) :
    (w.record event).restarts = w.restarts := by
  rw [restarts, record, List.count_append, List.count_singleton, if_neg (by simpa using hevent)]
  rfl

theorem requestStep_quiet (w : ReloadWorld ι) (who : ι) (nowNs : ℕ) (fails : Bool) :
    (w.requestStep who nowNs fails).watcher = w.watcher ∧
      (w.requestStep who nowNs fails).restarts = w.restarts := by
  obtain hsame | ⟨w', pc, heq, rfl | ⟨inode, next, rfl⟩ | rfl⟩ :=
    w.requestStep_cases who nowNs fails
  · rw [hsame]
    exact ⟨rfl, rfl⟩
  · rw [heq]
    exact ⟨rfl, rfl⟩
  · rw [heq]
    exact ⟨rfl, restarts_record _ (by simp)⟩
  · rw [heq]
    exact ⟨rfl, restarts_record _ (by simp)⟩

omit [DecidableEq ι] in
theorem settled_remember {mtimeNs : Option ℕ}
    (hread : mtimeNs = w.sentinel.map SentinelFile.mtimeNs) :
    (w.remember mtimeNs).Settled ∧ (w.remember mtimeNs).restarts = w.restarts := by
  refine ⟨?_, restarts_record _ (by simp)⟩
  intro found _ file hfile
  have hsentinel : w.sentinel = some file := hfile
  exact hread.trans (by rw [hsentinel]; rfl)

omit [DecidableEq ι] in
/-- A watcher that would find nothing new goes on without a restart. -/
theorem settled_watcherStep (h : w.Settled) :
    w.watcherStep.Settled ∧ w.watcherStep.restarts = w.restarts := by
  rw [watcherStep]
  split
  · exact ⟨h, rfl⟩
  · exact ⟨fun _ hpc => by simp [goto] at hpc, rfl⟩
  next use hpc =>
    split
    next hfound =>
      refine ⟨?_, restarts_record _ (by simp)⟩
      intro found hloop
      obtain ⟨rfl, -⟩ : use = .loop ∧ true = found := by simpa [goto, record] using hloop
      exact h false hpc
    next hmissing =>
      have hnone : w.sentinel = none := by simpa using hmissing
      exact settled_remember (by rw [hnone]; rfl)
  next use hpc =>
    split
    next hnone =>
      exact ⟨fun _ hloop => by simp [goto, record] at hloop, restarts_record _ (by simp)⟩
    next file hfile =>
      rw [if_pos (h true hpc file hfile)]
      exact ⟨fun _ _ => h true hpc, restarts_record _ (by simp)⟩
    next file hfile _ =>
      exact settled_remember (by rw [hfile]; rfl)

omit [DecidableEq ι] in
/-- Any step of the watcher begins one restart at most, and is in its command then. -/
theorem watcherStep_restarts (w : ReloadWorld ι) :
    w.watcherStep.restarts = w.restarts ∨
      w.watcherStep.watcher = .restarting ∧ w.watcherStep.restarts = w.restarts+1 := by
  by_cases hsettled : w.Settled
  · exact Or.inl (settled_watcherStep hsettled).2
  · simp only [Settled, not_forall] at hsettled
    obtain ⟨found, hpc, file, hfile, hnew⟩ := hsettled
    cases found with
    | false =>
      left
      have hsome : w.sentinel.isSome = true := by rw [hfile]; rfl
      rw [watcherStep, hpc]
      simp only [hsome, if_true]
      exact restarts_record _ (by simp)
    | true =>
      right
      rw [watcherStep, hpc, hfile]
      simp only [if_neg hnew]
      refine ⟨rfl, ?_⟩
      rw [restarts, record, List.count_append, List.count_singleton_self]
      rfl

end ReloadWorld

/-- Where `restart_from_launch_state.py` is: before it reads the launch state, before it terminates
the recorded server, waiting for that one to end, running the next one, or back. -/
inductive LaunchPc
  | looking
  | stopping
  | waiting
  | serving
  | returned
deriving DecidableEq

/-- What the command meets: whether there is a launch state, whether its pid looks like a server,
and whether the signal is refused. -/
structure LaunchAnswer where
  recorded : Bool
  looksLikeServe : Bool
  refused : Bool

/-- The watcher with its restart command and the servers, of which `server` is the last one. -/
structure ServedWorld (ι : Type) where
  reload : ReloadWorld ι
  server : ℕ
  up : ℕ → Bool
  command : LaunchPc

inductive ServedAction (ι : Type)
  | reload (action : ReloadAction ι)
  | command (answer : LaunchAnswer)
  | ends (server : ℕ)

namespace ServedWorld
variable {ι : Type} [DecidableEq ι]

open ReloadWorld

def start (sentinel : Option SentinelFile) (nextInode clockNs : ℕ) : ServedWorld ι where
  reload := ReloadWorld.start sentinel nextInode clockNs
  server := 0
  up n := n = 0
  command := .returned

def goto (w : ServedWorld ι) (pc : LaunchPc) : ServedWorld ι := { w with command := pc }

/-- `subprocess.run` of the recorded command line. -/
def launch (w : ServedWorld ι) : ServedWorld ι :=
  { w with
    server := w.server+1
    up := Function.update w.up (w.server+1) true
    command := .serving }

def commandStep (w : ServedWorld ι) (answer : LaunchAnswer) : ServedWorld ι :=
  match w.command with
  | .looking =>
    if !answer.recorded then w.goto .returned
    else if answer.looksLikeServe then w.goto .stopping
    else w.launch
  | .stopping => w.goto (if answer.refused then .returned else .waiting)
  -- the server has ended, or ten seconds are over
  | .waiting => w.launch
  | .serving => if w.up w.server then w else w.goto .returned
  | .returned => w

def step (w : ServedWorld ι) : ServedAction ι → ServedWorld ι
  | .reload .watch =>
    -- the watcher waits for its command
    if w.reload.watcher = .restarting ∧ w.command ≠ .returned then w
    else
      { w with
        reload := w.reload.watcherStep
        command := if w.reload.watcherStep.watcher = .restarting then .looking else w.command }
  | .reload action => { w with reload := w.reload.step action }
  | .command answer => if w.reload.watcher = .restarting then w.commandStep answer else w
  | .ends n => { w with up := Function.update w.up n false }

/-- Requests come from servers that are up, `owner` telling whose a request is. The command finds
what it needs, may end the server, and that one ends in time. -/
def Orderly (owner : ι → ℕ) (w : ServedWorld ι) : ServedAction ι → Prop
  | .reload (.request who) => w.up (owner who) = true
  | .reload (.call who _ _) => w.up (owner who) = true
  | .reload .watch => True
  | .command answer =>
    (w.command = .looking → answer.recorded = true ∧
      (answer.looksLikeServe = false → w.up w.server = false)) ∧
    (w.command = .stopping → answer.refused = false) ∧
    (w.command = .waiting → w.up w.server = false)
  | .ends _ => True

/-- Once there was a restart, the watcher waits for its command, which is back only when no server
is left to ask for another one. -/
structure Spent (w : ServedWorld ι) : Prop where
  alone : ∀ n, n ≠ w.server → w.up n = false
  back : w.reload.watcher = .restarting → w.command = .returned → w.up w.server = false
  once : w.reload.restarts = 0 ∨
    w.reload.restarts = 1 ∧ w.reload.Settled ∧
      (w.reload.watcher = .restarting ∨ w.up w.server = false)

omit [DecidableEq ι] in
theorem settled_restarting {w : ReloadWorld ι} (h : w.watcher = .restarting) : w.Settled := by
  intro found hloop
  rw [h] at hloop
  simp at hloop

variable {w : ServedWorld ι}

theorem spent_watch (h : w.Spent) : (w.step (.reload .watch)).Spent := by
  rw [step]
  split
  · exact h
  next hback =>
    refine ⟨h.alone, ?_, ?_⟩
    · intro hpc hreturned
      have hpc' : w.reload.watcherStep.watcher = .restarting := hpc
      simp [hpc'] at hreturned
    · rcases h.once with hnone | ⟨hone, hsettled, hquiet⟩
      · rcases w.reload.watcherStep_restarts with hsame | ⟨hpc, hmore⟩
        · exact Or.inl (hsame.trans hnone)
        · exact Or.inr ⟨hmore.trans (by rw [hnone]), settled_restarting hpc, Or.inl hpc⟩
      · obtain ⟨hstill, hsame⟩ := settled_watcherStep hsettled
        have hdown : w.up w.server = false := by
          rcases hquiet with hpc | hdown
          · exact h.back hpc (by_contra fun hne => hback ⟨hpc, hne⟩)
          · exact hdown
        exact Or.inr ⟨hsame.trans hone, hstill, Or.inr hdown⟩

omit [DecidableEq ι] in
/-- A request of a server that is up: after a restart the watcher waits for its command. -/
theorem spent_request (h : w.Spent) {n : ℕ} (hup : w.up n = true) {w' : ReloadWorld ι}
    (hquiet : w'.watcher = w.reload.watcher ∧ w'.restarts = w.reload.restarts) :
    ({ w with reload := w' }).Spent := by
  obtain ⟨hwatcher, hrestarts⟩ := hquiet
  have hserver : n = w.server := by
    by_contra hne
    simp [h.alone n hne] at hup
  refine ⟨h.alone, fun hpc => h.back (hwatcher.symm.trans hpc), ?_⟩
  rcases h.once with hnone | ⟨hone, -, hpc | hdown⟩
  · exact Or.inl (hrestarts.trans hnone)
  · have hpc' : w'.watcher = .restarting := hwatcher.trans hpc
    exact Or.inr ⟨hrestarts.trans hone, settled_restarting hpc', Or.inl hpc'⟩
  · rw [← hserver, hup] at hdown
    simp at hdown

omit [DecidableEq ι] in
/-- The command goes on, and is not back with a server up. -/
theorem Spent.goto (h : w.Spent) {pc : LaunchPc} (hback : pc = .returned → w.up w.server = false) :
    (w.goto pc).Spent :=
  ⟨h.alone, fun _ hpc => hback hpc, h.once⟩

omit [DecidableEq ι] in
theorem Spent.launch (h : w.Spent) (hpc : w.reload.watcher = .restarting)
    (hdown : w.up w.server = false) : w.launch.Spent := by
  refine ⟨?_, ?_, ?_⟩
  · intro n hn
    have hothers : w.up n = false := by
      by_cases hserver : n = w.server
      · rw [hserver]
        exact hdown
      · exact h.alone n hserver
    exact (Function.update_of_ne hn _ _).trans hothers
  · intro _ hreturned
    simp [ServedWorld.launch] at hreturned
  · rcases h.once with hnone | ⟨hone, hsettled, -⟩
    · exact Or.inl hnone
    · exact Or.inr ⟨hone, hsettled, Or.inl hpc⟩

omit [DecidableEq ι] in
theorem spent_commandStep (h : w.Spent) (hpc : w.reload.watcher = .restarting)
    (answer : LaunchAnswer)
    (hlooking : w.command = .looking → answer.recorded = true ∧
      (answer.looksLikeServe = false → w.up w.server = false))
    (hstopping : w.command = .stopping → answer.refused = false)
    (hwaiting : w.command = .waiting → w.up w.server = false) :
    (w.commandStep answer).Spent := by
  rw [commandStep]
  split
  next hcommand =>
    obtain ⟨hrecorded, hserve⟩ := hlooking hcommand
    simp only [hrecorded, Bool.not_true, Bool.false_eq_true, if_false]
    split
    · exact h.goto (by simp)
    next hother => exact h.launch hpc (hserve (by simpa using hother))
  next hcommand =>
    rw [hstopping hcommand]
    exact h.goto (by simp)
  next hcommand => exact h.launch hpc (hwaiting hcommand)
  next hcommand =>
    split
    · exact h
    next hended => exact h.goto fun _ => by simpa using hended
  · exact h

omit [DecidableEq ι] in
theorem spent_ends (h : w.Spent) (n : ℕ) :
    ({ w with up := Function.update w.up n false }).Spent := by
  have hdown (k : ℕ) (hk : w.up k = false) : Function.update w.up n false k = false := by
    by_cases hkn : k = n
    · rw [hkn, Function.update_self]
    · rw [Function.update_of_ne hkn]
      exact hk
  refine ⟨fun k hk => hdown k (h.alone k hk), fun hpc hback => hdown _ (h.back hpc hback), ?_⟩
  rcases h.once with hnone | ⟨hone, hsettled, hpc | hend⟩
  · exact Or.inl hnone
  · exact Or.inr ⟨hone, hsettled, Or.inl hpc⟩
  · exact Or.inr ⟨hone, hsettled, Or.inr (hdown _ hend)⟩

theorem spent_step (owner : ι → ℕ) (w : ServedWorld ι) (a : ServedAction ι)
    (hg : Orderly owner w a) (h : w.Spent) : (w.step a).Spent := by
  cases a with
  | reload action =>
    cases action with
    | request who =>
      refine spent_request h hg ?_
      rw [ReloadWorld.step]
      split
      · exact ⟨rfl, rfl⟩
      · exact ⟨rfl, rfl⟩
    | call who nowNs fails => exact spent_request h hg (w.reload.requestStep_quiet who nowNs fails)
    | watch => exact spent_watch h
  | command answer =>
    rw [step]
    split
    next hpc =>
      obtain ⟨hlooking, hstopping, hwaiting⟩ := hg
      exact spent_commandStep h hpc answer hlooking hstopping hwaiting
    · exact h
  | ends n => exact spent_ends h n

/-- However many reloads the servers ask for, the watcher restarts once: its command is back only
when the server that it has launched has ended. -/
theorem one_restart_only (owner : ι → ℕ) (sentinel : Option SentinelFile) (nextInode clockNs : ℕ)
    (actions : List (ServedAction ι))
    (hg : Guarded step (Orderly owner) (start sentinel nextInode clockNs) actions) :
    (exec step (start sentinel nextInode clockNs) actions).reload.restarts ≤ 1 := by
  have hstart : (start sentinel nextInode clockNs : ServedWorld ι).Spent := by
    refine ⟨fun n hn => decide_eq_false hn, ?_, Or.inl rfl⟩
    intro hpc
    simp [start, ReloadWorld.start] at hpc
  rcases (invariant_of_guarded (spent_step owner) hg hstart).once with hzero | ⟨hone, -, -⟩
  · omega
  · omega

instance (owner : ι → ℕ) (w : ServedWorld ι) : ∀ a, Decidable (Orderly owner w a)
  | .reload (.request _) => inferInstanceAs (Decidable (_ = _))
  | .reload (.call _ _ _) => inferInstanceAs (Decidable (_ = _))
  | .reload .watch => isTrue trivial
  | .command _ => inferInstanceAs (Decidable ((_ → _ ∧ (_ → _)) ∧ (_ → _) ∧ (_ → _)))
  | .ends _ => isTrue trivial

def ownerOf (who : Bool) : ℕ := if who then 1 else 0

/-- A whole request, of four calls at most. -/
def requestBy (who : Bool) (nowNs : ℕ) : List (ServedAction Bool) :=
  .reload (.request who) :: List.replicate 4 (.reload (.call who nowNs false))

def foundServer : LaunchAnswer := ⟨true, true, false⟩

/-- The first server asks for a reload and is restarted. The second one asks again, and ends. -/
def askedTwice : List (ServedAction Bool) :=
  .reload .watch :: requestBy false 20 ++
    [.reload .watch, .reload .watch, .command foundServer, .command foundServer, .ends 0,
      .command foundServer] ++
    requestBy true 30 ++ .reload .watch :: .ends 1 :: .command foundServer ::
    List.replicate 5 (.reload .watch)

theorem one_restart_only_asked :
    (exec step (start none 0 10) askedTwice).reload.restarts ≤ 1 :=
  one_restart_only ownerOf none 0 10 askedTwice (by decide)

/-- The second request was made, and the watcher passes over it. -/
example : (exec step (start none 0 10) askedTwice).reload.log =
    [.read, .stamped, .stamped, .found, .restarted, .unlinked, .stamped, .stamped, .found, .read,
      .found, .passed] := by
  decide

end ServedWorld
end PypnmCmts
