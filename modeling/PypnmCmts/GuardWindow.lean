import Mathlib.Algebra.Order.Ring.Rat
import Mathlib.Data.Nat.Cast.Order.Ring
import PypnmCmts.LabelledRun
import PypnmCmts.SlidingWindow
import PypnmCmts.WorkerGuard

/-! The restarts that one guard controller allows over a run (`support/worker_guard.py`). Their
number in any window is limited. Their distance is only looked at while the window remembers the
last of them. -/
namespace PypnmCmts
open SlidingWindow

/-- The calls of a worker's supervisor, with the readings of the monotonic clock. -/
inductive GuardCall
  | evaluate (observation : WorkerGuardObservationModel)
      (rssRestartThresholdBytes maxConsecutiveErrorCycles : Option ℕ) (nowMonotonic : ℚ)
  | recordRestart (nowMonotonic : ℚ)

/-- A controller, the last reading of the clock, whether the last call allowed a restart, and all
restarts that were recorded. -/
structure GuardHistory where
  controller : WorkerGuardController
  clock : ℚ
  allowed : Bool := false
  recorded : List ℚ := []

namespace GuardHistory

def start (controller : WorkerGuardController) (startedAt : ℚ) : GuardHistory where
  controller := controller
  clock := startedAt

def step (history : GuardHistory) : GuardCall → GuardHistory
  | .evaluate observation rssRestartThresholdBytes maxConsecutiveErrorCycles nowMonotonic =>
    let (decision, controller) := history.controller.evaluate observation rssRestartThresholdBytes
      maxConsecutiveErrorCycles nowMonotonic
    { history with controller, clock := nowMonotonic, allowed := decision.restartRequired }
  | .recordRestart nowMonotonic =>
    { controller := history.controller.recordRestart nowMonotonic
      clock := nowMonotonic
      allowed := false
      recorded := history.recorded ++ [nowMonotonic] }

/-- The clock does not go back, and a restart is recorded right after it was allowed. -/
def InTurn (history : GuardHistory) : GuardCall → Prop
  | .evaluate _ _ _ nowMonotonic => history.clock ≤ nowMonotonic
  | .recordRestart nowMonotonic => history.clock ≤ nowMonotonic ∧ history.allowed = true

instance (history : GuardHistory) (call : GuardCall) : Decidable (history.InTurn call) :=
  match call with
  | .evaluate _ _ _ nowMonotonic => inferInstanceAs (Decidable (history.clock ≤ nowMonotonic))
  | .recordRestart nowMonotonic =>
    inferInstanceAs (Decidable (history.clock ≤ nowMonotonic ∧ history.allowed = true))

def Spaced (limits : WorkerGuardController) (t t' : ℚ) : Prop :=
  (limits.minRestartIntervalSeconds : ℚ) ≤ t'-t

instance (limits : WorkerGuardController) (t t' : ℚ) : Decidable (Spaced limits t t') :=
  inferInstanceAs (Decidable (_ ≤ _))

/-- The recorded restarts are in order, keep the minimum interval and are never too many in a
window, and the controller remembers those that lie in the current one. -/
structure KeepsLimits (limits : WorkerGuardController) (history : GuardHistory) : Prop where
  sorted : history.recorded.Pairwise (· ≤ ·)
  spaced : history.recorded.IsChain (Spaced limits)
  atMost : AtMost limits.maxRestartsPerWindow (limits.restartWindowSeconds : ℚ) history.recorded
  remembered : since (history.clock-limits.restartWindowSeconds) history.controller.restartTimes =
    since (history.clock-limits.restartWindowSeconds) history.recorded

variable (limits : WorkerGuardController)

/-- The window that ends now has room, and its last restart is long enough ago. -/
def Admits (now : ℚ) (recorded : List ℚ) : Prop :=
  (since (now-limits.restartWindowSeconds) recorded).length < limits.maxRestartsPerWindow ∧
    ∀ last ∈ (since (now-limits.restartWindowSeconds) recorded).getLast?,
      (limits.minRestartIntervalSeconds : ℚ) ≤ now-last

/-- The controller remembers what a cutoff before the current window leaves of the restarts. -/
def Remembers (now : ℚ) (recorded : List ℚ) (controller : WorkerGuardController) : Prop :=
  ∃ cutoff ≤ now-limits.restartWindowSeconds,
    controller = { limits with restartTimes := since cutoff recorded }

/-- Of two restarts in a row the second one keeps the interval, or the window has left the first
one behind. -/
def Apart (t t' : ℚ) : Prop :=
  Spaced limits t t' ∨ (limits.restartWindowSeconds : ℚ) < t'-t

structure Sound (history : GuardHistory) : Prop where
  sorted : history.recorded.Pairwise (· ≤ ·)
  past : ∀ t ∈ history.recorded, t ≤ history.clock
  remembers : Remembers limits history.clock history.recorded history.controller
  apart : history.recorded.IsChain (Apart limits)
  spaced : history.controller.restartTimes.IsChain (Spaced limits)
  atMost : AtMost limits.maxRestartsPerWindow (limits.restartWindowSeconds : ℚ) history.recorded
  admits : history.allowed = true → Admits limits history.clock history.recorded

variable {limits} {history : GuardHistory} {now now' : ℚ} {recorded : List ℚ}
  {controller : WorkerGuardController}

theorem Remembers.mono (h : Remembers limits now recorded controller) (hnow : now ≤ now') :
    Remembers limits now' recorded controller := by
  obtain ⟨cutoff, hcutoff, heq⟩ := h
  exact ⟨cutoff, hcutoff.trans (sub_le_sub_right hnow _), heq⟩

/-- What is remembered after pruning is what the window holds. -/
theorem pruneRestartTimes_of_remembers (hsorted : recorded.Pairwise (· ≤ ·))
    (h : Remembers limits now recorded controller) : controller.pruneRestartTimes now =
      { limits with restartTimes := since (now-limits.restartWindowSeconds) recorded } := by
  obtain ⟨cutoff, hcutoff, rfl⟩ := h
  have hleft : (since cutoff recorded).Pairwise (· ≤ ·) := hsorted.filter _
  rw [WorkerGuardController.pruneRestartTimes]
  dsimp only
  rw [dropWhile_lt_eq_since hleft, since_since hcutoff]

theorem gateReason_eq_none_iff_admits (hsorted : recorded.Pairwise (· ≤ ·))
    (h : Remembers limits now recorded controller) :
    (controller.gateReason now).1 = none ↔ Admits limits now recorded := by
  rw [WorkerGuardController.gateReason_eq_none_iff, pruneRestartTimes_of_remembers hsorted h]
  obtain ⟨cutoff, -, rfl⟩ := h
  rfl

theorem sound_start (hfresh : limits.restartTimes = []) (startedAt : ℚ) :
    Sound limits (start limits startedAt) where
  sorted := List.Pairwise.nil
  past := List.forall_mem_nil _
  remembers := ⟨_, le_rfl, by rw [start, since, List.filter_nil, ← hfresh]⟩
  apart := List.IsChain.nil
  spaced := by rw [start, hfresh]; exact List.IsChain.nil
  atMost := fun _ => Nat.zero_le _
  admits := fun h => absurd h Bool.false_ne_true

theorem sound_evaluate (hs : Sound limits history) (observation : WorkerGuardObservationModel)
    (rssRestartThresholdBytes maxConsecutiveErrorCycles : Option ℕ) (hnow : history.clock ≤ now) :
    Sound limits (history.step (.evaluate observation rssRestartThresholdBytes
      maxConsecutiveErrorCycles now)) := by
  have hrem := hs.remembers.mono hnow
  have hafter := history.controller.evaluate_snd observation rssRestartThresholdBytes
    maxConsecutiveErrorCycles now
  refine ⟨hs.sorted, fun t ht => (hs.past t ht).trans hnow, ?_, hs.apart, ?_, hs.atMost, ?_⟩
  · show Remembers limits now history.recorded (history.controller.evaluate ..).2
    rcases hafter with hkept | hpruned
    · rwa [hkept]
    · rw [hpruned, pruneRestartTimes_of_remembers hs.sorted hrem]
      exact ⟨_, le_rfl, rfl⟩
  · show (history.controller.evaluate ..).2.restartTimes.IsChain _
    rcases hafter with hkept | hpruned
    · rw [hkept]
      exact hs.spaced
    · rw [hpruned]
      exact hs.spaced.suffix (history.controller.pruneRestartTimes_suffix now)
  · intro hallowed
    have hgate := (WorkerGuardController.evaluate_restartRequired_iff.mp hallowed).2
    exact (gateReason_eq_none_iff_admits hs.sorted hrem).mp hgate

theorem spaced_of_admits (hadmits : Admits limits history.clock history.recorded)
    (hnow : history.clock ≤ now) {last : ℚ} (hlast : last ∈ history.recorded.getLast?)
    (hin : history.clock-limits.restartWindowSeconds ≤ last) : Spaced limits last now := by
  have hinterval := hadmits.2 last (getLast?_since hlast hin)
  exact hinterval.trans (sub_le_sub_right hnow _)

/-- The last restart is in the window, so that its distance was looked at, or before it. -/
theorem apart_of_admits (hadmits : Admits limits history.clock history.recorded)
    (hnow : history.clock ≤ now) {last : ℚ} (hlast : last ∈ history.recorded.getLast?) :
    Apart limits last now := by
  by_cases hin : history.clock-limits.restartWindowSeconds ≤ last
  · exact Or.inl (spaced_of_admits hadmits hnow hlast hin)
  · rw [not_le, lt_sub_comm] at hin
    exact Or.inr (hin.trans_le (sub_le_sub_right hnow _))

theorem sound_recordRestart (hs : Sound limits history) (hnow : history.clock ≤ now)
    (hallowed : history.allowed = true) : Sound limits (history.step (.recordRestart now)) := by
  have hadmits := hs.admits hallowed
  have hpast : ∀ t ∈ history.recorded, t ≤ now := fun t ht => (hs.past t ht).trans hnow
  have hwindow : history.clock-limits.restartWindowSeconds ≤ now-limits.restartWindowSeconds :=
    sub_le_sub_right hnow _
  have hprune := pruneRestartTimes_of_remembers hs.sorted (hs.remembers.mono hnow)
  -- the restart was allowed at the last reading of the clock, and is recorded at this one
  refine ⟨pairwise_concat hs.sorted hpast, ?_, ?_, ?_, ?_, ?_,
    fun h => absurd h Bool.false_ne_true⟩
  · intro t ht
    rcases List.mem_append.mp ht with ht | ht
    · exact hpast t ht
    · exact (List.mem_singleton.mp ht).le
  · have hcutoff : now-limits.restartWindowSeconds ≤ now := sub_le_self _ (Nat.cast_nonneg _)
    refine ⟨now-limits.restartWindowSeconds, le_rfl, ?_⟩
    dsimp only [step]
    rw [since_concat hcutoff, WorkerGuardController.recordRestart, hprune]
  · apply hs.apart.append (List.isChain_singleton _)
    intro last hlast t ht
    obtain rfl := Option.some.inj ht
    exact apart_of_admits hadmits hnow hlast
  · show (history.controller.pruneRestartTimes now).restartTimes ++ [now] |>.IsChain _
    have hleft := hs.spaced.suffix (history.controller.pruneRestartTimes_suffix now)
    apply hleft.append (List.isChain_singleton _)
    intro last hlast t ht
    obtain rfl := Option.some.inj ht
    rw [hprune] at hlast
    have hin := (mem_since.mp (List.mem_of_getLast? hlast)).2
    exact spaced_of_admits hadmits hnow (getLast?_of_since hs.sorted hlast) (hwindow.trans hin)
  · exact hs.atMost.concat ((length_since_anti hwindow _).trans_lt hadmits.1)

theorem sound_step (call : GuardCall) (hturn : history.InTurn call) (hs : Sound limits history) :
    Sound limits (history.step call) := by
  cases call with
  | evaluate observation rssRestartThresholdBytes maxConsecutiveErrorCycles nowMonotonic =>
    exact sound_evaluate hs _ _ _ hturn
  | recordRestart nowMonotonic => exact sound_recordRestart hs hturn.1 hturn.2

/-- Over every run the order, the count and the memory are right, and two restarts in a row keep
the interval or are further apart than the window is long. -/
theorem sound_exec (hfresh : limits.restartTimes = []) {startedAt : ℚ} {calls : List GuardCall}
    (hturn : LabelledRun.Guarded step InTurn (start limits startedAt) calls) :
    Sound limits (LabelledRun.exec step (start limits startedAt) calls) :=
  LabelledRun.invariant_of_guarded (I := Sound limits) (fun _ call h hs => sound_step call h hs)
    hturn (sound_start hfresh startedAt)

theorem Sound.remembered (hs : Sound limits history) :
    since (history.clock-limits.restartWindowSeconds) history.controller.restartTimes =
      since (history.clock-limits.restartWindowSeconds) history.recorded := by
  obtain ⟨cutoff, hcutoff, heq⟩ := hs.remembers
  rw [heq]
  exact since_since hcutoff _

theorem Sound.keepsLimits (hs : Sound limits history)
    (hinterval : limits.minRestartIntervalSeconds ≤ limits.restartWindowSeconds) :
    KeepsLimits limits history := by
  refine ⟨hs.sorted, hs.apart.imp ?_, hs.atMost, hs.remembered⟩
  intro t t' hapart
  apply hapart.elim id
  intro hlong
  exact (Nat.cast_le.mpr hinterval).trans hlong.le

/-- What the controller itself holds keeps the interval in any case. -/
theorem held_restarts_spaced (hfresh : limits.restartTimes = []) {startedAt : ℚ}
    {calls : List GuardCall}
    (hturn : LabelledRun.Guarded step InTurn (start limits startedAt) calls) :
    (LabelledRun.exec step (start limits startedAt) calls).controller.restartTimes.IsChain
      (Spaced limits) :=
  (sound_exec hfresh hturn).spaced

/-! ### An interval longer than the window -/

/-- A call that finds the memory above its threshold. -/
def crossing (now : ℚ) : GuardCall := .evaluate { rssBytes := some 1 } (some 1) none now

theorem allowed_crossing_iff (hs : Sound limits history) (hnow : history.clock ≤ now) :
    (history.step (crossing now)).allowed = true ↔ Admits limits now history.recorded := by
  rw [← gateReason_eq_none_iff_admits hs.sorted (hs.remembers.mono hnow), crossing, step.eq_def]
  dsimp only
  rw [WorkerGuardController.evaluate_restartRequired_iff, and_iff_right_iff_imp]
  intro _
  simp [WorkerGuardController.thresholdReasons]

theorem sound_crossing (hs : Sound limits history) (hnow : history.clock ≤ now) :
    Sound limits (history.step (crossing now)) := sound_evaluate hs _ _ _ hnow

/-- A time whose window has just left a restart at zero behind. -/
def justAfter (limits : WorkerGuardController) : ℚ := limits.restartWindowSeconds+1/2

def forgetful (limits : WorkerGuardController) : List GuardCall :=
  [crossing 0, .recordRestart 0, crossing (justAfter limits), .recordRestart (justAfter limits)]

theorem forgetful_recorded (limits : WorkerGuardController) :
    (LabelledRun.exec step (start limits 0) (forgetful limits)).recorded = [0, justAfter limits] :=
  rfl

theorem inTurn_forgetful (hfresh : limits.restartTimes = [])
    (hmax : 0 < limits.maxRestartsPerWindow) :
    LabelledRun.Guarded step InTurn (start limits 0) (forgetful limits) := by
  have hlater : (0 : ℚ) ≤ justAfter limits :=
    add_nonneg (Nat.cast_nonneg _) (by decide +kernel)
  have hstart := sound_start hfresh 0
  have hclock : (start limits 0).clock ≤ 0 := le_rfl
  have hfirst : ((start limits 0).step (crossing 0)).allowed = true := by
    rw [allowed_crossing_iff hstart hclock]
    exact ⟨hmax, fun last hlast => by cases hlast⟩
  have hrecorded : Sound limits (((start limits 0).step (crossing 0)).step (.recordRestart 0)) :=
    sound_recordRestart (sound_crossing hstart hclock) le_rfl hfirst
  refine ⟨hclock, ⟨le_rfl, hfirst⟩, hlater, ⟨le_rfl, ?_⟩, trivial⟩
  rw [allowed_crossing_iff hrecorded hlater]
  -- the first restart lies half a second before the window
  have hleft : since (justAfter limits-limits.restartWindowSeconds) [0] = [] := by
    rw [justAfter, add_sub_cancel_left]
    decide +kernel
  show Admits limits (justAfter limits) [0]
  rw [Admits, hleft]
  exact ⟨hmax, fun last hlast => by cases hlast⟩

theorem not_keepsLimits_forgetful
    (hlong : limits.restartWindowSeconds < limits.minRestartIntervalSeconds) :
    ¬KeepsLimits limits (LabelledRun.exec step (start limits 0) (forgetful limits)) := by
  intro h
  have hspaced := h.spaced
  rw [forgetful_recorded, List.isChain_cons_cons, Spaced, sub_zero, justAfter] at hspaced
  have hnext : (limits.restartWindowSeconds : ℚ)+1 ≤ limits.minRestartIntervalSeconds := by
    exact_mod_cast hlong
  have hhalf : (1/2 : ℚ) < 1 := by decide +kernel
  exact absurd (hnext.trans hspaced.1) (not_le.mpr (add_lt_add_right hhalf _))

/-- Every run of a controller keeps the limits exactly if the interval is not longer than the
window. -/
theorem guard_limits_iff (minRestartIntervalSeconds maxRestartsPerWindow : ℤ)
    (restartWindowSeconds : ℤ) :
    (∀ startedAt calls, LabelledRun.Guarded step InTurn
      (start (.create minRestartIntervalSeconds maxRestartsPerWindow restartWindowSeconds)
        startedAt) calls →
      KeepsLimits (.create minRestartIntervalSeconds maxRestartsPerWindow restartWindowSeconds)
        (LabelledRun.exec step (start (.create minRestartIntervalSeconds maxRestartsPerWindow
          restartWindowSeconds) startedAt) calls)) ↔
      minRestartIntervalSeconds ≤ max 1 restartWindowSeconds := by
  constructor
  · intro h
    by_contra hlong
    refine not_keepsLimits_forgetful ?_ (h 0 _ (inTurn_forgetful rfl ?_))
    · simp only [WorkerGuardController.create]
      omega
    · simp only [WorkerGuardController.create]
      omega
  · intro hshort startedAt calls hturn
    apply (sound_exec rfl hturn).keepsLimits
    simp only [WorkerGuardController.create]
    omega

/-- An interval of two hours, and a restart an hour and a second after the first one. -/
theorem guard_forgets_restart :
    ∃ calls, LabelledRun.Guarded step InTurn (start (.create 7200 6 3600) 0) calls ∧
      ¬KeepsLimits (.create 7200 6 3600)
        (LabelledRun.exec step (start (.create 7200 6 3600) 0) calls) := by
  refine ⟨[crossing 0, .recordRestart 0, crossing 3601, .recordRestart 3601], ?_, ?_⟩
  · decide +kernel
  · intro h
    exact absurd h.spaced (by decide +kernel)

end GuardHistory
end PypnmCmts
