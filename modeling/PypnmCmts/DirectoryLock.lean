import Mathlib.Algebra.Field.Rat
import Mathlib.Logic.Function.Basic
import PypnmCmts.LabelledRun
import PypnmCmts.LeaderElection
import PypnmCmts.ServiceGroupLease

/-! The lock directories of elections and leases, one file-system step at a time:
`_acquire_lock`, `_is_lock_stale` and `_release_lock`. -/
namespace PypnmCmts

open LabelledRun

namespace FileServiceGroupLease

/-- The comparison of `_is_lock_stale`, once the modification time is read. -/
def isLockStale (lease : FileServiceGroupLease) (now mtime : ℚ) : Bool :=
  now-mtime > lease.ttlSeconds*staleLockMultiplier

end FileServiceGroupLease

namespace FileLeaderElection

/-- The comparison of `_is_lock_stale`, once the modification time is read. -/
def isLockStale (election : FileLeaderElection) (now mtime : ℚ) : Bool :=
  now-mtime > election.ttlSeconds*staleLockMultiplier

end FileLeaderElection

/-- An object that takes a lock directory. -/
inductive LockContender
  | lease (lease : FileServiceGroupLease)
  | election (election : FileLeaderElection)

namespace LockContender

def lockPath : LockContender → String
  | lease l => l.lockPath
  | election e => e.lockPath

def ttlSeconds : LockContender → ℕ
  | lease l => l.ttlSeconds
  | election e => e.ttlSeconds

def isLockStale : LockContender → ℚ → ℚ → Bool
  | lease l => l.isLockStale
  | election e => e.isLockStale

theorem isLockStale_iff (c : LockContender) (now mtime : ℚ) :
    c.isLockStale now mtime = true ↔ 2*c.ttlSeconds < now-mtime := by
  cases c <;> simp only [isLockStale, FileServiceGroupLease.isLockStale,
    FileLeaderElection.isLockStale, ttlSeconds, FileServiceGroupLease.staleLockMultiplier,
    FileLeaderElection.staleLockMultiplier, gt_iff_lt, decide_eq_true_eq, mul_comm]

end LockContender

namespace DirectoryLock

/-- A lock directory. The file system keeps its modification time; which contender made it,
if one of them did, is a ghost. -/
structure LockDir (ι : Type*) where
  creator : Option ι
  mtime : ℚ

/-- Where a contender stands: before the first `mkdir`, before `stat`, before the comparison
of the age, before the `rmdir` of the lock judged stale, before the second `mkdir`, or
between a successful `_acquire_lock` and the `rmdir` of its `_release_lock`. -/
inductive LockPc
  | idle
  | stat
  | age (mtime : ℚ)
  | rmdir (mtime : ℚ)
  | mkdir
  | held
deriving DecidableEq

structure LockWorld (ι : Type*) where
  clock : ℚ
  locks : String → Option (LockDir ι)
  pc : ι → LockPc

/-- `fs who fault` is the next file-system step of `who`, which fails for a reason of its own
if `fault` is set. -/
inductive LockAction (ι : Type*)
  | advance (dt : ℚ≥0)
  | fs (who : ι) (fault : Bool)
  | crash (who : ι)

variable {ι : Type*} [DecidableEq ι] (contender : ι → LockContender)

namespace LockWorld
variable (s : LockWorld ι)

def goto (who : ι) (pc : LockPc) : LockWorld ι :=
  { s with pc := Function.update s.pc who pc }

/-- A successful `mkdir` by `who`, which then holds the lock. -/
def enter (who : ι) : LockWorld ι :=
  { s with
    locks := Function.update s.locks (contender who).lockPath (some ⟨some who, s.clock⟩)
    pc := Function.update s.pc who .held }

/-- A successful `rmdir` by `who`, which goes on at `pc`. -/
def remove (who : ι) (pc : LockPc) : LockWorld ι :=
  { s with
    locks := Function.update s.locks (contender who).lockPath none
    pc := Function.update s.pc who pc }

end LockWorld

def fsStep (s : LockWorld ι) (who : ι) (fault : Bool) : LockWorld ι :=
  let lock := s.locks (contender who).lockPath
  match s.pc who, lock, fault with
  | .idle, _, true => s.goto who .idle
  | .idle, none, false => s.enter contender who
  | .idle, some _, false => s.goto who .stat
  | .stat, _, true => s.goto who .idle
  -- the lock has gone between `mkdir` and `stat`: the attempt counts as failed
  | .stat, none, false => s.goto who .idle
  | .stat, some d, false => s.goto who (.age d.mtime)
  | .age mtime, _, _ =>
    if (contender who).isLockStale s.clock mtime then s.goto who (.rmdir mtime)
    else s.goto who .idle
  | .rmdir _, _, true => s.goto who .mkdir -- suppressed
  | .rmdir _, _, false => s.remove contender who .mkdir
  | .mkdir, _, true => s.goto who .idle -- an `OSError` raises out of the operation
  | .mkdir, none, false => s.enter contender who
  | .mkdir, some _, false => s.goto who .idle
  | .held, _, true => s.goto who .idle -- suppressed
  | .held, _, false => s.remove contender who .idle

def step (s : LockWorld ι) : LockAction ι → LockWorld ι
  | .advance dt => { s with clock := s.clock+dt }
  | .fs who fault => fsStep contender s who fault
  | .crash who => s.goto who .idle

/-- Nobody is inside; the state directory may hold lock directories that others left. -/
def Initial (s : LockWorld ι) : Prop :=
  (∀ c, s.pc c = .idle) ∧ ∀ path d, s.locks path = some d → d.creator = none

/-- At most one contender of a lock path is inside. -/
def MutualExclusion (s : LockWorld ι) : Prop :=
  ∀ c c', (contender c).lockPath = (contender c').lockPath →
    s.pc c = .held → s.pc c' = .held → c = c'

/-- The directory that the release of a contender inside would remove is the one it made. -/
def ReleasesOwn (s : LockWorld ι) : Prop :=
  ∀ c d, s.pc c = .held → s.locks (contender c).lockPath = some d → d.creator = some c

/-- The action is the `rmdir` of a lock judged stale, and the directory it removes was made
by a contender that is still inside. -/
def breaksLive (s : LockWorld ι) : LockAction ι → Bool
  | .fs who false =>
    match s.pc who, s.locks (contender who).lockPath with
    | .rmdir _, some d => d.creator.any (fun c => s.pc c = .held)
    | _, _ => false
  | _ => false

/-- Who is inside finds its own directory at its path. -/
def Owned (s : LockWorld ι) : Prop :=
  ∀ c, s.pc c = .held → ∃ d, s.locks (contender c).lockPath = some d ∧ d.creator = some c

/-- The modification time on which a lock was judged stale is that old. -/
def JudgedStale (s : LockWorld ι) : Prop :=
  ∀ c mtime, s.pc c = .rmdir mtime → 2*(contender c).ttlSeconds < s.clock-mtime

variable {contender}

/-- Each file-system step moves the contender on, makes its lock directory where there was
none, or removes what is at its path. -/
theorem fsStep_cases (s : LockWorld ι) (who : ι) (fault : Bool) :
    (∃ pc, pc ≠ .held ∧ fsStep contender s who fault = s.goto who pc ∧
      ∀ mtime, pc = .rmdir mtime → (contender who).isLockStale s.clock mtime = true) ∨
    (s.locks (contender who).lockPath = none ∧
      fsStep contender s who fault = s.enter contender who) ∨
    (∃ mtime, s.pc who = .rmdir mtime ∧ fault = false ∧
      fsStep contender s who fault = s.remove contender who .mkdir) ∨
    (s.pc who = .held ∧ fsStep contender s who fault = s.remove contender who .idle) := by
  have hgoto (pc : LockPc) (hne : pc ≠ .held) (hr : ∀ mtime, pc ≠ .rmdir mtime) :
      ∃ pc', pc' ≠ .held ∧ s.goto who pc = s.goto who pc' ∧
        ∀ mtime, pc' = .rmdir mtime → (contender who).isLockStale s.clock mtime = true :=
    ⟨pc, hne, rfl, fun mtime h => absurd h (hr mtime)⟩
  cases hpc : s.pc who with
  | idle =>
    cases fault <;> cases hl : s.locks (contender who).lockPath <;> simp only [fsStep, hpc, hl]
    · exact Or.inr (Or.inl ⟨trivial, trivial⟩)
    all_goals exact Or.inl (hgoto _ (by simp) (by simp))
  | stat =>
    cases fault <;> cases hl : s.locks (contender who).lockPath <;> simp only [fsStep, hpc, hl]
    all_goals exact Or.inl (hgoto _ (by simp) (by simp))
  | age mtime =>
    simp only [fsStep, hpc]
    split
    · next hstale =>
      refine Or.inl ⟨_, by simp, rfl, ?_⟩
      intro m hm
      rwa [← LockPc.rmdir.inj hm]
    · exact Or.inl (hgoto _ (by simp) (by simp))
  | rmdir mtime =>
    cases fault <;> simp only [fsStep, hpc]
    · exact Or.inr (Or.inr (Or.inl ⟨mtime, rfl, trivial, trivial⟩))
    · exact Or.inl (hgoto _ (by simp) (by simp))
  | mkdir =>
    cases fault <;> cases hl : s.locks (contender who).lockPath <;> simp only [fsStep, hpc, hl]
    · exact Or.inr (Or.inl ⟨trivial, trivial⟩)
    all_goals exact Or.inl (hgoto _ (by simp) (by simp))
  | held =>
    cases fault <;> simp only [fsStep, hpc]
    · exact Or.inr (Or.inr (Or.inr ⟨trivial, trivial⟩))
    · exact Or.inl (hgoto _ (by simp) (by simp))

theorem owned_goto (s : LockWorld ι) (who : ι) (pc : LockPc) (hpc : pc ≠ .held)
    (h : Owned contender s) : Owned contender (s.goto who pc) := by
  intro c hc
  by_cases hw : c = who
  · subst hw
    exact absurd (by simpa [LockWorld.goto] using hc) hpc
  · exact h c (by simpa [LockWorld.goto, hw] using hc)

theorem owned_enter (s : LockWorld ι) (who : ι)
    (hfree : s.locks (contender who).lockPath = none) (h : Owned contender s) :
    Owned contender (s.enter contender who) := by
  intro c hc
  by_cases hw : c = who
  · exact ⟨⟨some who, s.clock⟩, by simp [LockWorld.enter, hw], by rw [hw]⟩
  · obtain ⟨d, hd, hcr⟩ := h c (by simpa [LockWorld.enter, hw] using hc)
    have hpath : (contender c).lockPath ≠ (contender who).lockPath := by
      intro he
      simp [he, hfree] at hd
    exact ⟨d, by simpa [LockWorld.enter, hpath] using hd, hcr⟩

/-- Removing the directory at the path of `who` is harmless while nobody else is inside. -/
theorem owned_remove (s : LockWorld ι) (who : ι) (pc : LockPc) (hpc : pc ≠ .held)
    (hother : ∀ c, c ≠ who → s.pc c = .held →
      (contender c).lockPath ≠ (contender who).lockPath)
    (h : Owned contender s) : Owned contender (s.remove contender who pc) := by
  intro c hc
  by_cases hw : c = who
  · subst hw
    exact absurd (by simpa [LockWorld.remove] using hc) hpc
  · have hc' : s.pc c = .held := by simpa [LockWorld.remove, hw] using hc
    obtain ⟨d, hd, hcr⟩ := h c hc'
    exact ⟨d, by simpa [LockWorld.remove, hother c hw hc'] using hd, hcr⟩

omit [DecidableEq ι] in
theorem mutualExclusion_of_owned (s : LockWorld ι) (h : Owned contender s) :
    MutualExclusion contender s := by
  intro c c' hpath hc hc'
  obtain ⟨d, hd, hcr⟩ := h c hc
  obtain ⟨d', hd', hcr'⟩ := h c' hc'
  obtain rfl : d = d' := Option.some.inj (hd.symm.trans (hpath ▸ hd'))
  exact Option.some.inj (hcr.symm.trans hcr')

omit [DecidableEq ι] in
theorem releasesOwn_of_owned (s : LockWorld ι) (h : Owned contender s) :
    ReleasesOwn contender s := by
  intro c d hc hd
  obtain ⟨d', hd', hcr⟩ := h c hc
  obtain rfl := Option.some.inj (hd.symm.trans hd')
  exact hcr

theorem owned_step (s : LockWorld ι) (a : LockAction ι) (ha : breaksLive contender s a = false)
    (h : Owned contender s) : Owned contender (step contender s a) := by
  cases a with
  | advance dt => exact h
  | crash who => exact owned_goto s who .idle (by simp) h
  | fs who fault =>
    change Owned contender (fsStep contender s who fault)
    rcases fsStep_cases s who fault with ⟨pc, hpc, he, _⟩ | ⟨hfree, he⟩ | ⟨mtime, hr, hf, he⟩
      | ⟨hh, he⟩ <;>
      rw [he]
    · exact owned_goto s who pc hpc h
    · exact owned_enter s who hfree h
    · refine owned_remove s who .mkdir (by simp) ?_ h
      intro c _ hc hpath
      obtain ⟨d, hd, hcr⟩ := h c hc
      rw [hpath] at hd
      simp [breaksLive, hf, hr, hd, hcr, hc] at ha
    · refine owned_remove s who .idle (by simp) ?_ h
      intro c hne hc hpath
      exact hne (mutualExclusion_of_owned s h c who hpath hc hh)

theorem judgedStale_step (s : LockWorld ι) (a : LockAction ι) (h : JudgedStale contender s) :
    JudgedStale contender (step contender s a) := by
  have hupdate (who : ι) (pc : LockPc) (t : LockWorld ι) (hclock : t.clock = s.clock)
      (hpcs : t.pc = Function.update s.pc who pc)
      (hnew : ∀ mtime, pc = .rmdir mtime → 2*(contender who).ttlSeconds < s.clock-mtime) :
      JudgedStale contender t := by
    intro c mtime hc
    rw [hclock]
    by_cases hw : c = who
    · subst hw
      exact hnew mtime (by simpa [hpcs] using hc)
    · exact h c mtime (by simpa [hpcs, hw] using hc)
  cases a with
  | advance dt =>
    intro c mtime hc
    have hle : (0 : ℚ) ≤ dt := dt.2
    exact (h c mtime hc).trans_le (sub_le_sub_right (le_add_of_nonneg_right hle) mtime)
  | crash who => exact hupdate who .idle _ rfl rfl (by simp)
  | fs who fault =>
    change JudgedStale contender (fsStep contender s who fault)
    rcases fsStep_cases s who fault with ⟨pc, _, he, hst⟩ | ⟨_, he⟩ | ⟨_, _, _, he⟩ | ⟨_, he⟩ <;>
      rw [he]
    · exact hupdate who pc _ rfl rfl fun mtime hm =>
        (LockContender.isLockStale_iff _ _ _).mp (hst mtime hm)
    · exact hupdate who .held _ rfl rfl (by simp)
    · exact hupdate who .mkdir _ rfl rfl (by simp)
    · exact hupdate who .idle _ rfl rfl (by simp)

/-- While no break removes the lock of a contender that is still inside, the lock excludes
and releases remove own directories only. A break removes a directory only if that is older
than twice the time to live of the breaker, or newer than the one it judged. -/
theorem lock_exclusion (s : LockWorld ι) (h0 : Initial s) (as : List (LockAction ι)) :
    (Guarded (step contender) (fun s a => breaksLive contender s a = false) s as →
      MutualExclusion contender (exec (step contender) s as) ∧
      ReleasesOwn contender (exec (step contender) s as)) ∧
    (∀ c mtime d, (exec (step contender) s as).pc c = .rmdir mtime →
      (exec (step contender) s as).locks (contender c).lockPath = some d →
      2*(contender c).ttlSeconds < (exec (step contender) s as).clock-d.mtime ∨
      mtime < d.mtime) := by
  have hown : Owned contender s := by
    intro c hc
    simp [h0.1 c] at hc
  have hst : JudgedStale contender s := by
    intro c mtime hc
    simp [h0.1 c] at hc
  refine ⟨?_, ?_⟩
  · intro hg
    have hend := invariant_of_guarded owned_step hg hown
    exact ⟨mutualExclusion_of_owned _ hend, releasesOwn_of_owned _ hend⟩
  · intro c mtime d hc _
    have hold := invariant_of_step judgedStale_step as hst c mtime hc
    by_cases hm : mtime < d.mtime
    · exact Or.inr hm
    · exact Or.inl (hold.trans_le (sub_le_sub_left (not_lt.mp hm) _))

/-- Two owners of one service group, with one second to live each. -/
def pairContender (who : Bool) : LockContender :=
  .lease ⟨"state", "net", 4, if who then "a" else "b", 1, by decide, by cases who <;> decide,
    by decide⟩

def emptyWorld : LockWorld Bool := ⟨0, fun _ => none, fun _ => .idle⟩

/-- The first contender crashes inside. The second one finds the lock, breaks it when it is stale
and enters, and the first one, come back, finds the lock of the second one. -/
def crashedRun : List (LockAction Bool) :=
  [.fs true false, .crash true, .fs false false, .fs false false, .fs false false, .advance 3,
    .fs false false, .fs false false, .fs false false, .fs false false, .fs false false,
    .fs true false, .fs true false]

theorem lock_exclusion_pair :
    (exec (step pairContender) emptyWorld crashedRun).pc false = .held ∧
      MutualExclusion pairContender (exec (step pairContender) emptyWorld crashedRun) ∧
      ReleasesOwn pairContender (exec (step pairContender) emptyWorld crashedRun) :=
  ⟨by decide +kernel,
    (lock_exclusion emptyWorld ⟨fun _ => rfl, by simp [emptyWorld]⟩ crashedRun).1
      (by decide +kernel)⟩

/-- The first contender stays inside for three seconds, longer than twice the time to live.
The second one judges the lock stale, breaks it and enters as well. -/
theorem slow_holder_loses_lock :
    ¬ ∀ as : List (LockAction Bool),
      MutualExclusion pairContender (exec (step pairContender) emptyWorld as) ∧
        ReleasesOwn pairContender (exec (step pairContender) emptyWorld as) := by
  intro h
  have hex := (h [.fs true false, .advance 3, .fs false false, .fs false false, .fs false false,
    .fs false false, .fs false false]).1
  exact absurd (hex true false (by decide +kernel) (by decide +kernel) (by decide +kernel))
    (by decide)

end DirectoryLock
end PypnmCmts
