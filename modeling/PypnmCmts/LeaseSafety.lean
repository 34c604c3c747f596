import Mathlib.Algebra.Field.Rat
import Mathlib.Logic.Function.Basic
import PypnmCmts.ServiceGroupLease

/-! Runs of the owners of one service group, each call atomic and each write successful. Reads and
removals may fail. The owners are users of the abstract lease as long as no acquisition fails to
read what another owner holds. -/
namespace PypnmCmts

open LabelledRun

/-- The owners that contend for one service group under one state directory and election. -/
structure LeaseGroup (ι : Type*) where
  stateDir : String
  electionName : CoordinationElectionName
  sgId : ServiceGroupId
  lease : ι → FileServiceGroupLease
  lease_stateDir : ∀ i, (lease i).stateDir = stateDir
  lease_electionName : ∀ i, (lease i).electionName = electionName
  lease_sgId : ∀ i, (lease i).sgId = sgId
  ownerId_injective : Function.Injective fun i => (lease i).ownerId

structure LeaseWorld where
  file : LeaseFile
  clock : ℚ
deriving DecidableEq

/-- `who` calls `op` after the shared clock has advanced by `wait`. Its lock is free and what it
writes is written; `read_text` and `unlink` may fail. -/
structure LeaseCall (ι : Type*) where
  wait : ℚ≥0
  who : ι
  op : TtlLease.Op
  readOk : Bool
  unlinkOk : Bool

def LeaseCall.io {ι : Type*} (c : LeaseCall ι) : FileIo :=
  ⟨true, c.readOk, .written, true, c.unlinkOk⟩

namespace LeaseGroup
open TtlLease
variable {ι : Type*} (group : LeaseGroup ι)

/-- All owners of the group work on one file. -/
theorem stateFile_eq (i j : ι) : (group.lease i).stateFile = (group.lease j).stateFile := by
  simp only [FileServiceGroupLease.stateFile, group.lease_stateDir, group.lease_electionName,
    group.lease_sgId]

def result (s : LeaseWorld) (c : LeaseCall ι) : LeaseResult :=
  ((group.lease c.who).perform c.op c.io (s.clock+c.wait) s.file).1

def step (s : LeaseWorld) (c : LeaseCall ι) : LeaseWorld :=
  ⟨((group.lease c.who).perform c.op c.io (s.clock+c.wait) s.file).2, s.clock+c.wait⟩

/-- The run of `cs` from a state directory without a record for the group. -/
def run (clock : ℚ) (cs : List (LeaseCall ι)) : LeaseWorld :=
  exec group.step ⟨.missing, clock⟩ cs

/-- The call is not one by which `i` gives its lease up. -/
def KeptBy (i : ι) (s : LeaseWorld) (c : LeaseCall ι) : Prop :=
  ¬ (c.who = i ∧ (group.result s c).reply = .released)

instance [DecidableEq ι] (i : ι) (s : LeaseWorld) (c : LeaseCall ι) :
    Decidable (group.KeptBy i s c) := inferInstanceAs (Decidable (¬ _))

/-- The call is no `try_acquire` that fails to read an unexpired record of another owner. -/
def ReadsOthers (s : LeaseWorld) (c : LeaseCall ι) : Prop :=
  c.op = .acquire → c.readOk = false →
    (inForce (s.file.grant group.electionName group.sgId) (s.clock+c.wait)).all
      fun g => g.owner = (group.lease c.who).ownerId

instance (s : LeaseWorld) (c : LeaseCall ι) : Decidable (group.ReadsOthers s c) :=
  inferInstanceAs (Decidable (_ → _ → _))

/-- No owner is told that it holds the lease before what another one was told of it is over, unless
that one has given it up. -/
def Exclusive (clock : ℚ) (cs : List (LeaseCall ι)) : Prop :=
  ∀ as c bs c' ds e e', cs = as ++ c :: bs ++ c' :: ds →
    (group.result (group.run clock as) c).reply = .told e →
    Guarded group.step (group.KeptBy c.who) (group.run clock (as ++ [c])) bs →
    c'.who ≠ c.who →
    (group.result (group.run clock (as ++ c :: bs)) c').reply = .told e' →
    e ≤ (group.run clock (as ++ c :: bs)).clock+c'.wait

/-- The time to live that goes with an owner id of the group. -/
noncomputable def ttl : OwnerId → ℚ :=
  Function.extend (fun i => (group.lease i).ownerId) (fun i => ((group.lease i).ttlSeconds : ℚ)) 0

theorem ttl_ownerId (i : ι) : group.ttl (group.lease i).ownerId = (group.lease i).ttlSeconds :=
  group.ownerId_injective.extend_apply _ _ i

/-- The owners as users of the lease that their file holds. -/
def users : Users LeaseWorld (LeaseCall ι) OwnerId ℚ where
  step := group.step
  reply s c := (group.result s c).reply
  who c := (group.lease c.who).ownerId
  view s := ⟨s.file.grant group.electionName group.sgId, s.clock⟩

variable {group}

theorem readsOthers_iff {s : LeaseWorld} {c : LeaseCall ι} :
    group.ReadsOthers s c ↔ (c.op = .acquire → c.io.readOk = false →
      ∀ g, inForce (s.file.grant group.electionName group.sgId) (s.clock+c.wait) = some g →
        g.owner = (group.lease c.who).ownerId) := by
  simp only [ReadsOthers, LeaseCall.io, Option.all_eq_true, decide_eq_true_eq]

theorem lawful_of_readsOthers (s : LeaseWorld) (c : LeaseCall ι) (h : group.ReadsOthers s c) :
    group.users.Lawful group.ttl s c := by
  have hw : c.io.WritesOk := ⟨rfl, rfl⟩
  have hreads := readsOthers_iff.mp h
  rw [← group.lease_electionName c.who, ← group.lease_sgId c.who] at hreads
  have hout := (group.lease c.who).perform_outcome hw c.op (s.clock+c.wait) s.file hreads
  rw [group.lease_electionName, group.lease_sgId, ← group.ttl_ownerId] at hout
  exact ⟨le_add_of_nonneg_right c.wait.2, hout⟩

/-- An acquisition that cannot read the record of another owner writes its own over it. -/
theorem usurps_of_not_readsOthers (s : LeaseWorld) (c : LeaseCall ι) (h : ¬group.ReadsOthers s c) :
    group.users.Usurps s c := by
  rw [readsOthers_iff] at h
  push Not at h
  obtain ⟨hop, hd, g, hforce, hother⟩ := h
  have hw : c.io.WritesOk := ⟨rfl, rfl⟩
  obtain ⟨htold, -⟩ := (group.lease c.who).perform_acquire_writes hw rfl (s.clock+c.wait) s.file
    (by simp [(group.lease c.who).readRecord_of_readFails hd])
  rw [← hop] at htold
  exact ⟨g, _, hforce, hother, htold⟩

theorem guarded_keptBy_iff (i : ι) (s : LeaseWorld) (cs : List (LeaseCall ι)) :
    Guarded group.step (group.KeptBy i) s cs ↔
      Guarded group.users.step (group.users.KeptBy (group.lease i).ownerId) s cs := by
  have hsame (s : LeaseWorld) (c : LeaseCall ι) :
      group.KeptBy i s c ↔ group.users.KeptBy (group.lease i).ownerId s c := by
    rw [KeptBy, Users.KeptBy]
    exact not_congr (and_congr_left' group.ownerId_injective.eq_iff.symm)
  exact ⟨fun h => h.mono fun s c => (hsame s c).mp, fun h => h.mono fun s c => (hsame s c).mpr⟩

/-- Owners with ids of their own exclude each other as owners of the lease. -/
theorem exclusive_iff_excludes (clock : ℚ) (cs : List (LeaseCall ι)) :
    group.Exclusive clock cs ↔ group.users.Excludes ⟨.missing, clock⟩ cs := by
  refine forall_congr' fun as => forall_congr' fun c => forall_congr' fun bs =>
    forall_congr' fun c' =>
    forall_congr' fun ds => forall_congr' fun e => forall_congr' fun e' => ?_
  have hclock : (group.users.view (exec group.users.step ⟨.missing, clock⟩
      (as ++ c :: bs ++ [c']))).clock = (group.run clock (as ++ c :: bs)).clock+c'.wait := by
    rw [exec_concat]
    rfl
  rw [hclock, guarded_keptBy_iff]
  exact imp_congr_right fun _ => imp_congr_right fun _ => imp_congr_right fun _ =>
    imp_congr_left (group.ownerId_injective.ne_iff).symm

/-- The leases of one service group exclude each other in exactly those runs in which no owner
acquires without having read what another one holds. No renewal extends a record that is expired or
names another owner, and no release touches such a record of another owner, whatever fails. -/
theorem lease_safety (group : LeaseGroup ι) :
    (∀ (clock : ℚ) (cs : List (LeaseCall ι)), group.Exclusive clock cs ↔
      Guarded group.step group.ReadsOthers ⟨.missing, clock⟩ cs) ∧
    (∀ (i : ι) (io : FileIo) (now : ℚ) (r : ServiceGroupLeaseRecordModel),
      r.expiresAt ≤ now ∨ r.ownerId ≠ (group.lease i).ownerId →
      ((group.lease i).renew io now (.record r)).1.renewed = false ∧
        ((group.lease i).renew io now (.record r)).2 = .record r) ∧
    (∀ (i : ι) (io : FileIo) (r : ServiceGroupLeaseRecordModel),
      r.ownerId ≠ (group.lease i).ownerId →
      ((group.lease i).release io (.record r)).1.released = false ∧
        ((group.lease i).release io (.record r)).2 = .record r) := by
  refine ⟨?_, ?_, ?_⟩
  · intro clock cs
    rw [exclusive_iff_excludes]
    exact Users.excludes_iff (fun s c => lawful_of_readsOthers s c)
      (fun s c => usurps_of_not_readsOthers s c) rfl cs
  · intro i io now r h
    exact (group.lease i).renew_keeps io now r h
  · intro i io r h
    exact (group.lease i).release_keeps io r h

theorem pairOwner_nonempty (who : Bool) : (if who then "a" else "b") ≠ "" := by
  cases who
  · decide
  · decide

/-- Two owners whose leases live for five and for seven seconds. -/
def pairGroup : LeaseGroup Bool where
  stateDir := "state"
  electionName := "election"
  sgId := 3
  lease who :=
    { stateDir := "state"
      electionName := "election"
      sgId := 3
      ownerId := if who then "a" else "b"
      ttlSeconds := if who then 5 else 7
      electionName_nonempty := by decide
      ownerId_nonempty := pairOwner_nonempty who
      ttlSeconds_pos := by cases who <;> decide }
  lease_stateDir _ := rfl
  lease_electionName _ := rfl
  lease_sgId _ := rfl
  ownerId_injective := by
    rintro (_ | _) (_ | _) h
    · rfl
    · exact absurd h (by decide)
    · exact absurd h (by decide)
    · rfl

/-- Takeover exactly at the expiry of the renewed lease, and not before. The owner has failed to
read its own record in between. -/
theorem lease_safety_pair :
    (pairGroup.result (pairGroup.run 0 [⟨0, true, .acquire, true, true⟩,
      ⟨2, true, .renew, true, true⟩]) ⟨9/2, false, .acquire, true, true⟩).reply = .refused ∧
    pairGroup.Exclusive 0 [⟨0, true, .acquire, true, true⟩, ⟨2, true, .renew, true, true⟩,
      ⟨1, true, .acquire, false, true⟩, ⟨4, false, .acquire, true, true⟩,
      ⟨1, false, .acquire, true, true⟩] :=
  ⟨by decide +kernel, (pairGroup.lease_safety.1 0 _).mpr (by decide +kernel)⟩

/-- Owner "a" is told that it holds the lease until 5. The other one acquires at 1, cannot read the
record, and is told that it holds the lease. -/
theorem unread_lease_usurped :
    ¬pairGroup.Exclusive 0 [⟨0, true, .acquire, true, true⟩,
      ⟨1, false, .acquire, false, true⟩] := by
  intro h
  have hover := h [] ⟨0, true, .acquire, true, true⟩ [] ⟨1, false, .acquire, false, true⟩ [] 5 8 rfl
    (by decide +kernel) trivial (by decide) (by decide +kernel)
  exact absurd hover (by decide +kernel)

end LeaseGroup
end PypnmCmts
