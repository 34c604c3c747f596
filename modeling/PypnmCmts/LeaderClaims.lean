import Mathlib.Algebra.Field.Rat
import PypnmCmts.LabelledRun
import PypnmCmts.TickRules

/-! What a tick reports about the leadership, in every interleaving of its calls with those of
other contenders. -/
namespace PypnmCmts

open LabelledRun CallTree

namespace CoordinationCall

/-- The calls by which a tick finds out about the leadership. -/
def isLeaderStep : CoordinationCall → Bool
  | leaderTryAcquire => true
  | leaderRenew => true
  | leaderStatus => true
  | _ => false

end CoordinationCall

/-- One manager, the record files and the clock. `lastLeaderStep` is the time at which the last
leader step of its tick returned, and the leader file at that moment. -/
structure LeaderWorld where
  clock : ℚ
  disk : CoordinationDisk
  program : CoordinationProgram
  lastLeaderStep : Option (ℚ × LeaderFile)

/-- `call` is the next call of the tick, and the last two are operations of others. All of them
take place after the clock has advanced by `wait`. -/
inductive LeaderAction
  | beginTick (serviceGroups : List ServiceGroupId)
  | beginTickLeaderOnly
  | call (wait : ℚ≥0) (io : FileIo)
  | contend (election : FileLeaderElection) (op : TtlLease.Op) (wait : ℚ≥0) (io : FileIo)
  | lease (lease : FileServiceGroupLease) (op : TtlLease.Op) (wait : ℚ≥0) (io : FileIo)

namespace FileLeaderElection
variable (election : FileLeaderElection) (io : FileIo) (now : ℚ) (file : LeaderFile)

/-- The leader record names the leader id of the election object and is unexpired. -/
def LeadsOnDisk (now : ℚ) (file : LeaderFile) : Prop :=
  ∃ record, file = .record record ∧ record.electionName = election.electionName ∧
    record.leaderId = election.leaderId ∧ now < record.expiresAt

instance (now : ℚ) : ∀ file : LeaderFile, Decidable (election.LeadsOnDisk now file)
  | .missing => isFalse (by rintro ⟨_, h, _⟩; cases h)
  | .unreadable => isFalse (by rintro ⟨_, h, _⟩; cases h)
  | .record record => decidable_of_iff (record.electionName = election.electionName ∧
      record.leaderId = election.leaderId ∧ now < record.expiresAt)
      ⟨fun h => ⟨record, rfl, h⟩, fun ⟨_, he, h⟩ => RecordFile.record.inj he ▸ h⟩

theorem readRecord_valid {record : LeaderRecordModel}
    (h : election.readRecord io file = (record, true)) :
    file = .record record ∧ record.electionName = election.electionName := by
  cases file with
  | missing => simp [readRecord] at h
  | unreadable => simp [readRecord] at h
  | record r =>
    simp only [readRecord] at h
    split_ifs at h with hd he hv
    · simp at h
    · simp at h
    · simp at h
    · obtain rfl := (Prod.mk.inj h).1
      exact ⟨rfl, not_not.mp he⟩

theorem leadsOnDisk_of_read
    (hvalid : ((election.readRecord io file).2 && !isExpired
      (election.readRecord io file).1 now) = true)
    (hid : (election.readRecord io file).1.leaderId = election.leaderId) :
    election.LeadsOnDisk now file := by
  obtain ⟨hv, hx⟩ := Bool.and_eq_true_iff.mp hvalid
  obtain ⟨hfile, hname⟩ := election.readRecord_valid io file (Prod.ext rfl hv)
  refine ⟨_, hfile, hname, hid, ?_⟩
  simpa [isExpired, RecordFile.isExpired] using hx

theorem leadsOnDisk_newRecord : election.LeadsOnDisk now (.record (election.newRecord now)) := by
  have httl : (0 : ℚ) < election.ttlSeconds := by
    exact_mod_cast election.ttlSeconds_pos
  exact ⟨_, rfl, rfl, rfl, lt_add_of_pos_right now httl⟩

/-- A write of `try_acquire` that did not raise has left the new record. -/
theorem writeAcquired_of_written {valid : Bool} {record : LeaderRecordModel}
    (h : RecordFile.acquiredWritten io valid record file = true) :
    RecordFile.writeAcquired io valid record file = .record record := by
  cases hr : io.replaceOk with
  | true =>
    cases valid <;> cases file <;> cases hc : io.create <;>
      simp [RecordFile.writeAcquired, RecordFile.writeRecordAtomic, RecordFile.writeRecordReplace,
        hr, hc]
  | false =>
    cases valid <;> cases file <;> cases hc : io.create <;>
      simp_all [RecordFile.writeAcquired, RecordFile.writeRecordAtomic, RecordFile.acquiredWritten]

/-- Whoever is told by `try_acquire` that it leads does so on the disk. -/
theorem tryAcquire_leads {result : LeaderElectionAcquireResultModel}
    (h : (election.tryAcquire io now file).1 = some result) (hl : result.isLeader = true) :
    election.LeadsOnDisk now (election.tryAcquire io now file).2 := by
  simp only [tryAcquire] at h ⊢
  split_ifs at h ⊢ with hlock hvalid hid hw
  · cases h
    cases hl
  · exact election.leadsOnDisk_of_read io now file hvalid hid
  · cases h
    cases hl
  · rw [writeAcquired_of_written io file (by simpa using hw)]
    exact election.leadsOnDisk_newRecord now

theorem renew_leads {renewal : LeaderElectionRenewResultModel}
    (h : (election.renew io now file).1 = some renewal) :
    (renewal.renewed = true → renewal.isLeader = true ∧
      election.LeadsOnDisk now (election.renew io now file).2) ∧
    (renewal.renewed = false → (election.renew io now file).2 = file) := by
  simp only [renew] at h ⊢
  split_ifs at h ⊢ with hlock hnone hother hrep
  · cases h
    exact ⟨fun hr => absurd hr Bool.false_ne_true, fun _ => rfl⟩
  · cases h
    exact ⟨fun hr => absurd hr Bool.false_ne_true, fun _ => rfl⟩
  · cases h
    exact ⟨fun hr => absurd hr Bool.false_ne_true, fun _ => rfl⟩
  · cases h
    refine ⟨fun _ => ⟨rfl, ?_⟩, fun hr => absurd hr Bool.false_ne_true.symm⟩
    have hvalid : (election.readRecord io file).2 = true := by
      simp only [Bool.or_eq_true, Bool.not_eq_true', not_or, Bool.not_eq_false] at hnone
      exact hnone.1
    obtain ⟨-, hname⟩ := election.readRecord_valid io file (Prod.ext rfl hvalid)
    have httl : (0 : ℚ) < election.ttlSeconds := by
      exact_mod_cast election.ttlSeconds_pos
    exact ⟨_, rfl, hname, not_not.mp hother, lt_add_of_pos_right now httl⟩

theorem status_leads (h : (election.status io now file).isLeader = true) :
    election.LeadsOnDisk now file := by
  simp only [status] at h
  split_ifs at h with hnone
  refine election.leadsOnDisk_of_read io now file ?_ (of_decide_eq_true h)
  simpa using hnone

end FileLeaderElection

namespace CoordinationManager
variable (m : CoordinationManager) (sha256 : List UInt8 → List UInt8)

def leaderStep (s : LeaderWorld) : LeaderAction → LeaderWorld
  | .beginTick serviceGroups =>
    if s.program.isDone then
      { s with program := m.tick sha256 serviceGroups s.program.visible, lastLeaderStep := none }
    else s
  | .beginTickLeaderOnly =>
    if s.program.isDone then
      { s with program := m.tickLeaderOnly s.program.visible, lastLeaderStep := none }
    else s
  | .call wait io =>
    let now := s.clock+wait
    let (program, disk) := resume (m.handle io now) s.program s.disk
    { clock := now
      disk := disk
      program := program
      lastLeaderStep :=
        if s.program.nextCall.any CoordinationCall.isLeaderStep then some (now, disk.leader)
        else s.lastLeaderStep }
  | .contend election op wait io =>
    let now := s.clock+wait
    if election.stateFile = m.leaderElection.stateFile then
      { s with
        clock := now
        disk := { s.disk with leader := (election.perform op io now s.disk.leader).2 } }
    else { s with clock := now }
  | .lease lease op wait io =>
    let now := s.clock+wait
    if lease.stateFile = (m.leaseForSg lease.sgId).stateFile then
      let file := (lease.perform op io now (s.disk.leases lease.sgId)).2
      { s with
        clock := now
        disk := { s.disk with leases := Function.update s.disk.leases lease.sgId file } }
    else { s with clock := now }

/-- The disk had the manager as the leader when its last leader step returned. -/
def LedOnDisk (s : LeaderWorld) : Prop :=
  match s.lastLeaderStep with
  | some (now, file) => m.leaderElection.LeadsOnDisk now file
  | none => False

/-- A tick that has ended reports a leader only if the disk did when its last leader step
returned. -/
def ClaimSound (s : LeaderWorld) : Prop :=
  match s.program with
  | .done _ (.tick result) => result.isLeader = true → m.LedOnDisk s
  | _ => True

/-- When the tick renews, the record that made it a leader of old is still there. -/
def RenewsAsLeader (s : LeaderWorld) : LeaderAction → Prop
  | .call wait _ => s.program.nextCall = some .leaderRenew →
      m.leaderElection.LeadsOnDisk (s.clock+wait) s.disk.leader
  | _ => True

instance (s : LeaderWorld) : Decidable (m.LedOnDisk s) := by
  unfold LedOnDisk
  split <;> infer_instance

instance (s : LeaderWorld) : Decidable (m.ClaimSound s) := by
  unfold ClaimSound
  split <;> infer_instance

instance (s : LeaderWorld) (a : LeaderAction) : Decidable (m.RenewsAsLeader s a) := by
  cases a <;> unfold RenewsAsLeader <;> infer_instance

/-- No leader step is left, and the tick ends with the given flag unless it raises. -/
def Reports (isLeader : Bool) : CoordinationProgram → Prop
  | .done _ (.tick result) => result.isLeader = isLeader
  | .done _ _ => True
  | .call _ c next => c.isLeaderStep = false ∧ ∀ r, Reports isLeader (next r)

variable {m sha256}

theorem isLeaderStep_of_leaseOp {c : CoordinationCall} (h : leaseOp c ≠ none) :
    c.isLeaderStep = false := by
  cases c <;> simp_all [leaseOp, CoordinationCall.isLeaderStep]

theorem reports_done (isLeader : Bool) (leaderId : LeaderId) (held : HeldLeases)
    (p : TickProgress) : Reports isLeader (.done held (.tick (tickResult isLeader leaderId p))) :=
  rfl

theorem reports_leasePass (isLeader : Bool) (leaderId : LeaderId) (groups : List ServiceGroupId)
    (held : HeldLeases) :
    Reports isLeader (m.leasePass sha256 groups held fun p =>
      .done p.held (.tick (tickResult isLeader leaderId p))) := by
  have hcall : ∀ v c k, leaseOp c ≠ none → (∀ r, Reports isLeader (k r)) →
      Reports isLeader (.call v c k) := fun v c k hc hk => ⟨isLeaderStep_of_leaseOp hc, hk⟩
  have hkept : KeptByPasses groups fun _ => True :=
    ⟨fun _ _ _ => trivial, fun _ _ _ => trivial, fun _ _ _ _ => trivial⟩
  exact m.leasePass_ends sha256 hcall hkept (K := fun _ _ => True) (fun _ _ _ _ => trivial)
    (fun _ _ _ _ => trivial) (fun _ _ => trivial)
    (fun p _ => reports_done isLeader leaderId p.held p) held trivial

/-- The rest of the tick after its leader pass reports the flag that it is given. -/
def Continues (next : Bool → LeaderId → CoordinationProgram) : Prop :=
  ∀ isLeader leaderId, Reports isLeader (next isLeader leaderId)

theorem reports_raised (isLeader : Bool) (held : HeldLeases) :
    Reports isLeader (.done held .raised) := trivial

theorem ledOnDisk_of_last {s : LeaderWorld} {now : ℚ} {file : LeaderFile}
    (h : s.lastLeaderStep = some (now, file)) (hdisk : m.leaderElection.LeadsOnDisk now file) :
    m.LedOnDisk s := by
  rw [LedOnDisk, h]
  exact hdisk

/-- Before its leader step, before its renewal, or with nothing but lease calls left. -/
inductive TickPhase (m : CoordinationManager) (s : LeaderWorld) : Prop
  | before (held : HeldLeases) (next : Bool → LeaderId → CoordinationProgram)
      (hnext : Continues next) (h : s.program = m.leaderPass held next)
  | renewing (held : HeldLeases)
      (next : Option LeaderElectionRenewResultModel → CoordinationProgram)
      (hnext : ∀ r, (∀ renewal, r = some renewal → renewal.renewed = true →
        renewal.isLeader = true) → Reports true (next r))
      (hraised : Reports false (next none)) (h : s.program = .call held .leaderRenew next)
  | reporting (isLeader : Bool) (h : Reports isLeader s.program)
      (hled : isLeader = true → m.LedOnDisk s)

theorem claimSound_of_phase {s : LeaderWorld} (h : TickPhase m s) : m.ClaimSound s := by
  cases h with
  | before held next _ h =>
    rw [ClaimSound, h, leaderPass]
    cases m.leaderEnabled <;> trivial
  | renewing held next _ _ h =>
    rw [ClaimSound, h]
    trivial
  | reporting isLeader h hled =>
    rw [ClaimSound]
    split
    · next held result hend =>
      rw [hend] at h
      intro hleader
      exact hled (h ▸ hleader)
    · trivial

theorem continues_tick (groups : List ServiceGroupId) (held : HeldLeases) :
    Continues fun isLeader leaderId => m.leasePass sha256 groups held fun p =>
      .done p.held (.tick (tickResult isLeader leaderId p)) :=
  fun isLeader leaderId => reports_leasePass isLeader leaderId groups held

/-- A step that makes no call leaves the phase of the tick as it is. -/
theorem TickPhase.frame {s s' : LeaderWorld} (h : TickPhase m s) (hp : s'.program = s.program)
    (hl : s'.lastLeaderStep = s.lastLeaderStep) : TickPhase m s' := by
  cases h with
  | before held next hnext h => exact .before held next hnext (hp.trans h)
  | renewing held next hnext hraised h => exact .renewing held next hnext hraised (hp.trans h)
  | reporting isLeader h hled =>
    refine .reporting isLeader (hp ▸ h) ?_
    intro hleader
    rw [LedOnDisk, hl]
    exact hled hleader

/-- What a leader does once it has renewed. -/
def afterRenewal (result : LeaderElectionAcquireResultModel) (held : HeldLeases)
    (next : Bool → LeaderId → CoordinationProgram) :
    Option LeaderElectionRenewResultModel → CoordinationProgram
  | none => .done held .raised
  | some renewal =>
    if renewal.renewed then next renewal.isLeader renewal.leaderId
    else next result.isLeader result.leaderId

theorem phase_leaderPass {s : LeaderWorld} {wait : ℚ≥0} {io : FileIo} {held : HeldLeases}
    {next : Bool → LeaderId → CoordinationProgram} (hnext : Continues next)
    (h : s.program = m.leaderPass held next) :
    TickPhase m (m.leaderStep sha256 s (.call wait io)) := by
  cases hm : m.leaderEnabled with
  | true =>
    simp only [leaderPass, hm, if_true] at h
    cases hr : (m.leaderElection.tryAcquire io (s.clock+wait) s.disk.leader).1 with
    -- the acquisition raises, and the tick with it
    | none =>
      refine .reporting false ?_ (fun hl => absurd hl Bool.false_ne_true)
      simp only [leaderStep, h, resume, handle, hr]
      exact reports_raised false held
    | some result =>
      cases hold : result.isLeader && !result.acquired with
      | true =>
        have hprogram : (m.leaderStep sha256 s (.call wait io)).program =
            .call held .leaderRenew (afterRenewal result held next) := by
          simp only [leaderStep, h, resume, handle, hr, hold, if_true]
          rfl
        refine .renewing held _ ?_ (reports_raised false held) hprogram
        -- a renewal that is not confirmed falls back on the answer of the acquisition
        rintro (_ | renewal) hrenewal
        · exact reports_raised true held
        · have hl : result.isLeader = true := (Bool.and_eq_true_iff.mp hold).1
          rw [afterRenewal]
          split
          · next hrenewed =>
            rw [hrenewal renewal rfl hrenewed]
            exact hnext true _
          · rw [hl]
            exact hnext true _
      | false =>
        refine .reporting result.isLeader ?_ ?_
        · simp only [leaderStep, h, resume, handle, hr, hold, Bool.false_eq_true, if_false]
          exact hnext _ _
        · intro hl
          refine ledOnDisk_of_last ?_ (m.leaderElection.tryAcquire_leads io _ _ hr hl)
          simp [leaderStep, h, resume, handle, nextCall, CoordinationCall.isLeaderStep]
  | false =>
    simp only [leaderPass, hm, Bool.false_eq_true, if_false] at h
    refine .reporting (m.leaderElection.status io (s.clock+wait) s.disk.leader).isLeader ?_ ?_
    · simp only [leaderStep, h, resume, handle]
      exact hnext _ _
    · intro hl
      refine ledOnDisk_of_last ?_ (m.leaderElection.status_leads _ _ _ hl)
      simp [leaderStep, h, resume, handle, nextCall, CoordinationCall.isLeaderStep]

theorem phase_renewing {s : LeaderWorld} {wait : ℚ≥0} {io : FileIo} {held : HeldLeases}
    {next : Option LeaderElectionRenewResultModel → CoordinationProgram}
    (hnext : ∀ r, (∀ renewal, r = some renewal → renewal.renewed = true →
      renewal.isLeader = true) → Reports true (next r))
    (hraised : Reports false (next none)) (h : s.program = .call held .leaderRenew next)
    (hguard : m.RenewsAsLeader s (.call wait io)) :
    TickPhase m (m.leaderStep sha256 s (.call wait io)) := by
  have hdisk := hguard (by rw [h]; rfl)
  have hlast : (m.leaderStep sha256 s (.call wait io)).lastLeaderStep =
      some (s.clock+wait, (m.leaderElection.renew io (s.clock+wait) s.disk.leader).2) := by
    simp [leaderStep, h, resume, handle, nextCall, CoordinationCall.isLeaderStep]
  have hprogram : (m.leaderStep sha256 s (.call wait io)).program =
      next (m.leaderElection.renew io (s.clock+wait) s.disk.leader).1 := by
    simp only [leaderStep, h, resume, handle]
  cases hr : (m.leaderElection.renew io (s.clock+wait) s.disk.leader).1 with
  | none =>
    have hreports : Reports false (m.leaderStep sha256 s (.call wait io)).program := by
      rw [hprogram, hr]
      exact hraised
    exact .reporting false hreports fun hl => absurd hl Bool.false_ne_true
  | some renewal =>
    have hleads := m.leaderElection.renew_leads io _ _ hr
    refine .reporting true ?_ ?_
    · rw [hprogram, hr]
      exact hnext _ fun renewal' hsome hrenewed => by
        cases hsome
        exact (hleads.1 hrenewed).1
    · intro _
      refine ledOnDisk_of_last hlast ?_
      -- an unconfirmed renewal leaves the disk, so the guard speaks of the disk it leaves
      cases hrenewed : renewal.renewed with
      | true => exact (hleads.1 hrenewed).2
      | false =>
        rw [hleads.2 hrenewed]
        exact hdisk

theorem phase_reporting {s : LeaderWorld} {wait : ℚ≥0} {io : FileIo} {isLeader : Bool}
    (h : Reports isLeader s.program) (hled : isLeader = true → m.LedOnDisk s) :
    TickPhase m (m.leaderStep sha256 s (.call wait io)) := by
  cases hp : s.program with
  | done v o =>
    have hprogram : (m.leaderStep sha256 s (.call wait io)).program = s.program := by
      simp only [leaderStep, hp, resume]
    have hlast : (m.leaderStep sha256 s (.call wait io)).lastLeaderStep = s.lastLeaderStep := by
      simp [leaderStep, hp, nextCall]
    exact (TickPhase.reporting isLeader h hled).frame hprogram hlast
  | call v c next =>
    rw [hp] at h
    refine .reporting isLeader ?_ ?_
    · simp only [leaderStep, hp, resume]
      exact h.2 _
    · intro hl
      have hlast : (m.leaderStep sha256 s (.call wait io)).lastLeaderStep = s.lastLeaderStep := by
        simp [leaderStep, hp, nextCall, h.1]
      rw [LedOnDisk, hlast]
      exact hled hl

theorem phase_step (s : LeaderWorld) (a : LeaderAction) (hguard : m.RenewsAsLeader s a)
    (h : TickPhase m s) : TickPhase m (m.leaderStep sha256 s a) := by
  cases a with
  | beginTick groups =>
    simp only [leaderStep]
    split
    · exact .before _ _ (continues_tick groups _) rfl
    · exact h
  | beginTickLeaderOnly =>
    simp only [leaderStep]
    split
    · exact .before _ _ (fun isLeader leaderId => reports_done isLeader leaderId _ _) rfl
    · exact h
  | call wait io =>
    cases h with
    | before held next hnext h => exact phase_leaderPass hnext h
    | renewing held next hnext hraised h => exact phase_renewing hnext hraised h hguard
    | reporting isLeader h hled => exact phase_reporting h hled
  | contend election op wait io =>
    simp only [leaderStep]
    split <;> exact h.frame rfl rfl
  | lease lease op wait io =>
    simp only [leaderStep]
    split <;> exact h.frame rfl rfl

/-- In every run in which the leader record is still there whenever a tick renews it, no tick
reports a leader that the disk did not have when its last leader step returned. -/
theorem leader_claims_sound (m : CoordinationManager) (sha256 : List UInt8 → List UInt8)
    (clock : ℚ) (disk : CoordinationDisk) (actions : List LeaderAction)
    (h : Guarded (m.leaderStep sha256) m.RenewsAsLeader ⟨clock, disk, .done ∅ .raised, none⟩
      actions) :
    m.ClaimSound (exec (m.leaderStep sha256) ⟨clock, disk, .done ∅ .raised, none⟩ actions) := by
  refine claimSound_of_phase (invariant_of_guarded phase_step h ?_)
  exact .reporting false (reports_raised false ∅) (fun hl => absurd hl Bool.false_ne_true)

/-- A controller whose leadership lasts ten seconds. -/
def soloController : CoordinationManager where
  stateDir := "state"
  electionName := "net"
  ownerId := "a"
  leaseTtlSeconds := 10
  targetServiceGroups := 0
  shardMode := .sequential
  leaderEnabled := true
  leaderElection := ⟨"state", "net", "a", 10, none, net_nonempty, a_nonempty, one_le_ten⟩
  electionName_nonempty := strip_net_nonempty
  ownerId_nonempty := strip_a_nonempty
  leaseTtlSeconds_pos := one_le_ten

def rivalElection : FileLeaderElection :=
  ⟨"state", "net", "b", 10, none, net_nonempty, by decide, one_le_ten⟩

/-- It acquires, and renews five seconds later, against a busy lock. -/
theorem leader_claims_sound_busy :
    soloController.ClaimSound (exec (soloController.leaderStep id)
      ⟨0, ⟨.missing, fun _ => .missing⟩,
      .done ∅ .raised, none⟩ [.beginTick [], .call 0 .ok, .beginTickLeaderOnly, .call 5 .ok,
        .call 1 { FileIo.ok with lockFree := false }]) :=
  leader_claims_sound soloController id 0 ⟨.missing, fun _ => .missing⟩ _ (by decide +kernel)

/-- A rival takes the expired record over between the two leader steps of a tick, which still
reports itself as the leader. -/
theorem leader_claim_after_takeover :
    ¬soloController.ClaimSound (exec (soloController.leaderStep id)
      ⟨0, ⟨.missing, fun _ => .missing⟩, .done ∅ .raised, none⟩ [.beginTickLeaderOnly, .call 0 .ok,
        .beginTickLeaderOnly, .call 9 .ok, .contend rivalElection .acquire 2 .ok,
        .call 0 .ok]) := by
  decide +kernel

end CoordinationManager
end PypnmCmts
