import Mathlib.Data.Finset.Card
import Mathlib.Data.List.Sort
import Mathlib.Data.Prod.Lex
import PypnmCmts.CallTree
import PypnmCmts.LeaderElection
import PypnmCmts.ServiceGroupLease

/-! `coordination/manager.py`. A tick is a program over the calls of the leader election and
of the leases; the held set is what it shows between two calls. -/
namespace PypnmCmts

inductive ShardMode
  | sequential
  | score
deriving DecidableEq

/-- A manager as `__init__` leaves it. Its lease settings are such that `_lease_for_sg` does
not raise, which the orchestrator settings ensure. -/
structure CoordinationManager where
  stateDir : String
  electionName : CoordinationElectionName
  ownerId : OwnerId
  leaseTtlSeconds : ℕ
  targetServiceGroups : ℕ
  shardMode : ShardMode
  leaderEnabled : Bool
  leaderElection : FileLeaderElection
  electionName_nonempty : PyText.strip electionName ≠ ""
  ownerId_nonempty : PyText.strip ownerId ≠ ""
  leaseTtlSeconds_pos : 1 ≤ leaseTtlSeconds

structure CoordinationTickResultModel where
  isLeader : Bool
  leaderId : LeaderId
  acquiredSgIds : List ServiceGroupId
  renewedSgIds : List ServiceGroupId
  releasedSgIds : List ServiceGroupId
  failedSgIds : List ServiceGroupId
  message : String
deriving DecidableEq

structure CoordinationReleaseAllResultModel where
  releasedLeader : Bool
  releasedSgIds : List ServiceGroupId
  failedSgIds : List ServiceGroupId
  message : String
deriving DecidableEq

/-- How a method of the manager ends. -/
inductive CoordinationOutcome
  | tick (result : CoordinationTickResultModel)
  | releaseAll (result : CoordinationReleaseAllResultModel)
  | raised
deriving DecidableEq

inductive CoordinationCall
  | leaderTryAcquire
  | leaderRenew
  | leaderRelease
  | leaderStatus
  | leaseTryAcquire (sgId : ServiceGroupId)
  | leaseRenew (sgId : ServiceGroupId)
  | leaseRelease (sgId : ServiceGroupId)
deriving DecidableEq

namespace CoordinationCall

/-- What a call answers, `none` where a leader call raises. -/
def Reply : CoordinationCall → Type
  | leaderTryAcquire => Option LeaderElectionAcquireResultModel
  | leaderRenew => Option LeaderElectionRenewResultModel
  | leaderRelease => LeaderElectionReleaseResultModel
  | leaderStatus => LeaderElectionStatusModel
  | leaseTryAcquire _ => ServiceGroupLeaseAcquireResultModel
  | leaseRenew _ => ServiceGroupLeaseRenewResultModel
  | leaseRelease _ => ServiceGroupLeaseReleaseResultModel

end CoordinationCall

abbrev HeldLeases := Finset ServiceGroupId

abbrev CoordinationProgram :=
  CallTree CoordinationCall CoordinationCall.Reply HeldLeases CoordinationOutcome

/-- The record files of one election in one state directory. -/
structure CoordinationDisk where
  leader : LeaderFile
  leases : ServiceGroupId → LeaseFile

/-- The held set and the result lists while a tick runs. -/
structure TickProgress where
  held : HeldLeases
  acquired : List ServiceGroupId
  renewed : List ServiceGroupId
  released : List ServiceGroupId
  failed : List ServiceGroupId

namespace TickProgress
variable (p : TickProgress) (sgId : ServiceGroupId)

def addAcquired : TickProgress :=
  { p with held := insert sgId p.held, acquired := p.acquired ++ [sgId] }

def addRenewed : TickProgress := { p with renewed := p.renewed ++ [sgId] }

def addReleased : TickProgress :=
  { p with held := p.held.erase sgId, released := p.released ++ [sgId] }

def addFailed : TickProgress := { p with failed := p.failed ++ [sgId] }

/-- A failed renewal drops the group from the held set. -/
def addLost : TickProgress :=
  { p with held := p.held.erase sgId, failed := p.failed ++ [sgId] }

end TickProgress

namespace CoordinationManager

def scoreDigestBytes : ℕ := 8
def messageNotLeader : String := "Leader not held; lease operations complete."
def messageLeaderActive : String := "Leader active; lease operations complete."
def messageReleased : String := "Leader and leases released."

/-- `sorted(service_groups, key=int)`. -/
def sortedServiceGroups (serviceGroups : List ServiceGroupId) : List ServiceGroupId :=
  serviceGroups.insertionSort (· ≤ ·)

/-- `sorted(self._held_leases, key=int)`, whatever order the set is iterated in. -/
def sortedHeldLeases (held : HeldLeases) : List ServiceGroupId :=
  Quotient.liftOn held.val sortedServiceGroups fun a b hab =>
    List.Perm.eq_of_pairwise (fun _ _ _ _ => le_antisymm) (List.pairwise_insertionSort _ a)
      (List.pairwise_insertionSort _ b)
      (((List.perm_insertionSort _ a).trans hab).trans (List.perm_insertionSort _ b).symm)

/-- `int.from_bytes(.., byteorder="big", signed=False)`. -/
def fromBytesBig (bytes : List UInt8) : ℕ := bytes.foldl (fun n b => 256*n+b.toNat) 0

variable (m : CoordinationManager) (sha256 : List UInt8 → List UInt8)

def leaseForSg (sgId : ServiceGroupId) : FileServiceGroupLease where
  stateDir := m.stateDir
  electionName := PyText.strip m.electionName
  sgId := sgId
  ownerId := PyText.strip m.ownerId
  ttlSeconds := m.leaseTtlSeconds
  electionName_nonempty := m.electionName_nonempty
  ownerId_nonempty := m.ownerId_nonempty
  ttlSeconds_pos := m.leaseTtlSeconds_pos

/-- `_lease_for_sg` runs the constructor of the lease, which accepts the settings. -/
theorem init_leaseForSg (sgId : ServiceGroupId) :
    FileServiceGroupLease.init m.stateDir m.electionName sgId m.ownerId m.leaseTtlSeconds =
      .ok (m.leaseForSg sgId) := by
  have hsg : ¬ (sgId : ℤ) < FileServiceGroupLease.minSgId := by
    simp [FileServiceGroupLease.minSgId]
  have httl : ¬ (m.leaseTtlSeconds : ℤ) < FileServiceGroupLease.minTtlSeconds := by
    have := m.leaseTtlSeconds_pos
    simp only [FileServiceGroupLease.minTtlSeconds]
    omega
  simp [FileServiceGroupLease.init, m.electionName_nonempty, m.ownerId_nonempty, hsg, httl,
    leaseForSg]

def scoreForSg (sgId : ServiceGroupId) : ℕ :=
  let payload := (m.ownerId ++ ":" ++ toString sgId).toUTF8.toList
  fromBytesBig ((sha256 payload).take scoreDigestBytes)

/-- Tuples compare lexicographically. -/
def scoreOrderedServiceGroups (serviceGroups : List ServiceGroupId) : List ServiceGroupId :=
  let scored := serviceGroups.map fun sgId =>
    toLex (-(m.scoreForSg sha256 sgId : ℤ), toLex (sgId, sgId))
  (scored.insertionSort (· ≤ ·)).map fun item => (ofLex (ofLex item).2).2

def candidateServiceGroups (serviceGroups : List ServiceGroupId) : List ServiceGroupId :=
  match m.shardMode with
  | .score => m.scoreOrderedServiceGroups sha256 serviceGroups
  | .sequential => sortedServiceGroups serviceGroups

/-- The leader part of a tick, which goes on with the leader flag and id of its last result. -/
def leaderPass (held : HeldLeases) (next : Bool → LeaderId → CoordinationProgram) :
    CoordinationProgram :=
  if m.leaderEnabled then
    .call held .leaderTryAcquire fun
      | none => .done held .raised
      | some result =>
        -- a leader of old renews; if that fails, the first answer stands
        if result.isLeader && !result.acquired then
          .call held .leaderRenew fun
            | none => .done held .raised
            | some renewal =>
              if renewal.renewed then next renewal.isLeader renewal.leaderId
              else next result.isLeader result.leaderId
        else next result.isLeader result.leaderId
  else .call held .leaderStatus fun status => next status.isLeader status.leaderId

/-- The loop that renews the held leases. -/
def renewPass : List ServiceGroupId → TickProgress → (TickProgress → CoordinationProgram) →
    CoordinationProgram
  | [], p, next => next p
  | sgId :: rest, p, next =>
    .call p.held (.leaseRenew sgId) fun result =>
      -- a lease that cannot be renewed is given up at once
      if result.renewed then renewPass rest (p.addRenewed sgId) next
      else renewPass rest (p.addLost sgId) next

/-- The loop that releases leases beyond the target. -/
def shedPass : List ServiceGroupId → TickProgress → (TickProgress → CoordinationProgram) →
    CoordinationProgram
  | [], p, next => next p
  | sgId :: rest, p, next =>
    -- the highest numbers are released first
    if p.held.card ≤ m.targetServiceGroups then next p
    else
      .call p.held (.leaseRelease sgId) fun result =>
        if result.released then shedPass rest (p.addReleased sgId) next
        else shedPass rest (p.addFailed sgId) next

/-- The loop over the candidates. It goes on with what it attempted. -/
def acquirePass : List ServiceGroupId → TickProgress → List ServiceGroupId →
    (TickProgress → List ServiceGroupId → CoordinationProgram) → CoordinationProgram
  | [], p, attempted, next => next p attempted
  | sgId :: rest, p, attempted, next =>
    if m.targetServiceGroups ≤ p.held.card then next p attempted
    else if sgId ∈ p.held then acquirePass rest p attempted next
    else
      .call p.held (.leaseTryAcquire sgId) fun result =>
        if result.acquired then acquirePass rest (p.addAcquired sgId) (sgId :: attempted) next
        else acquirePass rest (p.addFailed sgId) (sgId :: attempted) next

/-- The second sweep, over the groups that the first one has not attempted. -/
def sweepPass (attempted : List ServiceGroupId) : List ServiceGroupId → TickProgress →
    (TickProgress → CoordinationProgram) → CoordinationProgram
  | [], p, next => next p
  | sgId :: rest, p, next =>
    if m.targetServiceGroups ≤ p.held.card then next p
    else if sgId ∈ p.held then sweepPass attempted rest p next
    -- an attempt that failed in the first loop is not repeated
    else if sgId ∈ attempted then sweepPass attempted rest p next
    else
      .call p.held (.leaseTryAcquire sgId) fun result =>
        if result.acquired then sweepPass attempted rest (p.addAcquired sgId) next
        else sweepPass attempted rest (p.addFailed sgId) next

def tickResult (isLeader : Bool) (leaderId : LeaderId) (p : TickProgress) :
    CoordinationTickResultModel where
  isLeader := isLeader
  leaderId := leaderId
  acquiredSgIds := p.acquired
  renewedSgIds := p.renewed
  releasedSgIds := p.released
  failedSgIds := p.failed
  message := if isLeader then messageLeaderActive else messageNotLeader

/-- The lease part of a tick. -/
def leasePass (serviceGroups : List ServiceGroupId) (held : HeldLeases)
    (next : TickProgress → CoordinationProgram) : CoordinationProgram :=
  renewPass (sortedHeldLeases held) ⟨held, [], [], [], []⟩ fun p =>
    m.shedPass (sortedHeldLeases p.held).reverse p fun p =>
      if p.held.card < m.targetServiceGroups then
        m.acquirePass (m.candidateServiceGroups sha256 serviceGroups) p [] fun p attempted =>
          if p.held.card < m.targetServiceGroups then
            m.sweepPass attempted (sortedServiceGroups serviceGroups) p next
          else next p
      else next p

def tick (serviceGroups : List ServiceGroupId) (held : HeldLeases) : CoordinationProgram :=
  m.leaderPass held fun isLeader leaderId =>
    m.leasePass sha256 serviceGroups held fun p =>
      .done p.held (.tick (tickResult isLeader leaderId p))

/-- `tick_leader_only`. -/
def tickLeaderOnly (held : HeldLeases) : CoordinationProgram :=
  m.leaderPass held fun isLeader leaderId =>
    .done held (.tick (tickResult isLeader leaderId ⟨held, [], [], [], []⟩))

/-- The loop of `release_all`, over the held set in the order in which it is iterated. -/
def releasePass : List ServiceGroupId → TickProgress → (TickProgress → CoordinationProgram) →
    CoordinationProgram
  | [], p, next => next p
  | sgId :: rest, p, next =>
    .call p.held (.leaseRelease sgId) fun result =>
      if result.released then releasePass rest (p.addReleased sgId) next
      else releasePass rest (p.addFailed sgId) next

def releaseAllResult (releasedLeader : Bool) (p : TickProgress) :
    CoordinationReleaseAllResultModel where
  releasedLeader := releasedLeader
  releasedSgIds := p.released
  failedSgIds := p.failed
  message := messageReleased

def releaseAll (order : List ServiceGroupId) (held : HeldLeases) : CoordinationProgram :=
  releasePass order ⟨held, [], [], [], []⟩ fun p =>
    if m.leaderEnabled then
      .call p.held .leaderRelease fun result =>
        .done p.held (.releaseAll (releaseAllResult result.released p))
    else .done p.held (.releaseAll (releaseAllResult false p))

/-- What the election and the lease objects of the manager do with a call. -/
def handle (io : FileIo) (now : ℚ) :
    (c : CoordinationCall) → CoordinationDisk → c.Reply × CoordinationDisk
  | .leaderTryAcquire, d =>
    let (result, file) := m.leaderElection.tryAcquire io now d.leader
    (result, { d with leader := file })
  | .leaderRenew, d =>
    let (result, file) := m.leaderElection.renew io now d.leader
    (result, { d with leader := file })
  | .leaderRelease, d =>
    let (result, file) := m.leaderElection.release io d.leader
    (result, { d with leader := file })
  | .leaderStatus, d => (m.leaderElection.status io now d.leader, d)
  | .leaseTryAcquire sgId, d =>
    let (result, file) := (m.leaseForSg sgId).tryAcquire io now (d.leases sgId)
    (result, { d with leases := Function.update d.leases sgId file })
  | .leaseRenew sgId, d =>
    let (result, file) := (m.leaseForSg sgId).renew io now (d.leases sgId)
    (result, { d with leases := Function.update d.leases sgId file })
  | .leaseRelease sgId, d =>
    let (result, file) := (m.leaseForSg sgId).release io (d.leases sgId)
    (result, { d with leases := Function.update d.leases sgId file })

/-! The names and the lease time of the example managers pass the checks of `__init__`. -/

theorem net_nonempty : "net" ≠ "" := by decide

theorem a_nonempty : "a" ≠ "" := by decide

theorem strip_net_nonempty : PyText.strip "net" ≠ "" := by decide

theorem strip_a_nonempty : PyText.strip "a" ≠ "" := by decide

theorem one_le_ten : 1 ≤ 10 := by decide

end CoordinationManager
end PypnmCmts
