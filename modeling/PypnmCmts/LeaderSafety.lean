import PypnmCmts.LeaderElection
import PypnmCmts.LeaseImplementation

/-! The leader record as a lease: with the lock free and every write successful the operations of
an election object are the abstract ones on the leader that its file names. -/
namespace PypnmCmts

open TtlLease

/-- The leader that a file names for an election, if it is one that counts. -/
def leaderGrant (electionName : String) (accepts : LeaderId → Bool) :
    LeaderFile → Option (Grant LeaderId ℚ)
  | .missing => none
  | .unreadable => none
  | .record r =>
    if r.electionName = electionName ∧ accepts r.leaderId = true then
      some ⟨r.leaderId, r.expiresAt⟩
    else none

namespace FileLeaderElection
variable (election : FileLeaderElection)

/-- A record of this leader counts. -/
def accepts (leaderId : LeaderId) : Bool :=
  !election.leaderIdValidator.any fun validator => !validator leaderId

def grant : LeaderFile → Option (Grant LeaderId ℚ) :=
  leaderGrant election.electionName election.accepts

theorem readRecord_of_grant_none {io : FileIo} (file : LeaderFile)
    (h : election.grant file = none) :
    election.readRecord io file = (election.emptyRecord, false) := by
  cases file with
  | missing => rfl
  | unreadable => rfl
  | record r =>
    simp only [grant, leaderGrant, ite_eq_right_iff, reduceCtorEq, imp_false, not_and_or] at h
    by_cases he : r.electionName = election.electionName
    · have hv := h.resolve_left (not_not_intro he)
      simp only [accepts, Bool.not_eq_true', Bool.not_eq_false] at hv
      simp [readRecord, he, hv]
    · simp [readRecord, he]

theorem readRecord_of_grant_some {io : FileIo} (hd : io.readOk = true) (file : LeaderFile)
    (g : Grant LeaderId ℚ) (h : election.grant file = some g) :
    ∃ r, file = .record r ∧ r.electionName = election.electionName ∧
      election.accepts r.leaderId = true ∧ g = ⟨r.leaderId, r.expiresAt⟩ ∧
      election.readRecord io file = (r, true) := by
  cases file with
  | missing => simp [grant, leaderGrant] at h
  | unreadable => simp [grant, leaderGrant] at h
  | record r =>
    simp only [grant, leaderGrant, Option.ite_none_right_eq_some, Option.some.injEq] at h
    obtain ⟨⟨he, hv⟩, rfl⟩ := h
    have hread : (election.leaderIdValidator.any fun validator =>
        !validator r.leaderId) = false := by
      simpa [accepts] using hv
    exact ⟨r, rfl, he, hv, rfl, by simp [readRecord, hd, he, hread]⟩

section Refinement
variable (haccepts : election.accepts election.leaderId = true) (io : FileIo) (hw : io.Works)
  (hl : io.lockFree = true) (now : ℚ) (file : LeaderFile)
include haccepts hw hl

omit haccepts hl in
/-- What is not in force is no record, or one that has run out. -/
theorem isExpired_of_not_inForce {file : LeaderFile} {now : ℚ}
    (hf : inForce (election.grant file) now = none)
    (hvalid : (election.readRecord io file).2 = true) :
    isExpired (election.readRecord io file).1 now = true := by
  cases hg : election.grant file with
  | none => simp [election.readRecord_of_grant_none file hg] at hvalid
  | some g =>
    obtain ⟨r, -, -, -, rfl, hr⟩ := election.readRecord_of_grant_some hw.readOk file g hg
    simpa [hr, isExpired, RecordFile.isExpired] using inForce_eq_none.mp hf _ hg

theorem tryAcquire_refines :
    ((election.perform .acquire io now file).1.reply,
      election.grant (election.perform .acquire io now file).2) =
    TtlLease.perform election.leaderId (election.ttlSeconds : ℚ) .acquire now
      (election.grant file) := by
  have hnew : election.grant (.record (election.newRecord now)) =
      some ⟨election.leaderId, now+election.ttlSeconds⟩ := by
    simp [grant, leaderGrant, newRecord, haccepts]
  cases hf : inForce (election.grant file) now with
  | none =>
    have hread := election.isExpired_of_not_inForce io hw hf
    have hcond : ((election.readRecord io file).2 &&
        !isExpired (election.readRecord io file).1 now) = false := by
      cases hv : (election.readRecord io file).2 <;> simp [hread, hv]
    have hwritten : RecordFile.acquiredWritten io (election.readRecord io file).2
        (election.newRecord now) file = true := by
      simp [RecordFile.acquiredWritten, hw.replaceOk]
    rw [perform_acquire_none hf, ← hnew]
    simp only [perform, tryAcquire, hl, hcond, hwritten,
      RecordFile.writeAcquired_ok io hw.toWritesOk, LeaderResult.reply, Bool.not_true,
      Bool.false_eq_true, if_false, if_true]
    rfl
  | some g =>
    obtain ⟨hg, hlive⟩ := inForce_eq_some.mp hf
    obtain ⟨r, rfl, -, -, rfl, hr⟩ := election.readRecord_of_grant_some hw.readOk file g hg
    have hx : isExpired r now = false := by simpa [isExpired, RecordFile.isExpired] using hlive
    by_cases ho : r.leaderId = election.leaderId
    · rw [perform_acquire_own hf ho]
      simp [perform, tryAcquire, hl, hr, hx, ho, LeaderResult.reply]
    · rw [perform_acquire_other hf ho]
      simp [perform, tryAcquire, hl, hr, hx, ho, LeaderResult.reply]

theorem renew_refines :
    ((election.perform .renew io now file).1.reply,
      election.grant (election.perform .renew io now file).2) =
    TtlLease.perform election.leaderId (election.ttlSeconds : ℚ) .renew now
      (election.grant file) := by
  cases hf : inForce (election.grant file) now with
  | none =>
    have hcond : (!(election.readRecord io file).2 ||
        isExpired (election.readRecord io file).1 now) = true := by
      have hread := election.isExpired_of_not_inForce io hw hf
      cases hv : (election.readRecord io file).2 <;> simp [hread, hv]
    rw [perform_renew_none hf]
    simp only [perform, renew, hl, hcond, LeaderResult.reply, Bool.not_true, Bool.false_eq_true,
      if_false, if_true]
  | some g =>
    obtain ⟨hg, hlive⟩ := inForce_eq_some.mp hf
    obtain ⟨r, rfl, he, hv, rfl, hr⟩ := election.readRecord_of_grant_some hw.readOk file g hg
    have hx : isExpired r now = false := by simpa [isExpired, RecordFile.isExpired] using hlive
    by_cases ho : r.leaderId = election.leaderId
    · rw [perform_renew_own hf ho]
      simp [perform, renew, hl, hr, hx, ho, LeaderResult.reply, hw.replaceOk, grant,
        leaderGrant, he, haccepts]
    · rw [perform_renew_other hf ho]
      simp [perform, renew, hl, hr, hx, ho, LeaderResult.reply]

omit haccepts in
theorem release_refines :
    ((election.perform .release io now file).1.reply,
      election.grant (election.perform .release io now file).2) =
    TtlLease.perform election.leaderId (election.ttlSeconds : ℚ) .release now
      (election.grant file) := by
  cases hg : election.grant file with
  | none =>
    rw [perform_release_none]
    simp [perform, release, hl, election.readRecord_of_grant_none file hg, LeaderResult.reply, hg]
  | some g =>
    obtain ⟨r, rfl, -, -, rfl, hr⟩ := election.readRecord_of_grant_some hw.readOk file g hg
    by_cases ho : r.leaderId = election.leaderId
    · rw [perform_release_own ho]
      simp [perform, release, hl, hr, ho, hw.unlinkOk, LeaderResult.reply, grant, leaderGrant]
    · rw [perform_release_other ho]
      simp [perform, release, hl, hr, ho, LeaderResult.reply, hg]

/-- The operations of an election whose own id counts are those of the abstract lease. -/
theorem perform_refines (op : Op) :
    ((election.perform op io now file).1.reply, election.grant
      (election.perform op io now file).2) =
    TtlLease.perform election.leaderId (election.ttlSeconds : ℚ) op now (election.grant file) := by
  cases op with
  | acquire => exact election.tryAcquire_refines haccepts io hw hl now file
  | renew => exact election.renew_refines haccepts io hw hl now file
  | release => exact election.release_refines io hw hl now file

end Refinement
end FileLeaderElection
end PypnmCmts
