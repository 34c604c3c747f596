import PypnmCmts.AtomicKeepers
import PypnmCmts.TtlLease

/-! What the operations on the files promise to those who call them: the record file is a lease
with a time to live, and of the contenders for it one at a time is told that it holds it. -/
namespace PypnmCmts

open LabelledRun PyNumber PyJson TtlLease

namespace RecordScope
variable {py : Interpreter} (scope : RecordScope)

/-- A record that a contender has written. -/
def Own (record : StoredRecord) : Prop :=
  record.electionName = scope.electionName ∧ record.sgId = scope.sgId ∧
    scope.accepts record.holderId = true ∧ ∃ expires, record.expiresAt = .finite expires

/-- No file, or one of the contenders. -/
def Clean : StateFile → Prop
  | .missing => True
  | .octets _ => False
  | .dumped record => scope.Own record

/-- What a file grants. -/
def grant : StateFile → Option (Grant PyStr ℚ)
  | .dumped ⟨_, _, holderId, _, .finite expires⟩ => some ⟨holderId, expires⟩
  | _ => none

variable {scope}

/-- The contenders read back what they write. -/
theorem readRecord_own (hknown : scope.Known) {record : StoredRecord} (h : scope.Own record) :
    scope.readRecord py .ok (.dumped record) = .ok (record, true) := by
  obtain ⟨hname, hsg, haccepts, -⟩ := h
  rw [readRecord_dumped hknown rfl (by rw [hsg]), if_pos ⟨hname, hsg, haccepts⟩]

theorem readRecord_missing : scope.readRecord py .ok .missing = .ok (scope.emptyRecord, false) := by
  simp [readRecord]

theorem grant_dumped {record : StoredRecord} {expires : ℚ}
    (h : record.expiresAt = .finite expires) :
    grant (.dumped record) = some ⟨record.holderId, expires⟩ := by
  obtain ⟨electionName, sgId, holderId, acquiredAt, expiresAt⟩ := record
  obtain rfl : expiresAt = .finite expires := h
  rfl

theorem exists_dumped_of_grant {file : StateFile} {g : Grant PyStr ℚ} (h : grant file = some g) :
    ∃ record, file = .dumped record ∧ record.holderId = g.owner ∧
      record.expiresAt = .finite g.expires := by
  cases file with
  | missing => cases h
  | octets content => cases h
  | dumped record =>
    obtain ⟨electionName, sgId, holderId, acquiredAt, expiresAt⟩ := record
    cases expiresAt with
    | finite expires =>
      obtain rfl := Option.some.inj h
      exact ⟨_, rfl, rfl, rfl⟩
    | _ => cases h

theorem Own.finite {record : StoredRecord} (h : scope.Own record) :
    ∃ expires, record.expiresAt = .finite expires := h.2.2.2

end RecordScope

/-- What a caller takes an answer for. -/
def StoredResult.reply (result : StoredResult) : Reply ℚ :=
  match result.isHolder, result.record.expiresAt with
  | true, .finite expires => .told expires
  | true, _ => .refused
  | false, _ => if result.done then .released else .refused

theorem StoredResult.reply_held {done : Bool} {record : StoredRecord} {remaining : PyFloat}
    {message : String} {expires : ℚ} (h : record.expiresAt = .finite expires) :
    StoredResult.reply ⟨done, true, record, remaining, message⟩ = .told expires := by
  rw [reply, h]

namespace RecordKeeper
variable {py : Interpreter} {keeper : RecordKeeper}

/-- What an operation does to a file of the contenders. -/
def Refines (py : Interpreter) (keeper : RecordKeeper) (op : Op) (now : ℚ) (file : StateFile) :
    Prop :=
  ∃ result file', keeper.perform py op .ok now file = (.ok result, file') ∧
    keeper.toRecordScope.Clean file' ∧
    (result.reply, RecordScope.grant file') =
      TtlLease.perform keeper.holderId (keeper.ttlSeconds : ℚ) op now (RecordScope.grant file)

theorem own_newRecord (haccepts : keeper.accepts keeper.holderId = true) (now : ℚ) :
    keeper.toRecordScope.Own (keeper.newRecord now) :=
  ⟨rfl, rfl, haccepts, _, rfl⟩

theorem refines_missing (haccepts : keeper.accepts keeper.holderId = true) (op : Op) (now : ℚ) :
    keeper.Refines py op now .missing := by
  have hread : keeper.toRecordScope.readRecord py .ok .missing = .ok (keeper.emptyRecord, false) :=
    RecordScope.readRecord_missing
  cases op with
  | acquire =>
    refine ⟨⟨true, true, keeper.newRecord now, (keeper.newRecord now).remainingSeconds now,
      keeper.recordClass.messageAcquired⟩, .dumped (keeper.newRecord now), ?_,
      own_newRecord haccepts now, ?_⟩
    · simp [perform, tryAcquire, hread, StateFile.writeAcquired, StateFile.writeRecordAtomic]
    · exact (perform_acquire_none rfl).symm
  | renew =>
    refine ⟨⟨false, false, keeper.emptyRecord, keeper.emptyRecord.remainingSeconds now,
      keeper.recordClass.messageNoActive⟩, .missing, ?_, trivial, ?_⟩
    · simp [perform, renew, hread]
    · exact (perform_renew_none rfl).symm
  | release =>
    refine ⟨⟨false, false, keeper.emptyRecord, .finite 0, keeper.recordClass.messageNotHeld⟩,
      .missing, ?_, trivial, ?_⟩
    · simp [perform, release, hread]
    · rfl

/-- The record is live. -/
theorem refines_live (hknown : keeper.Known) {record : StoredRecord}
    (hown : keeper.toRecordScope.Own record) {expires now : ℚ}
    (hexpires : record.expiresAt = .finite expires) (hlive : now < expires) (op : Op) :
    keeper.Refines py op now (.dumped record) := by
  have hread : keeper.toRecordScope.readRecord py .ok (.dumped record) = .ok (record, true) :=
    RecordScope.readRecord_own hknown hown
  have hexpired : record.isExpired now = false := by
    rw [StoredRecord.isExpired, hexpires]
    exact decide_eq_false (not_le.mpr hlive)
  have hgrant : RecordScope.grant (.dumped record) = some ⟨record.holderId, expires⟩ :=
    RecordScope.grant_dumped hexpires
  have hforce : inForce (RecordScope.grant (.dumped record)) now =
      some ⟨record.holderId, expires⟩ :=
    inForce_eq_some.mpr ⟨hgrant, hlive⟩
  by_cases hself : record.holderId = keeper.holderId
  · cases op with
    | acquire =>
      refine ⟨⟨keeper.recordClass.heldCounts, true, record, record.remainingSeconds now,
        keeper.recordClass.messageAlready⟩, .dumped record, ?_, hown, ?_⟩
      · simp [perform, tryAcquire, hread, hexpired, hself]
      · rw [perform_acquire_own hforce hself, StoredResult.reply_held hexpires]
    | renew =>
      obtain ⟨renewed, hrenewed⟩ : ∃ renewed : StoredRecord,
          renewed = { record with expiresAt := .finite (now+keeper.ttlSeconds) } := ⟨_, rfl⟩
      have hfinite : renewed.expiresAt = .finite (now+keeper.ttlSeconds) := by rw [hrenewed]
      refine ⟨⟨true, true, renewed, renewed.remainingSeconds now,
        keeper.recordClass.messageRenewed⟩,
        .dumped renewed, ?_, ?_, ?_⟩
      · simp [perform, renew, hread, hexpired, StateFile.writeRecordReplace,
          if_neg (not_not_intro hself), ← hrenewed]
      · rw [hrenewed]
        exact ⟨hown.1, hown.2.1, hown.2.2.1, _, rfl⟩
      · rw [perform_renew_own hforce hself, StoredResult.reply_held hfinite,
          RecordScope.grant_dumped hfinite, hrenewed, ← hself]
    | release =>
      refine ⟨⟨true, false, keeper.emptyRecord, .finite 0, keeper.recordClass.messageReleased⟩,
        .missing, ?_, trivial, ?_⟩
      · simp [perform, release, hread, hself]
      · rw [hgrant, perform_release_own hself]
        rfl
  · cases op with
    | acquire =>
      refine ⟨⟨false, false, record, record.remainingSeconds now, keeper.recordClass.messageHeld⟩,
        .dumped record, ?_, hown, ?_⟩
      · simp [perform, tryAcquire, hread, hexpired, hself]
      · rw [perform_acquire_other hforce hself]
        rfl
    | renew =>
      refine ⟨⟨false, false, record, record.remainingSeconds now,
        keeper.recordClass.messageNotHolder⟩, .dumped record, ?_, hown, ?_⟩
      · simp [perform, renew, hread, hexpired, hself]
      · rw [perform_renew_other hforce hself]
        rfl
    | release =>
      refine ⟨⟨false, false, record, .finite 0, keeper.recordClass.messageNotHeld⟩,
        .dumped record, ?_, hown, ?_⟩
      · simp [perform, release, hread, hself]
      · rw [hgrant, perform_release_other hself]
        rfl

/-- The record has run out, and counts for a release only. -/
theorem refines_expired (hknown : keeper.Known) (haccepts : keeper.accepts keeper.holderId = true)
    {record : StoredRecord} (hown : keeper.toRecordScope.Own record) {expires now : ℚ}
    (hexpires : record.expiresAt = .finite expires) (hover : expires ≤ now) (op : Op) :
    keeper.Refines py op now (.dumped record) := by
  have hread : keeper.toRecordScope.readRecord py .ok (.dumped record) = .ok (record, true) :=
    RecordScope.readRecord_own hknown hown
  have hexpired : record.isExpired now = true := by
    rw [StoredRecord.isExpired, hexpires]
    exact decide_eq_true hover
  have hgrant : RecordScope.grant (.dumped record) = some ⟨record.holderId, expires⟩ :=
    RecordScope.grant_dumped hexpires
  have hforce : inForce (RecordScope.grant (.dumped record)) now = none := by
    rw [inForce_eq_none, hgrant]
    intro g hg
    obtain rfl := Option.some.inj hg
    exact hover
  cases op with
  | acquire =>
    refine ⟨⟨true, true, keeper.newRecord now, (keeper.newRecord now).remainingSeconds now,
      keeper.recordClass.messageAcquired⟩, .dumped (keeper.newRecord now), ?_,
      own_newRecord haccepts now, ?_⟩
    · simp [perform, tryAcquire, hread, hexpired, StateFile.writeAcquired,
        StateFile.writeRecordReplace]
    · rw [perform_acquire_none hforce]
      rfl
  | renew =>
    refine ⟨⟨false, false, record, record.remainingSeconds now, keeper.recordClass.messageNoActive⟩,
      .dumped record, ?_, hown, ?_⟩
    · simp [perform, renew, hread, hexpired]
    · rw [perform_renew_none hforce]
      rfl
  | release =>
    by_cases hself : record.holderId = keeper.holderId
    · refine ⟨⟨true, false, keeper.emptyRecord, .finite 0, keeper.recordClass.messageReleased⟩,
        .missing, ?_, trivial, ?_⟩
      · simp [perform, release, hread, hself]
      · rw [hgrant, perform_release_own hself]
        rfl
    · refine ⟨⟨false, false, record, .finite 0, keeper.recordClass.messageNotHeld⟩,
        .dumped record, ?_, hown, ?_⟩
      · simp [perform, release, hread, hself]
      · rw [hgrant, perform_release_other hself]
        rfl

theorem refines (hknown : keeper.Known) (haccepts : keeper.accepts keeper.holderId = true) (op : Op)
    (now : ℚ) {file : StateFile} (hclean : keeper.toRecordScope.Clean file) :
    keeper.Refines py op now file := by
  cases file with
  | missing => exact refines_missing haccepts op now
  | octets content => exact hclean.elim
  | dumped record =>
    obtain ⟨expires, hexpires⟩ := RecordScope.Own.finite hclean
    rcases lt_or_ge now expires with hlive | hover
    · exact refines_live hknown hclean hexpires hlive op
    · exact refines_expired hknown haccepts hclean hexpires hover op

end RecordKeeper

/-- Contenders for one record with ids of their own, each of which counts for all of them. -/
structure LeaseContenders (ι : Type) extends KeeperGroup ι where
  scope : RecordScope
  keeper_scope : ∀ i, (keeper i).toRecordScope = scope
  scope_known : scope.Known
  accepts : ∀ i, scope.accepts (keeper i).holderId = true
  holderId_injective : Function.Injective fun i => (keeper i).holderId

namespace LeaseContenders
open KeeperGroup
variable {ι : Type} (fleet : LeaseContenders ι)

def holderId (i : ι) : PyStr := (fleet.keeper i).holderId

/-- The time to live that goes with an id. -/
noncomputable def ownerTtl : PyStr → ℚ :=
  Function.extend fleet.holderId (fun i => ((fleet.keeper i).ttlSeconds : ℚ)) 0

/-- The answer that an operation ends with, unless it is cut off or raises. -/
def answer : Option KeeperEnd → Option (Reply ℚ)
  | some (.locked (.ok result)) => some result.reply
  | _ => none

/-- Nothing is cut off or given up by `i`. -/
def KeptBy (i : ι) (log : List (ι × Option KeeperEnd)) : Prop :=
  ∀ x, (i, x) ∈ log → ∃ reply, answer x = some reply ∧ reply ≠ .released

/-- The record file at `now`, after the sections in the log. -/
structure Exclusive (now : ℚ) (file : StateFile) (log : List (ι × Option KeeperEnd)) : Prop where
  clean : fleet.scope.Clean file
  within : WithinTtl fleet.ownerTtl ⟨RecordScope.grant file, now⟩
  told : ∀ before i x e after, log = before ++ (i, x) :: after → answer x = some (.told e) →
    KeptBy i after → Backed (fleet.holderId i) e ⟨RecordScope.grant file, now⟩ ∧
      ∀ j y e', (j, y) ∈ after → answer y = some (.told e') → j ≠ i → e ≤ now

variable {fleet} {now now' began : ℚ} {file file' : StateFile} {log : List (ι × Option KeeperEnd)}
  {i : ι}

theorem Exclusive.later (hle : now ≤ now') (h : fleet.Exclusive now file log) :
    fleet.Exclusive now' file log where
  clean := h.clean
  within g hg := (h.within g hg).trans (add_le_add_left hle _)
  told before i x e after hlog hx hkept := by
    obtain ⟨hbacked, hothers⟩ := h.told before i x e after hlog hx hkept
    exact ⟨hbacked.imp_left fun he => he.trans hle,
      fun j y e' hy htold hne => (hothers j y e' hy htold hne).trans hle⟩

/-- An operation on the record file is one of the lease. -/
theorem abstract_step {op : Op} {io : DiskIo} {t : ℚ} {result : Except Escaped StoredResult}
    (hclean : fleet.scope.Clean file)
    (hstep : fleet.Step false i op io t began now file result file') :
    fleet.scope.Clean file' ∧ ∃ reply, answer (some (.locked result)) = some reply ∧
      TtlLease.reply fleet.ownerTtl ⟨RecordScope.grant file, began⟩
        ⟨t-began, fleet.holderId i, op⟩ = reply ∧
      TtlLease.step fleet.ownerTtl ⟨RecordScope.grant file, began⟩
        ⟨t-began, fleet.holderId i, op⟩ = ⟨RecordScope.grant file', t⟩ := by
  obtain ⟨-, -, -, hok, hperform⟩ := hstep
  obtain rfl : io = .ok := hok.resolve_left (by simp)
  have hscope := fleet.keeper_scope i
  have hknown : (fleet.keeper i).Known := by
    rw [hscope]
    exact fleet.scope_known
  have haccepts : (fleet.keeper i).accepts (fleet.keeper i).holderId = true := by
    rw [hscope]
    exact fleet.accepts i
  have hcl : (fleet.keeper i).toRecordScope.Clean file := by
    rw [hscope]
    exact hclean
  have hop : (fleet.keeper i).Refines fleet.py op t file :=
    RecordKeeper.refines hknown haccepts op t hcl
  obtain ⟨result', file'', hp, hclean', hrefines⟩ := hop
  rw [hperform] at hp
  obtain ⟨rfl, rfl⟩ := Prod.mk.inj hp
  have httl : fleet.ownerTtl (fleet.holderId i) = (fleet.keeper i).ttlSeconds :=
    fleet.holderId_injective.extend_apply _ _ _
  have htime : began+(t-began) = t := by ring
  rw [hscope] at hclean'
  obtain ⟨hreply, hgrant⟩ := Prod.mk.inj hrefines
  refine ⟨hclean', result'.reply, rfl, ?_, ?_⟩
  · rw [TtlLease.reply, httl, htime, hreply]
    rfl
  · rw [TtlLease.step, httl, htime, hgrant]
    rfl

/-- A section that did nothing before it was cut off. -/
theorem exclusive_cut (h : fleet.Exclusive now file log) :
    fleet.Exclusive now file (log ++ [(i, none)]) where
  clean := h.clean
  within := h.within
  told before k x e after hlog hx hkept := by
    rcases split_concat hlog with ⟨-, -, hlast⟩ | ⟨after', rfl, hlog'⟩
    · obtain ⟨-, rfl⟩ := Prod.mk.inj hlast
      cases hx
    · have hkept' : KeptBy k after' := fun y hy => hkept y (List.mem_append_left _ hy)
      obtain ⟨hbacked, hothers⟩ := h.told before k x e after' hlog' hx hkept'
      refine ⟨hbacked, ?_⟩
      intro j y e' hy htold hne
      rcases List.mem_append.mp hy with hy | hy
      · exact hothers j y e' hy htold hne
      · obtain ⟨rfl, rfl⟩ := Prod.mk.inj (List.mem_singleton.mp hy)
        cases htold

/-- A section keeps what the others were told, and what it is told the file backs. -/
theorem exclusive_section {op : Op} {io : DiskIo} {t : ℚ} {result : Except Escaped StoredResult}
    (h : fleet.Exclusive began file log)
    (hstep : fleet.Step false i op io t began now file result file') {x : Option KeeperEnd}
    (hx : x = some (.locked result) ∨ x = none) :
    fleet.Exclusive now file' (log ++ [(i, x)]) := by
  obtain ⟨hclean, reply, hanswer, hreply, habstract⟩ := abstract_step h.clean hstep
  obtain ⟨hbegan, hnow, -⟩ := hstep
  have hwait : (0 : ℚ) ≤ t-began := sub_nonneg.mpr hbegan
  have htime : began+(t-began) = t := by ring
  have hwithin := within_ttl_step _ ⟨t-began, fleet.holderId i, op⟩ hwait h.within
  rw [habstract] at hwithin
  have hat : fleet.Exclusive t file' (log ++ [(i, x)]) := by
    refine ⟨hclean, hwithin, ?_⟩
    intro before k y e after hlog hy hkept
    rcases split_concat hlog with ⟨rfl, -, hlast⟩ | ⟨after', rfl, hlog'⟩
    · -- the section itself was told
      obtain ⟨rfl, rfl⟩ := Prod.mk.inj hlast
      obtain rfl : y = some (.locked result) := by
        refine hx.resolve_right ?_
        rintro rfl
        cases hy
      rw [hanswer] at hy
      have hbacked := backed_of_told _ ⟨t-began, fleet.holderId k, op⟩ e hwait
        (hreply.trans (Option.some.inj hy))
      rw [habstract] at hbacked
      exact ⟨hbacked, fun j y e' hmem => absurd hmem List.not_mem_nil⟩
    · -- an older answer stays backed, as its owner has not given the lease up since
      have hkept' : KeptBy k after' := fun y hy => hkept y (List.mem_append_left _ hy)
      obtain ⟨hbacked, hothers⟩ := h.told before k y e after' hlog' hy hkept'
      have hkeeps : Keeps fleet.ownerTtl (fleet.holderId k) ⟨RecordScope.grant file, began⟩
          ⟨t-began, fleet.holderId i, op⟩ := by
        refine ⟨hwait, ?_⟩
        intro ⟨hsame, hreleased⟩
        obtain rfl := fleet.holderId_injective hsame
        obtain ⟨reply', hreply', hne⟩ :=
          hkept x (List.mem_append_right _ (List.mem_singleton.mpr rfl))
        rcases hx with rfl | rfl
        · rw [hanswer] at hreply'
          exact hne ((Option.some.inj hreply').symm.trans (hreply.symm.trans hreleased))
        · cases hreply'
      have hstill := backed_step _ e _ ⟨t-began, fleet.holderId i, op⟩ hkeeps h.within hbacked
      rw [habstract] at hstill
      refine ⟨hstill, ?_⟩
      intro j z e' hz htold hne
      rcases List.mem_append.mp hz with hz | hz
      · exact (hothers j z e' hz htold hne).trans hbegan
      · obtain ⟨rfl, rfl⟩ := Prod.mk.inj (List.mem_singleton.mp hz)
        obtain rfl : z = some (.locked result) := by
          refine hx.resolve_right ?_
          rintro rfl
          cases htold
        rw [hanswer] at htold
        -- whoever else is told of a lease finds the old one expired
        have hexpired := expired_of_told_other _ e _ ⟨t-began, fleet.holderId j, op⟩
          e' hwait hbacked
          (fun hsame => hne (fleet.holderId_injective hsame)) (hreply.trans (Option.some.inj htold))
        exact hexpired.trans_eq htime
  exact hat.later hnow

/-- What the sections do to the record file and to the log. -/
theorem follows_exclusive (fleet : LeaseContenders ι) :
    ExclusiveSections.Follows (fleet.spec false) fleet.Exclusive where
  later := fun hle h => h.later hle
  did_later := by
    intro i a began file now now' file' hle h
    obtain ⟨op, io, t, result, ha, hstep⟩ := h
    exact ⟨op, io, t, result, ha, hstep.later hle⟩
  torn_later := by
    intro i began file now now' file' hle h
    exact Torn.later hle h
  did := by
    intro i a began file now file' log h hdid
    obtain ⟨op, io, t, result, rfl, hstep⟩ := hdid
    exact exclusive_section h hstep (Or.inl rfl)
  torn := by
    intro i began file now file' log hle h htorn
    rcases htorn with rfl | ⟨op, io, t, result, hstep⟩
    · exact exclusive_cut (h.later hle)
    · exact exclusive_section h hstep (Or.inr rfl)

variable [DecidableEq ι]

/-- The contenders start on their files, make their calls in any order, crash at any point and break
the locks of those that did. While what one of them was told lasts, and it neither crashes in a
section nor gives the lease up, no other is told that it holds the lease, and the record file names
it whenever nobody is at work. -/
theorem held_by_one (w : FileWorld ι) (hidle : ∀ i, (w.program i).isDone = true)
    (hnobody : w.holder = none) (hlog : w.log = [])
    (hfile : w.store fleet.statePath = .state .missing)
    (htmp : ∃ old, w.store fleet.temporary = .state old) (actions : List (FileAction ι))
    (hg : Guarded fleet.fileStep (fleet.FileGuard false) w actions)
    {before after : List (ι × Option KeeperEnd)} {i : ι} {x : Option KeeperEnd} {e : ℚ}
    (hend : (exec fleet.fileStep w actions).log = before ++ (i, x) :: after)
    (hx : answer x = some (.told e)) (hkept : KeptBy i after) :
    (∀ j y e', (j, y) ∈ after → answer y = some (.told e') → j ≠ i →
      e ≤ (exec fleet.fileStep w actions).clock) ∧
    ((exec fleet.fileStep w actions).holder = none →
      e ≤ (exec fleet.fileStep w actions).clock ∨ ∃ record expires,
        (exec fleet.fileStep w actions).store fleet.statePath = .state (.dumped record) ∧
        record.holderId = (fleet.keeper i).holderId ∧ record.expiresAt = .finite expires ∧
        e ≤ expires) := by
  have hstart : fleet.Exclusive w.clock .missing [] := by
    refine ⟨trivial, ?_, ?_⟩
    · intro g hgrant
      cases hgrant
    · intro before k x e after hnil
      simp at hnil
  have hinv := ExclusiveSections.sections_in_turn (fun _ op => waits_operation op)
    (follows_exclusive fleet) w hidle hnobody ⟨hfile, htmp⟩ (by rw [hlog]; exact hstart)
    actions hg
  cases hholder : (exec fleet.fileStep w actions).holder with
  | none =>
    obtain ⟨file, ⟨hstate, -⟩, hexclusive⟩ := hinv.nobody hholder
    obtain ⟨hbacked, hothers⟩ := hexclusive.told before i x e after hend hx hkept
    refine ⟨hothers, fun _ => hbacked.imp_right ?_⟩
    intro ⟨g, hgrant, howner, hle⟩
    obtain ⟨record, rfl, hid, hexpires⟩ := RecordScope.exists_dumped_of_grant hgrant
    exact ⟨record, g.expires, hstate, hid.trans howner, hexpires, hle⟩
  | some k =>
    obtain ⟨-, began, file, hbegan, hexclusive, -⟩ := hinv.somebody k hholder
    have hothers := (hexclusive.told before i x e after hend hx hkept).2
    exact ⟨fun j y e' hy htold hne => (hothers j y e' hy htold hne).trans hbegan,
      fun hnobody => by cases hnobody⟩

theorem pairKeeper_injective : Function.Injective fun i => (pairKeeper i).holderId := by
  intro i j
  revert i j
  decide

def pairContenders : LeaseContenders Bool where
  toKeeperGroup := pair
  scope := FileServiceGroupLease.recordScope (codePoints "cmts") 1
  keeper_scope _ := rfl
  scope_known := Or.inl ⟨_, _, rfl⟩
  accepts _ := rfl
  holderId_injective := pairKeeper_injective

/-- One owner acquires the lease, the other is refused at 5, crashes with the lock in its hands at 6
and is back at 30, where it takes over. -/
def pairHandover : List (FileAction Bool) :=
  .start true (.locked .acquire) :: List.replicate 5 (.call true (.ok 0)) ++
    .start false (.locked .acquire) :: List.replicate 5 (.call false (.ok 5)) ++
    [.start false (.locked .acquire), .call false (.ok 6), .crash false] ++
    .start false (.locked .acquire) :: List.replicate 11 (.call false (.ok 30))

theorem held_by_one_pair :
    ((exec pair.fileStep pairStart pairHandover).log.map fun entry => (entry.1, answer entry.2)) =
      [(true, some (.told 10)), (false, some .refused), (false, none), (false, some (.told 40))] ∧
    10 ≤ (exec pair.fileStep pairStart pairHandover).clock := by
  have hanswers : ((exec pair.fileStep pairStart pairHandover).log.map
      fun entry => (entry.1, answer entry.2)) =
      [(true, some (.told 10)), (false, some .refused), (false, none),
        (false, some (.told 40))] := by
    decide +kernel
  refine ⟨hanswers, ?_⟩
  cases hlog : (exec pair.fileStep pairStart pairHandover).log with
  | nil =>
    rw [hlog] at hanswers
    cases hanswers
  | cons first after =>
    obtain ⟨i, x⟩ := first
    rw [hlog, List.map_cons] at hanswers
    obtain ⟨hfirst, hafter⟩ := List.cons.inj hanswers
    obtain ⟨rfl, hx⟩ := Prod.mk.inj hfirst
    have hmem {entry : Bool × Option KeeperEnd} (h : entry ∈ after) :
        (entry.1, answer entry.2) ∈
          [(false, some Reply.refused), (false, none), (false, some (.told (40 : ℚ)))] := by
      rw [← hafter]
      exact List.mem_map_of_mem h
    have hkept : KeptBy true after := by
      intro y hy
      have h := hmem hy
      simp at h
    have hlast : (false, some (Reply.told (40 : ℚ))) ∈ after.map fun entry =>
        (entry.1, answer entry.2) := by
      rw [hafter]
      simp
    obtain ⟨⟨j, y⟩, hy, he⟩ := List.mem_map.mp hlast
    obtain ⟨rfl, htold⟩ := Prod.mk.inj he
    have hend : (exec pair.fileStep pairStart pairHandover).log = [] ++ (true, x) :: after := hlog
    exact (pairContenders.held_by_one pairStart (fun _ => rfl) rfl rfl rfl
      ⟨.missing, rfl⟩ pairHandover
      (by decide +kernel) hend hx hkept).1 _ y 40 hy htold (by decide)

end LeaseContenders
end PypnmCmts
