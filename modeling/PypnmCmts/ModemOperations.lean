import PypnmCmts.CableModemPages
import PypnmCmts.CaptureStores
import PypnmCmts.WorkerPool

/-! The collections of `serving_group/cm/operations/service.py` for one service group: the system
descriptions of its selected modems, in a loop or in a pool of threads, and their resets. -/
namespace PypnmCmts

abbrev SnmpCommunity := String

/-- What both operations answer for a group. They differ in the entries. -/
structure ModemGroupModel (Entry : Type) where
  sgId : ServiceGroupId
  status : ServiceStatusCode := .success
  message : String := ""
  modemCount : ℕ := 0
  successCount : ℕ := 0
  failureCount : ℕ := 0
  modems : OrderedDict MacAddressStr Entry := .empty

/-- Every modem is counted once, and has its own entry. -/
structure ModemGroupModel.WellCounted {Entry : Type} (group : ModemGroupModel Entry) : Prop where
  counts : group.modemCount = group.successCount+group.failureCount
  entries : group.modemCount = group.modems.entries.length

structure ServingGroupCableModemSysDescrEntryModel where
  sysdescr : SystemDescriptorModel := {}
deriving DecidableEq

/-- Per-modem docsDevResetNow execution result. -/
structure ServingGroupDocsDevResetNowModemModel where
  ipAddress : Option InetAddressStr := none
  status : ServiceStatusCode := .success
  message : String := ""
  pingAttempts : ℕ := 0
  pingLastReachable : Option Bool := none
deriving DecidableEq

abbrev ServingGroupCableModemSysDescrGroupModel :=
  ModemGroupModel ServingGroupCableModemSysDescrEntryModel

abbrev ServingGroupDocsDevResetNowGroupModel :=
  ModemGroupModel ServingGroupDocsDevResetNowModemModel

/-- The variables of a collection's loops. -/
structure ModemTally (Entry : Type) where
  entries : OrderedDict MacAddressStr Entry := .empty
  modemCount : ℕ := 0
  successCount : ℕ := 0
  failureCount : ℕ := 0

namespace ModemTally
variable {Entry : Type}

def turn (tally : ModemTally Entry) : ModemTally Entry :=
  { tally with modemCount := tally.modemCount+1 }

/-- An entry of the modem, counted as a success or as a failure. -/
def file (tally : ModemTally Entry) (macAddress : MacAddressStr) (entry : Entry)
    (success : Bool) : ModemTally Entry :=
  { tally with
    entries := tally.entries.insert macAddress entry
    successCount := if success then tally.successCount+1 else tally.successCount
    failureCount := if success then tally.failureCount else tally.failureCount+1 }

def group (tally : ModemTally Entry) (sgId : ServiceGroupId) (noSuccessMessage : String) :
    ModemGroupModel Entry :=
  let failed := 0 < tally.modemCount ∧ tally.successCount = 0
  { sgId
    status := if failed then .failure else .success
    message := if failed then noSuccessMessage else ""
    modemCount := tally.modemCount
    successCount := tally.successCount
    failureCount := tally.failureCount
    modems := tally.entries }

/-- The entries are those of the given rows, and each row has been counted. -/
structure Filed (tally : ModemTally Entry) (rows : List (MacAddressStr × Entry)) : Prop where
  entries : tally.entries = rows.foldl (fun entries row => entries.insert row.1 row.2) .empty
  counts : tally.successCount+tally.failureCount = rows.length

theorem filed_start : (({} : ModemTally Entry)).Filed [] := ⟨rfl, rfl⟩

variable {tally : ModemTally Entry} {rows : List (MacAddressStr × Entry)}

theorem Filed.turn (h : tally.Filed rows) : tally.turn.Filed rows := ⟨h.entries, h.counts⟩

theorem Filed.file (h : tally.Filed rows) (macAddress : MacAddressStr) (entry : Entry)
    (success : Bool) :
    (tally.file macAddress entry success).Filed (rows ++ [(macAddress, entry)]) := by
  have hcounts := h.counts
  refine ⟨?_, ?_⟩
  · rw [List.foldl_append, ← h.entries]
    rfl
  · rw [List.length_append, List.length_singleton]
    cases success with
    | true => simp only [ModemTally.file, if_true]; omega
    | false => simp only [ModemTally.file, Bool.false_eq_true, if_false]; omega

/-- The counts fit the entries exactly when no two rows are of one modem. -/
theorem Filed.wellCounted_iff (h : tally.Filed rows) (hturns : tally.modemCount = rows.length)
    (sgId : ServiceGroupId) (noSuccessMessage : String) :
    (tally.group sgId noSuccessMessage).WellCounted ↔ (rows.map Prod.fst).Nodup := by
  rw [← OrderedDict.length_foldl_insert_iff, ← h.entries, ← hturns]
  constructor
  · intro hcounted
    exact hcounted.entries.symm
  · intro hentries
    exact ⟨hturns.trans h.counts.symm, hentries.symm⟩

end ModemTally

namespace ServingGroupCableModemOperationsService
open WorkerPool

section Selection

/-- The modems that the loops over a group's sorted modems do not skip. -/
def selectedModems (store : SgwCacheStore) (sgId : ServiceGroupId)
    (selectedMacs : List MacAddressStr) : List SgwCableModemModel :=
  match store.getEntry sgId with
  | none => []
  | some entry => (ServingGroupCacheService.sortModems entry.snapshot.cableModems).filter
      fun modem => selectedMacs = [] ∨ modem.mac ∈ selectedMacs

def missingGroup {Entry : Type} (sgId : ServiceGroupId) : ModemGroupModel Entry where
  sgId := sgId
  status := .failure
  message := "sg entry missing in cache"

theorem missingGroup_wellCounted {Entry : Type} (sgId : ServiceGroupId) :
    (missingGroup sgId : ModemGroupModel Entry).WellCounted := ⟨rfl, rfl⟩

def normalizeModemIp (helpers : InetHelpers) (modem : SgwCableModemModel) :
    Option InetAddressStr :=
  (PnmModemResolver.selectIp helpers modem).bind helpers.inet

end Selection

section SysDescr

def noSysdescrResponsesMessage : String := "no modem sysDescr responses received"

/-- The communities are tried in turn. One that raises or answers nothing is passed over. -/
def collectModemSysdescr (ask : SnmpCommunity → Except String SystemDescriptorModel) :
    List SnmpCommunity → Option SystemDescriptorModel
  | [] => none
  | community :: communities =>
    match ask community with
    | .error _ => collectModemSysdescr ask communities
    | .ok resolvedModel =>
      if resolvedModel.isEmpty = true then collectModemSysdescr ask communities
      else some resolvedModel

abbrev SysDescrTally := ModemTally ServingGroupCableModemSysDescrEntryModel

abbrev PollResults := OrderedDict MacAddressStr (Option SystemDescriptorModel)

/-- The first loop: a modem without an address fails at once, the others are to be polled. -/
def sortOut (helpers : InetHelpers)
    (found : SysDescrTally × List (MacAddressStr × InetAddressStr)) (modem : SgwCableModemModel) :
    SysDescrTally × List (MacAddressStr × InetAddressStr) :=
  match normalizeModemIp helpers modem with
  | none => (found.1.turn.file modem.mac {} false, found.2)
  | some modemIp => (found.1.turn, found.2 ++ [(modem.mac, modemIp)])

/-- The last loop: what the polls have given under the modem's address. -/
def report (pollResults : PollResults) (tally : SysDescrTally)
    (target : MacAddressStr × InetAddressStr) : SysDescrTally :=
  match (pollResults.lookup target.1).join with
  | none => tally.file target.1 {} false
  | some sysdescrModel =>
    if sysdescrModel.isEmpty = true then tally.file target.1 {} false
    else tally.file target.1 { sysdescr := sysdescrModel } true

variable (helpers : InetHelpers) (store : SgwCacheStore) (sgId : ServiceGroupId)
  (selectedMacs : List MacAddressStr) (communities : List SnmpCommunity)

/-- The modems that are counted at once, and those to be polled. -/
def sortedOut : SysDescrTally × List (MacAddressStr × InetAddressStr) :=
  (selectedModems store sgId selectedMacs).foldl (sortOut helpers) ({}, [])

abbrev pollTargets : List (MacAddressStr × InetAddressStr) :=
  (sortedOut helpers store sgId selectedMacs).2

abbrev PollFuture := Fin (pollTargets helpers store sgId selectedMacs).length

/-- What a target's modem answers to each community. -/
abbrev SysDescrAnswers := PollFuture helpers store sgId selectedMacs →
  SnmpCommunity → Except String SystemDescriptorModel

variable (ask : SysDescrAnswers helpers store sgId selectedMacs)

/-- The result of a poll, stored under the modem's address in the order of the list. -/
def filePolls (order : List (PollFuture helpers store sgId selectedMacs ×
    Option SystemDescriptorModel)) : PollResults :=
  (order.map fun poll => (((pollTargets helpers store sgId selectedMacs).get poll.1).1,
    poll.2)).foldl (fun results poll => results.insert poll.1 poll.2) .empty

def pollResult (future : PollFuture helpers store sgId selectedMacs) :
    Option SystemDescriptorModel := collectModemSysdescr (ask future) communities

def pollSequentially : PollResults :=
  filePolls helpers store sgId selectedMacs ((List.finRange _).map fun future =>
    (future, pollResult helpers store sgId selectedMacs communities ask future))

theorem pollWorkers_pos (targets : ℕ) : 0 < max 1 (min 16 targets) :=
  lt_max_of_lt_left one_pos

/-- The pool is made for one target at least. A poll catches what is raised in it. -/
def pollPool : Pool (PollFuture helpers store sgId selectedMacs) String
    (Option SystemDescriptorModel) where
  tasks := List.finRange _
  nodup := List.nodup_finRange _
  limit := max 1 (min 16 (pollTargets helpers store sgId selectedMacs).length)
  limit_pos := pollWorkers_pos _
  timed := false
  outcome future := .ok (pollResult helpers store sgId selectedMacs communities ask future)

/-- The poll results when the pool has ended, stored in the order of completion. -/
def pollThreaded (as : List (Action (PollFuture helpers store sgId selectedMacs))) :
    Option PollResults :=
  match (LabelledRun.exec (pollPool helpers store sgId selectedMacs communities ask).step
      (pollPool helpers store sgId selectedMacs communities ask).initial as).phase with
  | .returned taken => some (filePolls helpers store sgId selectedMacs taken)
  | _ => none

/-- The group, once the poll results are there. -/
def sysDescrGroup (pollResults : PollResults) : ServingGroupCableModemSysDescrGroupModel :=
  match store.getEntry sgId with
  | none => missingGroup sgId
  | some _ =>
    let (tally, pollTargets) := sortedOut helpers store sgId selectedMacs
    (pollTargets.foldl (report pollResults) tally).group sgId noSysdescrResponsesMessage

/-- `none` while the threads are still polling. -/
def collectSysDescrForSg (threaded : Bool)
    (as : List (Action (PollFuture helpers store sgId selectedMacs))) :
    Option ServingGroupCableModemSysDescrGroupModel :=
  if threaded = true ∧ pollTargets helpers store sgId selectedMacs ≠ [] then
    (pollThreaded helpers store sgId selectedMacs communities ask as).map
      (sysDescrGroup helpers store sgId selectedMacs)
  else some (sysDescrGroup helpers store sgId selectedMacs
    (pollSequentially helpers store sgId selectedMacs communities ask))

end SysDescr

section Reset

def docsDevResetVerifyPingAttempts : ℕ := 5
def noResetVerifiedMessage : String := "no modem reset verified by ping failure"

/-- What the reset of one modem meets: the answer to the reset, and for each attempt to verify it
whether the modem could be built, what its own ping says and what the plain ping says. -/
structure ResetAnswers where
  send : Except String Bool
  build : ℕ → Except String Unit
  reachable : ℕ → Except String Bool
  fallback : ℕ → Except String Bool

variable (resetNowFailed pingFailed : ServiceStatusCode) (answers : ResetAnswers)

def sendDocsDevResetNow : ServiceStatusCode × String :=
  match answers.send with
  | .error exc => (.failure, s!"docsDevResetNow exception: {exc}")
  | .ok false => (resetNowFailed, "docsDevResetNow returned false")
  | .ok true => (.success, "docsDevResetNow command sent")

/-- The modem is built outside the `try` block. -/
def isModemPingReachable (attempt : ℕ) : Except String Bool := do
  answers.build attempt
  match answers.reachable attempt with
  | .ok reachable => pure reachable
  | .error _ => answers.fallback attempt

/-- The attempts that are left of the verification. -/
def verifyPingFailure : ℕ → Except String (ServiceStatusCode × String × ℕ × Bool)
  | 0 => pure (pingFailed,
      "docsDevResetNow verification failed: modem still ping reachable after retries",
      docsDevResetVerifyPingAttempts, true)
  | left+1 => do
    let attempt := docsDevResetVerifyPingAttempts-left
    let reachable ← isModemPingReachable answers attempt
    if reachable = false then
      pure (.success, s!"docsDevResetNow verified by ping failure after {attempt} attempt(s)",
        attempt, false)
    else verifyPingFailure left

def executeDocsDevResetForModem :
    Option InetAddressStr → Except String ServingGroupDocsDevResetNowModemModel
  | none => pure { status := .failure, message := "unable to resolve modem IP address" }
  | some ipAddress =>
    let (resetStatus, resetMessage) := sendDocsDevResetNow resetNowFailed answers
    if resetStatus ≠ .success then
      pure { ipAddress := some ipAddress, status := resetStatus, message := resetMessage }
    else do
      let (verifyStatus, verifyMessage, pingAttempts, pingLastReachable) ←
        verifyPingFailure pingFailed answers docsDevResetVerifyPingAttempts
      pure { ipAddress := some ipAddress, status := verifyStatus, message := verifyMessage
             pingAttempts := pingAttempts, pingLastReachable := some pingLastReachable }

/-- One turn of the loop; the modem is known by its place. -/
def resetModem (helpers : InetHelpers) (answers : ℕ → ResetAnswers)
    (tally : ModemTally ServingGroupDocsDevResetNowModemModel)
    (row : SgwCableModemModel × ℕ) :
    Except String (ModemTally ServingGroupDocsDevResetNowModemModel) := do
  let entry ← executeDocsDevResetForModem resetNowFailed pingFailed (answers row.2)
    (normalizeModemIp helpers row.1)
  pure (tally.turn.file row.1.mac entry (entry.status = .success))

/-- What a ping raises without being caught ends the collection. -/
def collectDocsDevResetForSg (helpers : InetHelpers) (store : SgwCacheStore)
    (sgId : ServiceGroupId) (selectedMacs : List MacAddressStr) (answers : ℕ → ResetAnswers) :
    Except String ServingGroupDocsDevResetNowGroupModel :=
  match store.getEntry sgId with
  | none => pure (missingGroup sgId)
  | some _ => do
    let tally ← (selectedModems store sgId selectedMacs).zipIdx.foldlM
      (resetModem resetNowFailed pingFailed helpers answers) {}
    pure (tally.group sgId noResetVerifiedMessage)

end Reset

section SysDescrCounts
variable {helpers : InetHelpers} {store : SgwCacheStore} {sgId : ServiceGroupId}
  {selectedMacs : List MacAddressStr} {communities : List SnmpCommunity}

theorem sortOut_of_none {modem : SgwCableModemModel} (hip : normalizeModemIp helpers modem = none)
    (found : SysDescrTally × List (MacAddressStr × InetAddressStr)) :
    sortOut helpers found modem = (found.1.turn.file modem.mac {} false, found.2) := by
  delta sortOut
  rw [hip]

theorem sortOut_of_some {modem : SgwCableModemModel} {modemIp : InetAddressStr}
    (hip : normalizeModemIp helpers modem = some modemIp)
    (found : SysDescrTally × List (MacAddressStr × InetAddressStr)) :
    sortOut helpers found modem = (found.1.turn, found.2 ++ [(modem.mac, modemIp)]) := by
  delta sortOut
  rw [hip]

/-- Each modem of the first loop is counted, and is either filed or to be polled. -/
theorem filed_sortOut (modems : List SgwCableModemModel)
    (found : SysDescrTally × List (MacAddressStr × InetAddressStr))
    {rows : List (MacAddressStr × ServingGroupCableModemSysDescrEntryModel)}
    (h : found.1.Filed rows) :
    ∃ rows', (modems.foldl (sortOut helpers) found).1.Filed rows' ∧
      (modems.foldl (sortOut helpers) found).1.modemCount =
        found.1.modemCount+modems.length ∧
      (rows'.map Prod.fst ++ (modems.foldl (sortOut helpers) found).2.map Prod.fst).Perm
        (rows.map Prod.fst ++ found.2.map Prod.fst ++ modems.map SgwCableModemModel.mac) := by
  induction modems generalizing found rows with
  | nil =>
    refine ⟨rows, h, rfl, ?_⟩
    rw [List.foldl_nil, List.map_nil, List.append_nil]
  | cons modem modems ih =>
    cases hip : normalizeModemIp helpers modem with
    | none =>
      obtain ⟨rows', hfiled, hcount, hperm⟩ :=
        ih (found.1.turn.file modem.mac {} false, found.2) (h.turn.file modem.mac {} false)
      rw [List.foldl_cons, sortOut_of_none hip]
      refine ⟨rows', hfiled, ?_, hperm.trans ?_⟩
      · rw [hcount, List.length_cons]
        simp only [ModemTally.file, ModemTally.turn]
        omega
      · -- the modem stands with the filed ones, and not behind those to be polled
        simp only [List.map_append, List.map_cons, List.map_nil, List.append_assoc,
          List.singleton_append]
        exact (List.perm_middle.symm).append_left _
    | some modemIp =>
      obtain ⟨rows', hfiled, hcount, hperm⟩ :=
        ih (found.1.turn, found.2 ++ [(modem.mac, modemIp)]) h.turn
      rw [List.foldl_cons, sortOut_of_some hip]
      refine ⟨rows', hfiled, ?_, hperm.trans ?_⟩
      · rw [hcount, List.length_cons]
        simp only [ModemTally.turn]
        omega
      · simp only [List.map_append, List.map_cons, List.map_nil, List.append_assoc,
          List.singleton_append, List.Perm.refl]

theorem filed_report (pollResults : PollResults)
    (targets : List (MacAddressStr × InetAddressStr)) {tally : SysDescrTally}
    {rows : List (MacAddressStr × ServingGroupCableModemSysDescrEntryModel)}
    (h : tally.Filed rows) :
    ∃ rows', (targets.foldl (report pollResults) tally).Filed rows' ∧
      rows'.map Prod.fst = rows.map Prod.fst ++ targets.map Prod.fst ∧
      (targets.foldl (report pollResults) tally).modemCount = tally.modemCount := by
  induction targets generalizing tally rows with
  | nil => exact ⟨rows, h, (List.append_nil _).symm, rfl⟩
  | cons target targets ih =>
    -- each branch files one entry, only its success differs
    obtain ⟨entry, success, hstep⟩ : ∃ entry success,
        report pollResults tally target = tally.file target.1 entry success := by
      unfold report
      split
      · exact ⟨_, _, rfl⟩
      · split
        · exact ⟨_, _, rfl⟩
        · exact ⟨_, _, rfl⟩
    obtain ⟨rows', hfiled, hkeys, hcount⟩ := ih (h.file target.1 entry success)
    rw [List.foldl_cons, hstep]
    refine ⟨rows', hfiled, ?_, hcount⟩
    rw [hkeys, List.map_append, List.append_assoc]
    rfl

theorem selectedModems_of_missing (hmissing : store.getEntry sgId = none) :
    selectedModems store sgId selectedMacs = [] := by
  rw [selectedModems, hmissing]

/-- Whatever the polls have given, the counts of the group fit its entries exactly when no address
is selected twice. -/
theorem sysDescrGroup_wellCounted_iff (pollResults : PollResults) :
    (sysDescrGroup helpers store sgId selectedMacs pollResults).WellCounted ↔
      ((selectedModems store sgId selectedMacs).map SgwCableModemModel.mac).Nodup := by
  cases hentry : store.getEntry sgId with
  | none =>
    rw [selectedModems_of_missing hentry, sysDescrGroup, hentry]
    exact iff_of_true (missingGroup_wellCounted sgId) List.nodup_nil
  | some entry =>
    obtain ⟨rows, hfiled, hturns, hsorted⟩ := @filed_sortOut helpers
      (selectedModems store sgId selectedMacs) ({}, []) _ ModemTally.filed_start
    -- the modems without an address are filed before the polled ones
    obtain ⟨rows', hreported, hkeys, hcount⟩ := filed_report pollResults
      (pollTargets helpers store sgId selectedMacs) hfiled
    have hperm : (rows'.map Prod.fst).Perm
        ((selectedModems store sgId selectedMacs).map SgwCableModemModel.mac) := by
      rw [hkeys]
      exact hsorted
    have hlength := hperm.length_eq
    rw [List.length_map, List.length_map] at hlength
    rw [sysDescrGroup, hentry, ← hperm.nodup_iff]
    apply hreported.wellCounted_iff
    rw [hcount, hturns, hlength]
    exact Nat.zero_add _

/-- The modems to be polled are among the selected ones. -/
theorem nodup_pollTargets
    (hnodup : ((selectedModems store sgId selectedMacs).map SgwCableModemModel.mac).Nodup) :
    ((pollTargets helpers store sgId selectedMacs).map Prod.fst).Nodup := by
  obtain ⟨rows, -, -, hsorted⟩ := @filed_sortOut helpers
    (selectedModems store sgId selectedMacs) ({}, []) _ ModemTally.filed_start
  have hall := hsorted.nodup_iff.mpr hnodup
  exact (List.nodup_append.mp hall).2.1

variable {ask : SysDescrAnswers helpers store sgId selectedMacs}

/-- Polls of all the targets, in any order, leave each target's own result under its address. -/
theorem lookup_filePolls
    (hnodup : ((selectedModems store sgId selectedMacs).map SgwCableModemModel.mac).Nodup)
    {order : List (PollFuture helpers store sgId selectedMacs × Option SystemDescriptorModel)}
    (hall : (order.map Prod.fst).Perm (List.finRange _))
    (hresults : ∀ poll ∈ order,
      poll.2 = pollResult helpers store sgId selectedMacs communities ask poll.1)
    (future : PollFuture helpers store sgId selectedMacs) :
    (filePolls helpers store sgId selectedMacs order).lookup
        ((pollTargets helpers store sgId selectedMacs).get future).1 =
      some (pollResult helpers store sgId selectedMacs communities ask future) := by
  have hfst : Function.Injective fun future : PollFuture helpers store sgId selectedMacs =>
      ((pollTargets helpers store sgId selectedMacs).get future).1 := by
    intro i j hij
    -- no two targets have one MAC address
    have hmacs : ((pollTargets helpers store sgId selectedMacs).map Prod.fst).Nodup :=
      nodup_pollTargets hnodup
    have hget := List.nodup_iff_injective_get.mp (List.Nodup.of_map _ hmacs)
    exact hget (List.inj_on_of_nodup_map hmacs (List.get_mem _ i) (List.get_mem _ j) hij)
  have honce : (order.map Prod.fst).Nodup := hall.nodup_iff.mpr (List.nodup_finRange _)
  have hmem : future ∈ order.map Prod.fst := hall.mem_iff.mpr (List.mem_finRange future)
  obtain ⟨poll, hpoll, rfl⟩ := List.mem_map.mp hmem
  rw [← hresults poll hpoll]
  exact OrderedDict.lookup_foldl_insert_map hfst honce hpoll

/-- The group depends on the polls only by what they have left for the targets. -/
theorem sysDescrGroup_congr {first second : PollResults}
    (hsame : ∀ target ∈ pollTargets helpers store sgId selectedMacs,
      first.lookup target.1 = second.lookup target.1) :
    sysDescrGroup helpers store sgId selectedMacs first =
      sysDescrGroup helpers store sgId selectedMacs second := by
  have hfold : (pollTargets helpers store sgId selectedMacs).foldl (report first)
        (sortedOut helpers store sgId selectedMacs).1 =
      (pollTargets helpers store sgId selectedMacs).foldl (report second)
        (sortedOut helpers store sgId selectedMacs).1 := by
    apply List.foldl_ext
    intro tally target htarget
    rw [report, report, hsame target htarget]
  cases hentry : store.getEntry sgId with
  | none => rw [sysDescrGroup, sysDescrGroup, hentry]
  | some entry =>
    rw [sysDescrGroup, sysDescrGroup, hentry]
    exact congrArg (fun tally : SysDescrTally =>
      tally.group sgId noSysdescrResponsesMessage) hfold

variable (helpers store sgId selectedMacs communities ask) in
/-- The counts of the group fit its entries, and the threads make the same group as the loop, in
whatever order they finish. -/
structure SysDescrCounted : Prop where
  sequential : ∀ as group,
    collectSysDescrForSg helpers store sgId selectedMacs communities ask false as = some group →
      group.WellCounted
  threaded : ∀ as group,
    collectSysDescrForSg helpers store sgId selectedMacs communities ask true as = some group →
      group.WellCounted ∧
        collectSysDescrForSg helpers store sgId selectedMacs communities ask false as = some group

theorem collectSysDescrForSg_sequential
    (as : List (Action (PollFuture helpers store sgId selectedMacs))) :
    collectSysDescrForSg helpers store sgId selectedMacs communities ask false as =
      some (sysDescrGroup helpers store sgId selectedMacs
        (pollSequentially helpers store sgId selectedMacs communities ask)) := by
  rw [collectSysDescrForSg, if_neg (fun h => Bool.false_ne_true h.1)]

/-- The threads have polled every target once when they have ended. -/
theorem pollThreaded_spec {as : List (Action (PollFuture helpers store sgId selectedMacs))}
    {pollResults : PollResults}
    (hended : pollThreaded helpers store sgId selectedMacs communities ask as = some pollResults) :
    ∃ taken, pollResults = filePolls helpers store sgId selectedMacs taken ∧
      (taken.map Prod.fst).Perm (List.finRange _) ∧ ∀ poll ∈ taken,
        poll.2 = pollResult helpers store sgId selectedMacs communities ask poll.1 := by
  have hsound := Pool.sound_exec (pollPool helpers store sgId selectedMacs communities ask) as
  rw [pollThreaded] at hended
  split at hended
  case h_2 => cases hended
  rename_i taken hreturned
  have hphase := hsound.phase
  rw [hreturned] at hphase
  refine ⟨taken, (Option.some.inj hended).symm, (hsound.returned rfl hreturned).1, ?_⟩
  intro poll hpoll
  exact (Except.ok.inj (hphase.2.1.outcome poll hpoll).2).symm

/-- The threads come to an end, as no poll raises. -/
theorem exists_collected (as : List (Action (PollFuture helpers store sgId selectedMacs))) :
    ∃ bs group, collectSysDescrForSg helpers store sgId selectedMacs communities ask true
      (as ++ bs) = some group := by
  have hsound := Pool.sound_exec (pollPool helpers store sgId selectedMacs communities ask) as
  obtain ⟨bs, hbs⟩ := Pool.exists_ended hsound
  rw [← LabelledRun.exec_append] at hbs
  refine ⟨bs, ?_⟩
  by_cases hthreaded : true = true ∧ pollTargets helpers store sgId selectedMacs ≠ []
  · have hall := Pool.sound_exec (pollPool helpers store sgId selectedMacs communities ask)
      (as ++ bs)
    obtain ⟨taken, hreturned⟩ := (hall.returned_iff rfl hbs).mpr fun future _ => ⟨_, rfl⟩
    rw [collectSysDescrForSg, if_pos hthreaded, pollThreaded, hreturned]
    exact ⟨_, rfl⟩
  · rw [collectSysDescrForSg, if_neg hthreaded]
    exact ⟨_, rfl⟩

theorem sysDescr_counted_iff :
    SysDescrCounted helpers store sgId selectedMacs communities ask ↔
      ((selectedModems store sgId selectedMacs).map SgwCableModemModel.mac).Nodup := by
  constructor
  · intro hcounted
    have hgroup := hcounted.sequential [] _ (collectSysDescrForSg_sequential [])
    exact (sysDescrGroup_wellCounted_iff _).mp hgroup
  · intro hnodup
    refine ⟨?_, ?_⟩
    · intro as group hgroup
      rw [collectSysDescrForSg_sequential] at hgroup
      rw [← Option.some.inj hgroup]
      exact (sysDescrGroup_wellCounted_iff _).mpr hnodup
    · intro as group hgroup
      rw [collectSysDescrForSg_sequential]
      rw [collectSysDescrForSg] at hgroup
      split at hgroup
      -- without a target no thread is started, and the loop's group is returned
      case isFalse =>
        refine ⟨?_, hgroup⟩
        rw [← Option.some.inj hgroup]
        exact (sysDescrGroup_wellCounted_iff _).mpr hnodup
      obtain ⟨pollResults, hpolled, rfl⟩ := Option.map_eq_some_iff.mp hgroup
      obtain ⟨taken, rfl, hall, hresults⟩ := pollThreaded_spec hpolled
      refine ⟨(sysDescrGroup_wellCounted_iff _).mpr hnodup, congrArg some ?_⟩
      -- either way each target finds its own result
      apply sysDescrGroup_congr
      intro target htarget
      obtain ⟨future, rfl⟩ := List.mem_iff_get.mp htarget
      rw [lookup_filePolls hnodup hall hresults future]
      apply lookup_filePolls hnodup
      · rw [List.map_map]
        exact (List.map_id _).symm ▸ List.Perm.refl _
      · intro poll hpoll
        obtain ⟨polled, -, rfl⟩ := List.mem_map.mp hpoll
        rfl

end SysDescrCounts

section ResetCounts
variable {resetNowFailed pingFailed : ServiceStatusCode} {helpers : InetHelpers}
  {answers : ℕ → ResetAnswers}

theorem filed_resetModems (rows : List (SgwCableModemModel × ℕ))
    {tally out : ModemTally ServingGroupDocsDevResetNowModemModel}
    {filed : List (MacAddressStr × ServingGroupDocsDevResetNowModemModel)}
    (h : tally.Filed filed)
    (hran : rows.foldlM (resetModem resetNowFailed pingFailed helpers answers) tally = .ok out) :
    ∃ filed', out.Filed filed' ∧
      filed'.map Prod.fst = filed.map Prod.fst ++ rows.map (fun row => row.1.mac) ∧
      out.modemCount = tally.modemCount+rows.length := by
  induction rows generalizing tally filed with
  | nil =>
    cases hran
    exact ⟨filed, h, (List.append_nil _).symm, rfl⟩
  | cons row rows ih =>
    rw [List.foldlM_cons] at hran
    cases hentry : executeDocsDevResetForModem resetNowFailed pingFailed (answers row.2)
        (normalizeModemIp helpers row.1) with
    -- an exception of a ping ends the whole loop
    | error exc =>
      rw [resetModem, hentry] at hran
      cases hran
    | ok entry =>
      rw [resetModem, hentry] at hran
      obtain ⟨filed', hfiled, hkeys, hcount⟩ :=
        ih (h.turn.file row.1.mac entry (entry.status = .success)) hran
      refine ⟨filed', hfiled, ?_, ?_⟩
      · rw [hkeys, List.map_append, List.append_assoc]
        rfl
      · rw [hcount, List.length_cons]
        simp only [ModemTally.file, ModemTally.turn]
        omega

variable {store : SgwCacheStore} {sgId : ServiceGroupId} {selectedMacs : List MacAddressStr}

theorem reset_wellCounted_iff {group : ServingGroupDocsDevResetNowGroupModel}
    (hcollected : collectDocsDevResetForSg resetNowFailed pingFailed helpers store sgId
      selectedMacs answers = .ok group) :
    group.WellCounted ↔
      ((selectedModems store sgId selectedMacs).map SgwCableModemModel.mac).Nodup := by
  cases hentry : store.getEntry sgId with
  | none =>
    rw [collectDocsDevResetForSg, hentry] at hcollected
    rw [selectedModems_of_missing hentry, ← Except.ok.inj hcollected]
    exact iff_of_true (missingGroup_wellCounted sgId) List.nodup_nil
  | some entry =>
    rw [collectDocsDevResetForSg, hentry] at hcollected
    cases hran : (selectedModems store sgId selectedMacs).zipIdx.foldlM
        (resetModem resetNowFailed pingFailed helpers answers) {} with
    | error exc =>
      simp only [hran] at hcollected
      cases hcollected
    | ok tally =>
      simp only [hran] at hcollected
      obtain ⟨filed, hfiled, hkeys, hcount⟩ :=
        filed_resetModems _ ModemTally.filed_start hran
      have hmacs : filed.map Prod.fst =
          (selectedModems store sgId selectedMacs).map SgwCableModemModel.mac := by
        have hrows : ((selectedModems store sgId selectedMacs).zipIdx.map fun row => row.1.mac) =
            ((selectedModems store sgId selectedMacs).zipIdx.map Prod.fst).map
              SgwCableModemModel.mac := (List.map_map).symm
        rw [hkeys, List.map_nil, List.nil_append, hrows, List.zipIdx_map_fst]
      have hlength := congrArg List.length hmacs
      rw [List.length_map, List.length_map] at hlength
      rw [← Except.ok.inj hcollected, ← hmacs]
      apply hfiled.wellCounted_iff
      rw [hcount, hlength, List.length_zipIdx]
      exact Nat.zero_add _

end ResetCounts

/-- For either operation, whatever its modems answer and however its threads are scheduled, the
counts are right exactly when no address is selected twice. -/
theorem modem_counts_iff (helpers : InetHelpers) (store : SgwCacheStore) (sgId : ServiceGroupId)
    (selectedMacs : List MacAddressStr) (communities : List SnmpCommunity)
    (ask : SysDescrAnswers helpers store sgId selectedMacs)
    (resetNowFailed pingFailed : ServiceStatusCode) (answers : ℕ → ResetAnswers) :
    (SysDescrCounted helpers store sgId selectedMacs communities ask ↔
      ((selectedModems store sgId selectedMacs).map SgwCableModemModel.mac).Nodup) ∧
    (∀ as, ∃ bs group, collectSysDescrForSg helpers store sgId selectedMacs communities ask true
      (as ++ bs) = some group) ∧
    ∀ group, collectDocsDevResetForSg resetNowFailed pingFailed helpers store sgId selectedMacs
      answers = .ok group → (group.WellCounted ↔
        ((selectedModems store sgId selectedMacs).map SgwCableModemModel.mac).Nodup) :=
  ⟨sysDescr_counted_iff, exists_collected, fun _ hcollected => reset_wellCounted_iff hcollected⟩

section TwoRows

/-- Two rows of a group, at two addresses. -/
def twoRows (firstMac secondMac : MacAddressStr) : SgwCacheStore :=
  ServingGroupCacheService.cachedStore
    { sgId := 1
      cableModems := [{ mac := firstMac, ipv4 := "10.0.0.1" },
        { mac := secondMac, ipv4 := "10.0.0.2" }] }

def plainHelpers : InetHelpers where
  hexToInet _ := none
  inet := some

/-- The modem resets, and does not answer the first ping. -/
def promptAnswers : ResetAnswers where
  send := .ok true
  build _ := .ok ()
  reachable _ := .ok false
  fallback _ := .ok false

def describedAnswers (store : SgwCacheStore) : SysDescrAnswers plainHelpers store 1 [] :=
  fun _ _ => .ok { isEmpty := false, fields := [("HW_REV", "1.0")] }

theorem modem_counts_distinct :
    SysDescrCounted plainHelpers (twoRows "02:00:00:00:00:01" "02:00:00:00:00:02") 1 [] ["public"]
      (describedAnswers _) ∧
    ∃ group, collectDocsDevResetForSg (.other 1) (.other 2) plainHelpers
      (twoRows "02:00:00:00:00:01" "02:00:00:00:00:02") 1 [] (fun _ => promptAnswers) =
        .ok group ∧ group.WellCounted := by
  have hnodup : ((selectedModems (twoRows "02:00:00:00:00:01" "02:00:00:00:00:02") 1 []).map
      SgwCableModemModel.mac).Nodup := by decide
  have hcounts := modem_counts_iff plainHelpers
    (twoRows "02:00:00:00:00:01" "02:00:00:00:00:02") 1 [] ["public"] (describedAnswers _)
    (.other 1) (.other 2) fun _ => promptAnswers
  refine ⟨hcounts.1.mpr hnodup, _, rfl, ?_⟩
  exact (hcounts.2.2 _ rfl).mpr hnodup

/-- Of two rows with one address there is one entry, but both are counted. -/
theorem modem_counts_repeated :
    ¬SysDescrCounted plainHelpers (twoRows "02:00:00:00:00:01" "02:00:00:00:00:01") 1 []
      ["public"] (describedAnswers _) ∧
    ∃ group, collectDocsDevResetForSg (.other 1) (.other 2) plainHelpers
      (twoRows "02:00:00:00:00:01" "02:00:00:00:00:01") 1 [] (fun _ => promptAnswers) =
        .ok group ∧ group.modemCount = 2 ∧ group.modems.entries.length = 1 := by
  refine ⟨?_, _, rfl, rfl, rfl⟩
  intro hcounted
  have hrepeated : ¬((selectedModems (twoRows "02:00:00:00:00:01" "02:00:00:00:00:01") 1 []).map
      SgwCableModemModel.mac).Nodup := by decide
  exact hrepeated (sysDescr_counted_iff.mp hcounted)

end TwoRows
end ServingGroupCableModemOperationsService
end PypnmCmts
