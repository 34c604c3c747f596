import Mathlib.Tactic.Linarith
import PypnmCmts.SgwMetadata

/-! Snapshot times, ages and the refresh wait: what they say of the last successful refresh. -/
namespace PypnmCmts

/-! The refresh wait of `api/routes/serving_group/operations/service.py`. -/

def snapshotBaseline (sgIds : List ServiceGroupId) (store : SgwCacheStore) :
    OrderedDict ServiceGroupId ℚ :=
  sgIds.foldl (fun baseline sgId => baseline.insert sgId
    (match store.getEntry sgId with
      | none => 0
      | some entry => entry.metadata.snapshotTimeEpoch)) .empty

def snapshotAdvanced (sgIds : List ServiceGroupId) (store : SgwCacheStore)
    (baseline : OrderedDict ServiceGroupId ℚ) : Bool :=
  sgIds.any fun sgId =>
    match store.getEntry sgId with
    | none => false
    | some entry =>
      (baseline.lookup sgId).getD 0 < entry.metadata.snapshotTimeEpoch &&
        0 < entry.metadata.snapshotTimeEpoch

/-! What the log says of a group in the active store. -/

/-- The time of the last successful refresh. -/
def lastSuccess (sgId : ServiceGroupId) : List SgwEvent → Option ℚ
  | [] => none
  | .restarted _ :: _ => none
  | .refreshed a _ nowEpoch :: log => if a = sgId then some nowEpoch else lastSuccess sgId log
  | _ :: log => lastSuccess sgId log

/-- The time at which the age was last evaluated. -/
def evaluatedAt (sgId : ServiceGroupId) : List SgwEvent → Option ℚ
  | [] => none
  | .restarted _ :: _ => none
  | .refreshed a _ nowEpoch :: log => if a = sgId then some nowEpoch else evaluatedAt sgId log
  | .failed a nowEpoch :: log => if a = sgId then some nowEpoch else evaluatedAt sgId log
  | .settled a nowEpoch :: log => if a = sgId then some nowEpoch else evaluatedAt sgId log
  | _ :: log => evaluatedAt sgId log

/-- The number of successful refreshes, in this store and in those before it. -/
def successes (sgId : ServiceGroupId) : List SgwEvent → ℕ
  | [] => 0
  | .refreshed a _ _ :: log => if a = sgId then successes sgId log+1 else successes sgId log
  | _ :: log => successes sgId log

/-- The time of the last cycle. -/
def lastBegan : List SgwEvent → ℚ
  | [] => 0
  | .began nowEpoch _ :: _ => nowEpoch
  | _ :: log => lastBegan log

/-- The poll of a turn raises. -/
def SgwPollers.Raise (pollers : SgwPollers) (turn : SgwTurn) : Prop :=
  (turn.refreshMode = .heavy ∧ ∃ exc, pollers.heavy turn.sgId = .error exc) ∨
    turn.refreshMode = .light ∧
      ∃ exc, pollers.light turn.sgId turn.entry.snapshot.cableModems = .error exc

namespace SgwWorld

/-- The clock of the refresh loop does not go back. -/
def ClockForward (w : SgwWorld) : SgwAction → Prop
  | .begin nowEpoch => lastBegan w.log ≤ nowEpoch
  | _ => True

/-- No poll fails later than the last success of its group, and no reader looks while the poll
for which an entry was created is in progress. -/
def NoLateFailure (w : SgwWorld) : SgwAction → Prop
  | .poll pollers => ∀ turn rest, w.pc = .polling turn rest → pollers.Raise turn →
      turn.nowEpoch ≤ (lastSuccess turn.sgId w.log).getD 0
  | .read sgIds => ∀ turn rest, w.pc = .polling turn rest → turn.sgId ∈ sgIds →
      lastSuccess turn.sgId w.log ≠ none ∨ turn.entry.metadata.snapshotTimeEpoch ≤ 0
  | _ => True

/-- The time, the age and the state of an entry are those of its last successful refresh. -/
def HonestEntry (maxAge : ℕ) (log : List SgwEvent) (sgId : ServiceGroupId)
    (d : SgwCacheMetadataModel) (t : ℚ) : Prop :=
  d.snapshotTimeEpoch = t ∧ ∃ now, evaluatedAt sgId log = some now ∧ d.ageSeconds = now-t ∧
    (maxAge ≤ d.ageSeconds → d.refreshState = .stale ∨ d.refreshState = .error)

/-- Every entry with a successful refresh is honest. -/
def Honest (w : SgwWorld) : Prop :=
  ∀ sgId d t, w.manager.metadataOf sgId = some d → lastSuccess sgId w.log = some t →
    HonestEntry w.manager.settings.cacheMaxAgeSeconds w.log sgId d t

/-- What the steps of a guarded run keep of one group. -/
structure GroupKept (w : SgwWorld) (sgId : ServiceGroupId) : Prop where
  absent : w.manager.metadataOf sgId = none → lastSuccess sgId w.log = none
  honest : ∀ d t, w.manager.metadataOf sgId = some d → lastSuccess sgId w.log = some t →
    t ≤ lastBegan w.log ∧ HonestEntry w.manager.settings.cacheMaxAgeSeconds w.log sgId d t
  never : ∀ d, w.manager.metadataOf sgId = some d → lastSuccess sgId w.log = none →
    d.lastHeavyRefreshEpoch = none ∧
      (d.snapshotTimeEpoch ≤ 0 ∨ ∃ turn rest, w.pc = .polling turn rest ∧ turn.sgId = sgId)

/-- What the steps of a guarded run keep of the turn being taken. -/
structure TurnKept (w : SgwWorld) : Prop where
  top : ∀ nowEpoch rest, w.pc = .groupTop nowEpoch rest → nowEpoch = lastBegan w.log
  time : ∀ turn, w.pc.turn = some turn → turn.nowEpoch = lastBegan w.log
  entry : ∀ turn rest, w.pc = .polling turn rest →
    w.manager.metadataOf turn.sgId = some turn.entry.metadata ∧
      (turn.refreshMode = .none → turn.entry.metadata.lastHeavyRefreshEpoch ≠ none)

section Log
variable {sgId : ServiceGroupId} {turn : SgwTurn} {error : Option String} {log : List SgwEvent}

/-! What the end of a poll does to the readings of the log. -/

theorem lastBegan_pollEvents : lastBegan (pollEvents turn error ++ log) = lastBegan log := by
  unfold pollEvents
  split_ifs <;> rfl

theorem lastSuccess_pollEvents_of_ne (hid : sgId ≠ turn.sgId) :
    lastSuccess sgId (pollEvents turn error ++ log) = lastSuccess sgId log := by
  unfold pollEvents
  split_ifs
  · rfl
  · exact if_neg (Ne.symm hid)
  · rfl

theorem evaluatedAt_pollEvents_of_ne (hid : sgId ≠ turn.sgId) :
    evaluatedAt sgId (pollEvents turn error ++ log) = evaluatedAt sgId log := by
  unfold pollEvents
  split_ifs
  · rfl
  · exact if_neg (Ne.symm hid)
  · exact if_neg (Ne.symm hid)

theorem successes_pollEvents_of_ne (hid : sgId ≠ turn.sgId) :
    successes sgId (pollEvents turn error ++ log) = successes sgId log := by
  unfold pollEvents
  split_ifs
  · rfl
  · exact if_neg (Ne.symm hid)
  · rfl

end Log

/-- A poll that leaves an error was raised by the poller. -/
theorem raise_of_failed {pollers : SgwPollers} {turn : SgwTurn} {exc : String}
    (hmode : turn.refreshMode ≠ .none)
    (hheavy : turn.refreshMode = .heavy → pollers.heavy turn.sgId = .error exc)
    (hlight : turn.refreshMode = .light →
      pollers.light turn.sgId turn.entry.snapshot.cableModems = .error exc) :
    pollers.Raise turn := by
  cases hcase : turn.refreshMode with
  | none => exact absurd hcase hmode
  | heavy => exact Or.inl ⟨hcase, exc, hheavy hcase⟩
  | light => exact Or.inr ⟨hcase, exc, hlight hcase⟩

/-- A turn that polls nothing is one of a group that has been polled heavily. -/
theorem lastHeavy_of_mode_none {settings : SgwSettings} {metadata : SgwCacheMetadataModel}
    {jitterSeconds : ℕ} {requested : Option CacheRefreshMode} {nowEpoch : ℚ}
    (h : SgwManager.chooseMode settings metadata jitterSeconds requested nowEpoch = .none) :
    metadata.lastHeavyRefreshEpoch ≠ none := by
  intro hnone
  rw [SgwManager.chooseMode, hnone, SgwManager.isRefreshDue, if_pos (rfl : true = true)] at h
  split_ifs at h

/-- What the poll of a turn does to the entry of its group and to the log. -/
inductive OwnPoll (w : SgwWorld) (pollers : SgwPollers) (turn : SgwTurn)
    (before : SgwCacheMetadataModel) (w' : SgwWorld) : Prop
  | skipped (hmode : turn.refreshMode = .none)
      (hafter : w'.manager.metadataOf turn.sgId = some before) (hlog : w'.log = w.log)
  | answered (after : SgwCacheMetadataModel)
      (hafter : w'.manager.metadataOf turn.sgId = some after)
      (htime : after.snapshotTimeEpoch = turn.nowEpoch) (hage : after.ageSeconds = 0)
      (hlog : w'.log = .refreshed turn.sgId turn.refreshMode turn.nowEpoch :: w.log)
  | raised (lastError : Option String) (hraise : pollers.Raise turn)
      (hafter : w'.manager.metadataOf turn.sgId = some { before with
        snapshotTimeEpoch := turn.nowEpoch, ageSeconds := 0, refreshState := .error, lastError })
      (hlog : w'.log = .failed turn.sgId turn.nowEpoch :: w.log)

theorem ownPoll_stepPoll {w : SgwWorld} (pollers : SgwPollers) {turn : SgwTurn}
    {before : SgwCacheMetadataModel} (rest : List ServiceGroupId)
    (h : w.manager.metadataOf turn.sgId = some before) :
    OwnPoll w pollers turn before (w.stepPoll pollers turn rest) := by
  obtain ⟨after, hafter, hpolled⟩ := SgwManager.metadataOf_pollTurn pollers h
  have hafter' : (w.stepPoll pollers turn rest).manager.metadataOf turn.sgId = some after := hafter
  generalize herror : (w.manager.pollTurn pollers turn).1 = error at hpolled
  have hlog : (w.stepPoll pollers turn rest).log = pollEvents turn error ++ w.log := by
    rw [stepPoll, herror]
  cases hpolled with
  | skipped hskip =>
    rw [pollEvents, if_pos hskip] at hlog
    exact .skipped hskip hafter' hlog
  | heavy payload hheavy hanswer =>
    rw [pollEvents, if_neg (by rw [hheavy]; decide), if_pos rfl] at hlog
    exact .answered _ hafter' rfl rfl hlog
  | light modems hlight hanswer =>
    rw [pollEvents, if_neg (by rw [hlight]; decide), if_pos rfl] at hlog
    exact .answered _ hafter' rfl rfl hlog
  | failed exc hsome hheavy hlight =>
    rw [pollEvents, if_neg hsome, if_neg (by intro heq; cases heq)] at hlog
    exact .raised _ (raise_of_failed hsome hheavy hlight) hafter' hlog

section Step
variable {w w' : SgwWorld} {turn : SgwTurn} {rest : List ServiceGroupId} {sgId : ServiceGroupId}
  {nowEpoch : ℚ}

/-- A group is kept by every step that leaves its entry and what the log says of it alone. -/
theorem GroupKept.frame (h : w.GroupKept sgId)
    (hmetadata : w'.manager.metadataOf sgId = w.manager.metadataOf sgId)
    (hsettings : w'.manager.settings = w.manager.settings)
    (hlast : lastSuccess sgId w'.log = lastSuccess sgId w.log)
    (hevaluated : evaluatedAt sgId w'.log = evaluatedAt sgId w.log)
    (hbegan : lastBegan w.log ≤ lastBegan w'.log)
    (hpc : ∀ turn rest, w.pc = .polling turn rest → turn.sgId = sgId →
      ∃ rest', w'.pc = .polling turn rest') : w'.GroupKept sgId := by
  refine ⟨?_, ?_, ?_⟩
  · rw [hmetadata, hlast]
    exact h.absent
  · rw [hmetadata, hlast, hsettings]
    intro d t hd ht
    obtain ⟨hle, hhonest⟩ := h.honest d t hd ht
    rw [HonestEntry, hevaluated]
    exact ⟨hle.trans hbegan, hhonest⟩
  · rw [hmetadata, hlast]
    intro d hd hnone
    obtain ⟨hheavy, hold | ⟨turn, rest, hturn, hid⟩⟩ := h.never d hd hnone
    · exact ⟨hheavy, Or.inl hold⟩
    · obtain ⟨rest', hturn'⟩ := hpc turn rest hturn hid
      exact ⟨hheavy, Or.inr ⟨turn, rest', hturn', hid⟩⟩

/-- A group with an entry is kept if its one entry is. -/
theorem GroupKept.of_entry {d : SgwCacheMetadataModel} (hd : w.manager.metadataOf sgId = some d)
    (honest : ∀ t, lastSuccess sgId w.log = some t → t ≤ lastBegan w.log ∧
      HonestEntry w.manager.settings.cacheMaxAgeSeconds w.log sgId d t)
    (never : lastSuccess sgId w.log = none → d.lastHeavyRefreshEpoch = none ∧
      (d.snapshotTimeEpoch ≤ 0 ∨ ∃ turn rest, w.pc = .polling turn rest ∧ turn.sgId = sgId)) :
    w.GroupKept sgId := by
  refine ⟨?_, ?_, ?_⟩
  · intro hnone
    rw [hd] at hnone
    cases hnone
  · intro d' t hd' ht
    obtain rfl : d = d' := Option.some.inj (hd.symm.trans hd')
    exact honest t ht
  · intro d' hd' hnone
    obtain rfl : d = d' := Option.some.inj (hd.symm.trans hd')
    exact never hnone

theorem groupKept_take (h : ∀ sgId, w.GroupKept sgId)
    (hpc : w.pc = .groupTop nowEpoch (sgId :: rest)) (a : ServiceGroupId) :
    (w.stepTake nowEpoch sgId rest).GroupKept a := by
  have hsettings := settings_step w .take
  have hstep : w.step .take = w.stepTake nowEpoch sgId rest := by simp only [step, hpc]
  rw [hstep] at hsettings
  have hnot : ∀ turn before, w.pc = .polling turn before → turn.sgId = a →
      ∃ after, (w.stepTake nowEpoch sgId rest).pc = .polling turn after := by
    intro turn before hturn
    rw [hpc] at hturn
    cases hturn
  have hmetadata : (w.stepTake nowEpoch sgId rest).manager.metadataOf a =
      if a = sgId then some ((w.manager.metadataOf sgId).getD (SgwManager.newMetadata nowEpoch))
      else w.manager.metadataOf a := SgwManager.metadataOf_beginTurn _ _ _ _
  by_cases ha : a = sgId
  · subst ha
    rw [if_pos rfl] at hmetadata
    cases hold : w.manager.metadataOf a with
    | some d =>
      rw [hold, Option.getD_some, ← hold] at hmetadata
      exact (h a).frame hmetadata hsettings rfl rfl (le_refl _) hnot
    | none =>
      -- a new entry, which this turn polls
      rw [hold, Option.getD_none] at hmetadata
      have hlast : lastSuccess a (w.stepTake nowEpoch a rest).log = none := (h a).absent hold
      refine .of_entry hmetadata ?_ ?_
      · intro t ht
        rw [hlast] at ht
        cases ht
      · intro hnone
        refine ⟨rfl, Or.inr ⟨_, rest, rfl, ?_⟩⟩
        rw [SgwManager.beginTurn_turn]
  · rw [if_neg ha] at hmetadata
    exact (h a).frame hmetadata hsettings rfl rfl (le_refl _) hnot

theorem groupKept_ownPoll (pollers : SgwPollers) (hturn : w.TurnKept) (h : w.GroupKept turn.sgId)
    (hpc : w.pc = .polling turn rest)
    (hguard : pollers.Raise turn → turn.nowEpoch ≤ (lastSuccess turn.sgId w.log).getD 0) :
    (w.stepPoll pollers turn rest).GroupKept turn.sgId := by
  have hsettings := settings_step w (.poll pollers)
  have hstep : w.step (.poll pollers) = w.stepPoll pollers turn rest := by simp only [step, hpc]
  rw [hstep] at hsettings
  have hnow : turn.nowEpoch = lastBegan w.log := hturn.time turn (by rw [hpc]; rfl)
  obtain ⟨hentry, hmode⟩ := hturn.entry turn rest hpc
  have hpositive : (0 : ℚ) < w.manager.settings.cacheMaxAgeSeconds := Nat.cast_pos.mpr
    (w.manager.settings.light_pos.trans_le w.manager.settings.light_le_maxAge)
  have hpolled := ownPoll_stepPoll pollers rest hentry
  generalize w.stepPoll pollers turn rest = w' at hpolled hsettings ⊢
  cases hpolled with
  | skipped hskip hafter hlog =>
    refine .of_entry hafter ?_ ?_
    · intro t ht
      rw [hlog] at ht ⊢
      rw [hsettings]
      exact h.honest _ t hentry ht
    · -- the group has been polled heavily, so its entry is not a new one
      intro hnone
      rw [hlog] at hnone
      exact absurd (h.never _ hentry hnone).1 (hmode hskip)
  | answered after hafter htime hage hlog =>
    have hlast : lastSuccess turn.sgId w'.log = some turn.nowEpoch := by
      rw [hlog]
      exact if_pos rfl
    refine .of_entry hafter ?_ ?_
    · intro t ht
      obtain rfl : turn.nowEpoch = t := Option.some.inj (hlast.symm.trans ht)
      rw [hlog, hsettings]
      refine ⟨hnow.le, htime, turn.nowEpoch, if_pos rfl, ?_, ?_⟩
      · rw [hage, sub_self]
      · intro hle
        rw [hage] at hle
        exact absurd hpositive (not_lt.mpr hle)
    · intro hnone
      rw [hlast] at hnone
      cases hnone
  | raised lastError hraise hafter hlog =>
    have hlate := hguard hraise
    refine .of_entry hafter ?_ ?_
    · intro t ht
      rw [hlog] at ht ⊢
      have ht' : lastSuccess turn.sgId w.log = some t := ht
      -- the failure is at the time of the last success
      have hle := (h.honest _ t hentry ht').1
      rw [ht', Option.getD_some] at hlate
      have htime : turn.nowEpoch = t := le_antisymm hlate (hnow ▸ hle)
      refine ⟨hle, htime, turn.nowEpoch, if_pos rfl, ?_, fun _ => Or.inr rfl⟩
      rw [htime, sub_self]
    · intro hnone
      rw [hlog] at hnone
      have hnone' : lastSuccess turn.sgId w.log = none := hnone
      rw [hnone', Option.getD_none] at hlate
      exact ⟨(h.never _ hentry hnone').1, Or.inl hlate⟩

theorem groupKept_poll (pollers : SgwPollers) (hturn : w.TurnKept) (h : ∀ sgId, w.GroupKept sgId)
    (hpc : w.pc = .polling turn rest)
    (hguard : pollers.Raise turn → turn.nowEpoch ≤ (lastSuccess turn.sgId w.log).getD 0)
    (a : ServiceGroupId) : (w.stepPoll pollers turn rest).GroupKept a := by
  by_cases ha : a = turn.sgId
  · subst ha
    exact groupKept_ownPoll pollers hturn (h turn.sgId) hpc hguard
  · have hsettings := settings_step w (.poll pollers)
    have hstep : w.step (.poll pollers) = w.stepPoll pollers turn rest := by simp only [step, hpc]
    rw [hstep] at hsettings
    have hmetadata : (w.stepPoll pollers turn rest).manager.metadataOf a =
        w.manager.metadataOf a := SgwManager.metadataOf_pollTurn_of_ne ha
    refine (h a).frame hmetadata hsettings ?_ ?_ ?_ ?_
    · exact lastSuccess_pollEvents_of_ne ha
    · exact evaluatedAt_pollEvents_of_ne ha
    · exact lastBegan_pollEvents.ge
    · intro turn' rest' hturn' hid
      rw [hpc] at hturn'
      cases hturn'
      exact absurd hid.symm ha

theorem groupKept_settle {error : Option String} (hturn : w.TurnKept)
    (h : ∀ sgId, w.GroupKept sgId) (hheld : w.Held) (hpc : w.pc = .settling turn error rest)
    (a : ServiceGroupId) : (w.stepSettle turn error rest).GroupKept a := by
  have hsettings := settings_step w .settle
  have hstep : w.step .settle = w.stepSettle turn error rest := by simp only [step, hpc]
  rw [hstep] at hsettings
  have hnow : turn.nowEpoch = lastBegan w.log := hturn.time turn (by rw [hpc]; rfl)
  obtain ⟨before, hbefore⟩ := hheld turn (by rw [hpc]; rfl)
  have hmetadata : (w.stepSettle turn error rest).manager.metadataOf a = if a = turn.sgId then
      some (SgwManager.settledMetadata w.manager.settings turn.nowEpoch before).2
      else w.manager.metadataOf a := SgwManager.metadataOf_settleTurn error hbefore
  by_cases ha : a = turn.sgId
  · subst ha
    obtain ⟨state, hsettled, hfresh⟩ :=
      SgwManager.settledMetadata_spec w.manager.settings turn.nowEpoch before
    rw [if_pos rfl, hsettled] at hmetadata
    refine .of_entry hmetadata ?_ ?_
    · intro t ht
      obtain ⟨hle, htime, -⟩ := (h turn.sgId).honest before t hbefore ht
      have hage : max 0 (turn.nowEpoch-before.snapshotTimeEpoch) = turn.nowEpoch-t := by
        rw [htime]
        apply max_eq_right
        linarith
      refine ⟨hle, htime, turn.nowEpoch, if_pos rfl, hage, ?_⟩
      intro hstale
      rw [hsettings] at hstale
      cases hstate : state with
      | ok => exact absurd (hfresh hstate) (not_lt.mpr hstale)
      | stale => exact Or.inl rfl
      | error => exact Or.inr rfl
    · intro hnone
      obtain ⟨hheavy, hold | ⟨turn', rest', hturn', -⟩⟩ :=
        (h turn.sgId).never before hbefore hnone
      · exact ⟨hheavy, Or.inl hold⟩
      · rw [hpc] at hturn'
        cases hturn'
  · rw [if_neg ha] at hmetadata
    refine (h a).frame hmetadata hsettings rfl ?_ (le_refl _) ?_
    · exact if_neg (Ne.symm ha)
    · intro turn' rest' hturn'
      rw [hpc] at hturn'
      cases hturn'

theorem groupKept_step {a : SgwAction} (hclock : w.ClockForward a) (hguard : w.NoLateFailure a)
    (hheld : w.Held) (hturn : w.TurnKept) (h : ∀ sgId, w.GroupKept sgId) (sgId : ServiceGroupId) :
    (w.step a).GroupKept sgId := by
  have hsettings := settings_step w a
  have hcase := step_case w a
  generalize w.step a = w' at hcase hsettings ⊢
  cases hcase with
  | skip => exact h sgId
  | begin nowEpoch hpc hpositive =>
    refine (h sgId).frame rfl rfl rfl rfl hclock ?_
    intro turn rest hturn
    rw [hpc] at hturn
    cases hturn
  | take nowEpoch a rest hpc => exact groupKept_take h hpc sgId
  | poll pollers turn rest hpc =>
    exact groupKept_poll pollers hturn h hpc (hguard turn rest hpc) sgId
  | settle turn error rest hpc => exact groupKept_settle hturn h hheld hpc sgId
  | request a mode nowEpoch =>
    have hlog (read : List SgwEvent → Option ℚ)
        (hread : ∀ log, read (.accepted a mode :: log) = read log) :
        read (w.stepRequest a mode nowEpoch).log = read w.log := by
      rw [stepRequest]
      split_ifs
      · exact hread _
      · rfl
    refine (h sgId).frame ?_ hsettings (hlog _ fun _ => rfl) (hlog _ fun _ => rfl) ?_ ?_
    · exact SgwManager.metadataOf_requestRefresh _ _ _ _ _
    · rw [stepRequest]
      split_ifs <;> exact le_refl _
    · intro turn rest hturn' hid
      exact ⟨rest, hturn'⟩
  | setServiceGroups serviceGroups =>
    refine (h sgId).frame ?_ hsettings rfl rfl (le_refl _) ?_
    · exact SgwManager.metadataOf_setServiceGroups _ _ _
    · intro turn rest hturn' hid
      exact ⟨rest, hturn'⟩
  | restart hpc =>
    have hnone : w.stepRestart.manager.metadataOf sgId = none :=
      SgwManager.metadataOf_cloneForRestart _ _
    refine ⟨fun _ => rfl, ?_, ?_⟩
    · intro d t hd
      rw [hnone] at hd
      cases hd
    · intro d hd
      rw [hnone] at hd
      cases hd

/-- Between two turns the time of the cycle is all there is to keep. -/
theorem turnKept_loop (hpc : w.pc = loopPc nowEpoch rest) (hnow : nowEpoch = lastBegan w.log) :
    w.TurnKept := by
  refine ⟨?_, ?_, ?_⟩
  · intro now' rest' htop
    rw [hpc] at htop
    cases rest with
    | nil => cases htop
    | cons sgId groups =>
      cases htop
      exact hnow
  · intro turn hturn
    rw [hpc, turn_loopPc] at hturn
    cases hturn
  · intro turn rest' hpolling
    rw [hpc] at hpolling
    exact absurd hpolling (loopPc_ne_polling _ _ _ _)

theorem turnKept_take (hnow : nowEpoch = lastBegan w.log) :
    (w.stepTake nowEpoch sgId rest).TurnKept := by
  have hid : (w.manager.beginTurn nowEpoch sgId).1.sgId = sgId := by
    rw [SgwManager.beginTurn_turn]
  have hentry : (w.manager.beginTurn nowEpoch sgId).1.entry.metadata =
      (w.manager.metadataOf sgId).getD (SgwManager.newMetadata nowEpoch) := by
    rw [SgwManager.beginTurn_turn, SgwManager.metadata_ensureEntry]
  refine ⟨?_, ?_, ?_⟩
  · intro now' rest' htop
    cases htop
  · intro turn hturn'
    cases hturn'
    rw [SgwManager.beginTurn_turn]
    exact hnow
  · intro turn rest' hpolling
    cases hpolling
    refine ⟨?_, ?_⟩
    · rw [stepTake, SgwManager.metadataOf_beginTurn, if_pos hid, hentry]
    · rw [SgwManager.refreshMode_beginTurn, hentry]
      exact lastHeavy_of_mode_none

theorem turnKept_step (a : SgwAction) (hturn : w.TurnKept) : (w.step a).TurnKept := by
  have hcase := step_case w a
  generalize w.step a = w' at hcase ⊢
  cases hcase with
  | skip => exact hturn
  | begin nowEpoch hpc hpositive => exact turnKept_loop rfl rfl
  | take nowEpoch sgId rest hpc => exact turnKept_take (hturn.top nowEpoch _ hpc)
  | poll pollers turn rest hpc =>
    have hnow := hturn.time turn (by rw [hpc]; rfl)
    refine ⟨?_, ?_, ?_⟩
    · intro now' rest' htop
      cases htop
    · intro turn' hturn'
      cases hturn'
      rw [hnow]
      exact lastBegan_pollEvents.symm
    · intro turn' rest' hpolling
      cases hpolling
  | settle turn error rest hpc =>
    exact turnKept_loop rfl (hturn.time turn (by rw [hpc]; rfl))
  | request sgId mode nowEpoch =>
    have hbegan : lastBegan (w.stepRequest sgId mode nowEpoch).log = lastBegan w.log := by
      rw [stepRequest]
      split_ifs <;> rfl
    refine ⟨?_, ?_, ?_⟩
    · rw [hbegan]
      exact hturn.top
    · rw [hbegan]
      exact hturn.time
    · intro turn rest hpolling
      rw [stepRequest, SgwManager.metadataOf_requestRefresh]
      exact hturn.entry turn rest hpolling
  | setServiceGroups serviceGroups =>
    refine ⟨hturn.top, hturn.time, ?_⟩
    intro turn rest hpolling
    rw [SgwManager.metadataOf_setServiceGroups]
    exact hturn.entry turn rest hpolling
  | restart hpc =>
    refine ⟨?_, ?_, ?_⟩
    · intro now' rest' htop
      rw [stepRestart, hpc] at htop
      cases htop
    · intro turn hturn'
      rw [stepRestart, hpc] at hturn'
      cases hturn'
    · intro turn rest' hpolling
      rw [stepRestart, hpc] at hpolling
      cases hpolling

end Step

/-- A waiter has seen the snapshot time `b` and `n` successes of the group. -/
structure Waited (w : SgwWorld) (sgId : ServiceGroupId) (b : ℚ) (n : ℕ) : Prop where
  grown : n ≤ successes sgId w.log
  still : successes sgId w.log = n → ∀ d, w.manager.metadataOf sgId = some d →
    d.snapshotTimeEpoch ≤ b ∨ d.snapshotTimeEpoch ≤ 0 ∨
      lastSuccess sgId w.log = none ∧ ∃ turn rest, w.pc = .polling turn rest ∧ turn.sgId = sgId

section Wait
variable {w w' : SgwWorld} {turn : SgwTurn} {rest : List ServiceGroupId} {sgId : ServiceGroupId}
  {b : ℚ} {n : ℕ}

theorem Waited.frame (h : w.Waited sgId b n)
    (hmetadata : w'.manager.metadataOf sgId = w.manager.metadataOf sgId)
    (hlast : lastSuccess sgId w'.log = lastSuccess sgId w.log)
    (hcount : successes sgId w'.log = successes sgId w.log)
    (hpc : ∀ turn rest, w.pc = .polling turn rest → turn.sgId = sgId →
      ∃ rest', w'.pc = .polling turn rest') : w'.Waited sgId b n := by
  refine ⟨by rw [hcount]; exact h.grown, ?_⟩
  rw [hcount, hmetadata, hlast]
  intro heq d hd
  rcases h.still heq d hd with hbase | hzero | ⟨hnone, turn, rest, hturn, hid⟩
  · exact Or.inl hbase
  · exact Or.inr (Or.inl hzero)
  · obtain ⟨rest', hturn'⟩ := hpc turn rest hturn hid
    exact Or.inr (Or.inr ⟨hnone, turn, rest', hturn', hid⟩)

theorem waited_poll (pollers : SgwPollers) (hturn : w.TurnKept) (h : w.GroupKept turn.sgId)
    (hpc : w.pc = .polling turn rest)
    (hguard : pollers.Raise turn → turn.nowEpoch ≤ (lastSuccess turn.sgId w.log).getD 0)
    (hwait : w.Waited turn.sgId b n) : (w.stepPoll pollers turn rest).Waited turn.sgId b n := by
  obtain ⟨hentry, hmode⟩ := hturn.entry turn rest hpc
  have hgrown := hwait.grown
  have hpolled := ownPoll_stepPoll pollers rest hentry
  generalize w.stepPoll pollers turn rest = w' at hpolled ⊢
  cases hpolled with
  | skipped hskip hafter hlog =>
    refine ⟨by rw [hlog]; exact hgrown, ?_⟩
    rw [hlog]
    intro heq d hd
    rw [hafter, ← hentry] at hd
    rcases hwait.still heq d hd with hbase | hzero | ⟨hnone, -⟩
    · exact Or.inl hbase
    · exact Or.inr (Or.inl hzero)
    · exact absurd (h.never _ hentry hnone).1 (hmode hskip)
  | answered after hafter htime hage hlog =>
    -- one success more than the waiter has seen
    have hcount : successes turn.sgId w'.log = successes turn.sgId w.log+1 := by
      rw [hlog]
      exact if_pos rfl
    refine ⟨by omega, ?_⟩
    intro heq
    omega
  | raised lastError hraise hafter hlog =>
    have hlate := hguard hraise
    have hcount : successes turn.sgId w'.log = successes turn.sgId w.log := by
      rw [hlog]
      rfl
    refine ⟨by omega, ?_⟩
    intro heq d hd
    rw [hafter, Option.some.injEq] at hd
    rw [hcount] at heq
    subst hd
    cases hlast : lastSuccess turn.sgId w.log with
    | none =>
      rw [hlast, Option.getD_none] at hlate
      exact Or.inr (Or.inl hlate)
    | some t =>
      -- the failure repeats the time of the last success
      rw [hlast, Option.getD_some] at hlate
      obtain ⟨-, htime, -⟩ := h.honest _ t hentry hlast
      rw [← htime] at hlate
      rcases hwait.still heq _ hentry with hbase | hzero | ⟨hnone, -⟩
      · exact Or.inl (hlate.trans hbase)
      · exact Or.inr (Or.inl (hlate.trans hzero))
      · rw [hlast] at hnone
        cases hnone

theorem waited_take {a : ServiceGroupId} {nowEpoch : ℚ} (h : w.GroupKept sgId)
    (hpc : w.pc = .groupTop nowEpoch (a :: rest)) (hwait : w.Waited sgId b n) :
    (w.stepTake nowEpoch a rest).Waited sgId b n := by
  have hmetadata : (w.stepTake nowEpoch a rest).manager.metadataOf sgId = if sgId = a then
      some ((w.manager.metadataOf a).getD (SgwManager.newMetadata nowEpoch))
      else w.manager.metadataOf sgId := SgwManager.metadataOf_beginTurn _ _ _ _
  have hnot : ∀ turn before, w.pc = .polling turn before → turn.sgId = sgId →
      ∃ after, (w.stepTake nowEpoch a rest).pc = .polling turn after := by
    intro turn before hturn
    rw [hpc] at hturn
    cases hturn
  by_cases ha : sgId = a
  · subst ha
    rw [if_pos rfl] at hmetadata
    cases hold : w.manager.metadataOf sgId with
    | some d =>
      rw [hold, Option.getD_some, ← hold] at hmetadata
      exact hwait.frame hmetadata rfl rfl hnot
    | none =>
      refine ⟨hwait.grown, ?_⟩
      intro _ d hd
      refine Or.inr (Or.inr ⟨h.absent hold, _, rest, rfl, ?_⟩)
      rw [SgwManager.beginTurn_turn]
  · rw [if_neg ha] at hmetadata
    exact hwait.frame hmetadata rfl rfl hnot

theorem waited_settle {error : Option String} (hheld : w.Held)
    (hpc : w.pc = .settling turn error rest) (hwait : w.Waited sgId b n) :
    (w.stepSettle turn error rest).Waited sgId b n := by
  have hnot : ∀ turn' rest', w.pc ≠ .polling turn' rest' := by
    rw [hpc]
    intro _ _ heq
    cases heq
  refine ⟨hwait.grown, ?_⟩
  intro heq d hd
  obtain ⟨old, hold, htime⟩ := snapshotTime_stepSettle hheld hpc hd
  rw [← htime]
  rcases hwait.still heq old hold with hbase | hzero | ⟨-, turn', rest', hturn', -⟩
  · exact Or.inl hbase
  · exact Or.inr (Or.inl hzero)
  · exact absurd hturn' (hnot turn' rest')

theorem waited_step {a : SgwAction} (hguard : w.NoLateFailure a) (hheld : w.Held)
    (hturn : w.TurnKept) (h : w.GroupKept sgId) (hwait : w.Waited sgId b n) :
    (w.step a).Waited sgId b n := by
  have hcase := step_case w a
  generalize w.step a = w' at hcase ⊢
  cases hcase with
  | skip => exact hwait
  | begin nowEpoch hpc hpositive =>
    refine hwait.frame rfl rfl rfl ?_
    intro turn rest hturn
    rw [hpc] at hturn
    cases hturn
  | take nowEpoch a rest hpc => exact waited_take h hpc hwait
  | poll pollers turn rest hpc =>
    by_cases ha : sgId = turn.sgId
    · subst ha
      exact waited_poll pollers hturn h hpc (hguard turn rest hpc) hwait
    · refine hwait.frame ?_ (lastSuccess_pollEvents_of_ne ha) (successes_pollEvents_of_ne ha) ?_
      · exact SgwManager.metadataOf_pollTurn_of_ne ha
      · intro turn' rest' hturn' hid
        rw [hpc] at hturn'
        cases hturn'
        exact absurd hid.symm ha
  | settle turn error rest hpc => exact waited_settle hheld hpc hwait
  | request a mode nowEpoch =>
    have hlast : lastSuccess sgId (w.stepRequest a mode nowEpoch).log =
        lastSuccess sgId w.log := by
      rw [stepRequest]
      split_ifs <;> rfl
    have hcount : successes sgId (w.stepRequest a mode nowEpoch).log = successes sgId w.log := by
      rw [stepRequest]
      split_ifs <;> rfl
    refine hwait.frame ?_ hlast hcount ?_
    · exact SgwManager.metadataOf_requestRefresh _ _ _ _ _
    · intro turn rest hturn' hid
      exact ⟨rest, hturn'⟩
  | setServiceGroups serviceGroups =>
    refine hwait.frame ?_ rfl rfl ?_
    · exact SgwManager.metadataOf_setServiceGroups _ _ _
    · intro turn rest hturn' hid
      exact ⟨rest, hturn'⟩
  | restart hpc =>
    refine ⟨hwait.grown, ?_⟩
    intro _ d hd
    rw [stepRestart, SgwManager.metadataOf_cloneForRestart] at hd
    cases hd

end Wait

/-- The invariant of the guarded runs. -/
structure Kept (w : SgwWorld) : Prop where
  held : w.Held
  turn : w.TurnKept
  group : ∀ sgId, w.GroupKept sgId

theorem kept_init (settings : SgwSettings) (serviceGroups : List ServiceGroupId)
    (jitterProvider : ServiceGroupId → ℕ → ℤ) :
    (init settings serviceGroups jitterProvider).Kept := by
  have hnone (sgId : ServiceGroupId) :
      (init settings serviceGroups jitterProvider).manager.metadataOf sgId = none :=
    SgwManager.metadataOf_create _ _ _ _
  refine ⟨held_init _ _ _, ⟨?_, ?_, ?_⟩, fun sgId => ⟨fun _ => rfl, ?_, ?_⟩⟩
  · intro nowEpoch rest htop
    cases htop
  · intro turn hturn
    cases hturn
  · intro turn rest hpolling
    cases hpolling
  · intro d t hd
    rw [hnone] at hd
    cases hd
  · intro d hd
    rw [hnone] at hd
    cases hd

theorem kept_step {w : SgwWorld} {a : SgwAction} (hguard : w.ClockForward a ∧ w.NoLateFailure a)
    (h : w.Kept) : (w.step a).Kept :=
  ⟨held_step w a h.held, turnKept_step a h.turn,
    groupKept_step hguard.1 hguard.2 h.held h.turn h.group⟩

theorem snapshotAdvanced_iff {sgIds : List ServiceGroupId} {w w' : SgwWorld} :
    snapshotAdvanced sgIds w'.manager.store (snapshotBaseline sgIds w.manager.store) = true ↔
      ∃ sgId ∈ sgIds, ∃ d, w'.manager.metadataOf sgId = some d ∧ 0 < d.snapshotTimeEpoch ∧
        ((w.manager.metadataOf sgId).map (·.snapshotTimeEpoch)).getD 0 < d.snapshotTimeEpoch := by
  unfold snapshotAdvanced snapshotBaseline
  simp only [List.any_eq_true, OrderedDict.lookup_foldl_insert]
  apply exists_congr
  intro sgId
  apply and_congr_right
  intro hmem
  rw [if_pos hmem, Option.getD_some, SgwManager.metadataOf, SgwManager.metadataOf]
  cases w'.manager.store.getEntry sgId with
  | none => simp
  | some entry =>
    cases w.manager.store.getEntry sgId with
    | none => simp
    | some before => simp [and_comm]

/-- In every run in which no poll fails later than the last success of its group, the entries
are honest, and a reader that waits for a snapshot to advance sees that only after a success. -/
theorem snapshot_honest (settings : SgwSettings) (serviceGroups : List ServiceGroupId)
    (jitterProvider : ServiceGroupId → ℕ → ℤ) (as bs : List SgwAction)
    (hclock : LabelledRun.Guarded step ClockForward
      (init settings serviceGroups jitterProvider) (as ++ bs))
    (hrun : LabelledRun.Guarded step NoLateFailure
      (init settings serviceGroups jitterProvider) (as ++ bs)) :
    let w := LabelledRun.exec step (init settings serviceGroups jitterProvider) as
    let w' := LabelledRun.exec step (init settings serviceGroups jitterProvider) (as ++ bs)
    w'.Honest ∧ ∀ sgIds, w'.NoLateFailure (.read sgIds) →
      snapshotAdvanced sgIds w'.manager.store (snapshotBaseline sgIds w.manager.store) = true →
      ∃ sgId ∈ sgIds, successes sgId w.log < successes sgId w'.log := by
  intro w w'
  obtain ⟨hbefore, hafter⟩ := LabelledRun.guarded_append.mp (hclock.and hrun)
  have hkept : w.Kept := LabelledRun.invariant_of_guarded (fun w a hg h => kept_step hg h) hbefore
    (kept_init _ _ _)
  have hend : w' = LabelledRun.exec step w bs := LabelledRun.exec_append step _ as bs
  have hkept' : w'.Kept := by
    rw [hend]
    exact LabelledRun.invariant_of_guarded (fun w a hg h => kept_step hg h) hafter hkept
  refine ⟨fun sgId d t hd ht => ((hkept'.group sgId).honest d t hd ht).2, ?_⟩
  intro sgIds hread hadvanced
  obtain ⟨sgId, hmem, d, hd, hpositive, hlate⟩ := snapshotAdvanced_iff.mp hadvanced
  refine ⟨sgId, hmem, ?_⟩
  generalize hb : ((w.manager.metadataOf sgId).map (·.snapshotTimeEpoch)).getD 0 = b at hlate
  have hstart : w.Waited sgId b (successes sgId w.log) := by
    refine ⟨le_refl _, ?_⟩
    intro _ d hd
    rw [hd] at hb
    exact Or.inl hb.le
  have hwait : w'.Waited sgId b (successes sgId w.log) := by
    rw [hend]
    exact (LabelledRun.invariant_of_guarded
      (I := fun v => v.Kept ∧ v.Waited sgId b (successes sgId w.log))
      (fun v a hg h => ⟨kept_step hg h.1,
        waited_step hg.2 h.1.held h.1.turn (h.1.group sgId) h.2⟩) hafter ⟨hkept, hstart⟩).2
  by_contra hnot
  have hsame : successes sgId w'.log = successes sgId w.log :=
    Nat.le_antisymm (not_lt.mp hnot) hwait.grown
  rcases hwait.still hsame d hd with hbase | hzero | ⟨hnone, turn, rest, hpc, rfl⟩
  · exact absurd hlate (not_lt.mpr hbase)
  · exact absurd hpositive (not_lt.mpr hzero)
  · rcases hread turn rest hpc hmem with hsome | hzero
    · exact hsome hnone
    · have hentry := (hkept'.turn.entry turn rest hpc).1
      rw [hd, Option.some.injEq] at hentry
      rw [← hentry] at hzero
      exact absurd hpositive (not_lt.mpr hzero)

/-- A cycle in which the one service group is polled. -/
def cycleAt (nowEpoch : ℚ) (pollers : SgwPollers) : List SgwAction :=
  [.begin nowEpoch, .take, .poll pollers, .settle]

theorem snapshot_honest_answered :
    let w := LabelledRun.exec step oneGroup (cycleAt 100 heavyAnswers)
    let w' := LabelledRun.exec step oneGroup
      (cycleAt 100 heavyAnswers ++ cycleAt 2000 heavyAnswers)
    w'.Honest ∧ ∃ sgId ∈ [1], successes sgId w.log < successes sgId w'.log := by
  have hbegin (w : SgwWorld) (nowEpoch : ℚ) (h : lastBegan w.log ≤ nowEpoch) :
      w.ClockForward (.begin nowEpoch) := h
  have hclock : LabelledRun.Guarded step ClockForward oneGroup
      (cycleAt 100 heavyAnswers ++ cycleAt 2000 heavyAnswers) :=
    ⟨hbegin _ _ (by decide +kernel), trivial, trivial, trivial,
      hbegin _ _ (by decide +kernel), trivial, trivial, trivial, trivial⟩
  have hanswers (w : SgwWorld) : w.NoLateFailure (.poll heavyAnswers) := by
    rintro turn rest - (⟨-, exc, hexc⟩ | ⟨-, exc, hexc⟩)
    · cases hexc
    · cases hexc
  have hrun : LabelledRun.Guarded step NoLateFailure oneGroup
      (cycleAt 100 heavyAnswers ++ cycleAt 2000 heavyAnswers) :=
    ⟨trivial, trivial, hanswers _, trivial, trivial, trivial, hanswers _, trivial, trivial⟩
  obtain ⟨hhonest, hwait⟩ := snapshot_honest .default [1] (fun _ _ => 0) _ _ hclock hrun
  refine ⟨hhonest, hwait [1] ?_ (by decide +kernel)⟩
  intro turn rest hpc
  have hidle : (LabelledRun.exec step oneGroup
      (cycleAt 100 heavyAnswers ++ cycleAt 2000 heavyAnswers)).pc = .idle := by decide +kernel
  cases hidle.symm.trans hpc

/-- A success at 100 and a failure at 2000: the entry has the time of the failure and no age, and
a reader that waits from the success on sees the snapshot advance. -/
theorem failure_passes_for_success :
    let w := LabelledRun.exec step oneGroup (cycleAt 100 heavyAnswers)
    let w' := LabelledRun.exec step oneGroup
      (cycleAt 100 heavyAnswers ++ cycleAt 2000 heavyRaises)
    lastSuccess 1 w'.log = some 100 ∧
      (w'.manager.metadataOf 1).map (fun d => (d.snapshotTimeEpoch, d.ageSeconds)) =
        some (2000, 0) ∧
      snapshotAdvanced [1] w'.manager.store (snapshotBaseline [1] w.manager.store) = true ∧
      successes 1 w'.log = successes 1 w.log := by
  decide +kernel

end SgwWorld
end PypnmCmts
