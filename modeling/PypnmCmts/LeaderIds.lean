import Mathlib.Algebra.Field.Rat
import Mathlib.Data.Nat.Cast.Order.Ring
import PypnmCmts.LeaderSafety
import PypnmCmts.OrchestratorLauncher
import PypnmCmts.ServiceGroupLease

/-! The leader ids of `orchestrator/launcher.py`, and what they make of the election between two
orchestrators. -/
namespace PypnmCmts

open LabelledRun TtlLease

/-- `_build_leader_id`. -/
def buildLeaderId (mode : OrchestratorMode) (ownerId : OwnerId) : LeaderId :=
  let ownerValue := if PyText.strip ownerId = "" then ownerId else PyText.strip ownerId
  -- a prefix without anything behind it stays where it is
  let behind (p : String) :=
    if PyText.dropPrefix ownerValue p = "" then PyText.strip ownerId
    else PyText.dropPrefix ownerValue p
  if mode.isControllerEnabled then
    if PyText.startsWith ownerValue "controller-" then ownerValue
    else if PyText.startsWith ownerValue "worker-" then "controller-" ++ behind "worker-"
    else "controller-" ++ ownerValue
  else
    if PyText.startsWith ownerValue "worker-" then ownerValue
    else if PyText.startsWith ownerValue "controller-" then "worker-" ++ behind "controller-"
    else "worker-" ++ ownerValue

/-- `_leader_id_validator`. -/
def isController (leaderId : LeaderId) : Bool :=
  let value := PyText.strip leaderId
  value ≠ "" && !PyText.startsWith value "worker-"

/-- An orchestrator in a mode with the controller, with its resolved owner id. -/
structure ControllerInstance where
  mode : OrchestratorMode
  ownerId : OwnerId
  leaderTtlSeconds : ℕ
  mode_controller : mode.isControllerEnabled = true
  ownerId_stripped : PyText.strip ownerId = ownerId
  ownerId_nonempty : ownerId ≠ ""
  leaderTtlSeconds_pos : 1 ≤ leaderTtlSeconds

/-- The owner ids that have one leader id in common: both prefixes before a text, and the text
itself unless it begins with one of them. -/
def OwnerForm (base : String) (ownerId : OwnerId) : Prop :=
  ownerId = "controller-" ++ base ∨ (ownerId = "worker-" ++ base ∧ base ≠ "") ∨
    (ownerId = base ∧ (base = "worker-" ∨
      (PyText.startsWith base "controller-" = false ∧ PyText.startsWith base "worker-" = false)))

theorem controller_ne_worker (s t : String) : "controller-" ++ s ≠ "worker-" ++ t := by
  intro h
  have hhead := congrArg (fun s : String => s.toList.head?) h
  simp [String.toList_append] at hhead

theorem not_startsWith_append {s p t : String} (h : PyText.startsWith s p = false) :
    s ≠ p ++ t := by
  intro hs
  rw [PyText.startsWith_iff.mpr ⟨t, hs⟩] at h
  cases h

/-- An owner id has one form only. -/
theorem ownerForm_unique {base base' : String} {ownerId : OwnerId} (h : OwnerForm base ownerId)
    (h' : OwnerForm base' ownerId) : base = base' := by
  have hworker : "worker-" = "worker-" ++ "" := rfl
  rcases h with rfl | ⟨rfl, hne⟩ | ⟨rfl, h⟩
  · rcases h' with h' | ⟨h', -⟩ | ⟨h', hw | ⟨hc, -⟩⟩
    · exact String.append_right_inj _ |>.mp h'
    · exact absurd h' (controller_ne_worker _ _)
    · exact absurd (h'.trans (hw.trans hworker)) (controller_ne_worker _ _)
    · exact absurd h'.symm (not_startsWith_append hc)
  · rcases h' with h' | ⟨h', -⟩ | ⟨h', hw | ⟨-, hw⟩⟩
    · exact absurd h'.symm (controller_ne_worker _ _)
    · exact String.append_right_inj _ |>.mp h'
    · exact absurd (String.append_right_inj _ |>.mp (h'.trans (hw.trans hworker))) hne
    · exact absurd h'.symm (not_startsWith_append hw)
  · rcases h' with h' | ⟨h', hne⟩ | ⟨h', -⟩
    · rcases h with hw | ⟨hc, -⟩
      · exact absurd (h'.symm.trans (hw.trans hworker)) (controller_ne_worker _ _)
      · exact absurd h' (not_startsWith_append hc)
    · rcases h with hw | ⟨-, hw⟩
      · exact absurd (String.append_right_inj _ |>.mp (h'.symm.trans (hw.trans hworker))) hne
      · exact absurd h' (not_startsWith_append hw)
    · exact h'

namespace ControllerInstance
variable (a b : ControllerInstance)

def leaderId : LeaderId := buildLeaderId a.mode a.ownerId

/-- The three kinds of owner ids, and the leader id of each. -/
theorem leaderId_cases : (∃ base, a.ownerId = "controller-" ++ base ∧
      a.leaderId = "controller-" ++ base) ∨
    (∃ base, a.ownerId = "worker-" ++ base ∧ base ≠ "" ∧ a.leaderId = "controller-" ++ base) ∨
    ((a.ownerId = "worker-" ∨ (PyText.startsWith a.ownerId "controller-" = false ∧
      PyText.startsWith a.ownerId "worker-" = false)) ∧
        a.leaderId = "controller-" ++ a.ownerId) := by
  have hid : a.leaderId = if PyText.startsWith a.ownerId "controller-" then a.ownerId
      else if PyText.startsWith a.ownerId "worker-" then "controller-" ++
        (if PyText.dropPrefix a.ownerId "worker-" = "" then a.ownerId
          else PyText.dropPrefix a.ownerId "worker-")
      else "controller-" ++ a.ownerId := by
    simp only [leaderId, buildLeaderId, a.mode_controller, a.ownerId_stripped, ite_self, if_true]
  cases hc : PyText.startsWith a.ownerId "controller-" with
  | true =>
    obtain ⟨base, hbase⟩ := PyText.startsWith_iff.mp hc
    exact Or.inl ⟨base, hbase, by rw [hid, hc, if_pos rfl, hbase]⟩
  | false =>
    cases hw : PyText.startsWith a.ownerId "worker-" with
    | true =>
      obtain ⟨base, hbase⟩ := PyText.startsWith_iff.mp hw
      have hdrop : PyText.dropPrefix a.ownerId "worker-" = base := by
        rw [hbase, PyText.dropPrefix_append]
      by_cases hne : base = ""
      -- "worker-" alone has no base and is kept whole
      · subst hne
        refine Or.inr (Or.inr ⟨Or.inl hbase, ?_⟩)
        simp [hid, hc, hw, hdrop]
      · refine Or.inr (Or.inl ⟨base, hbase, hne, ?_⟩)
        simp [hid, hc, hw, hdrop, hne]
    | false =>
      refine Or.inr (Or.inr ⟨Or.inr ⟨rfl, rfl⟩, ?_⟩)
      simp [hid, hc, hw]

/-- Every leader id of a controller is the prefix and the text that its owner id has a form of. -/
theorem exists_ownerForm : ∃ base, a.leaderId = "controller-" ++ base ∧
    OwnerForm base a.ownerId := by
  rcases a.leaderId_cases with ⟨base, ho, hid⟩ | ⟨base, ho, hne, hid⟩ | ⟨ho, hid⟩
  · exact ⟨base, hid, Or.inl ho⟩
  · exact ⟨base, hid, Or.inr (Or.inl ⟨ho, hne⟩)⟩
  · exact ⟨a.ownerId, hid, Or.inr (Or.inr ⟨rfl, ho⟩)⟩

theorem leaderId_eq_iff : a.leaderId = b.leaderId ↔
    ∃ base, OwnerForm base a.ownerId ∧ OwnerForm base b.ownerId := by
  obtain ⟨base, hid, hform⟩ := a.exists_ownerForm
  obtain ⟨base', hid', hform'⟩ := b.exists_ownerForm
  constructor
  · intro h
    have hbase : base = base' := String.append_right_inj _ |>.mp (hid.symm.trans (h.trans hid'))
    exact ⟨base, hform, hbase ▸ hform'⟩
  · intro ⟨text, ha, hb⟩
    rw [hid, hid', ownerForm_unique hform ha, ownerForm_unique hform' hb]

/-- A leader id is what an election makes of it. -/
theorem strip_leaderId : PyText.strip a.leaderId = a.leaderId := by
  have hworker : ∀ base, a.ownerId = "worker-" ++ base → base ≠ "" →
      ("controller-" ++ base).toList.rdropWhile PyText.isSpace =
        ("controller-" ++ base).toList := by
    intro base ho hne
    exact PyText.rdropWhile_append_of_strip (ho ▸ a.ownerId_stripped) hne _
  have hplain : ("controller-" ++ a.ownerId).toList.rdropWhile PyText.isSpace =
      ("controller-" ++ a.ownerId).toList := by
    have hempty : a.ownerId = "" ++ a.ownerId := (String.empty_append).symm
    exact PyText.rdropWhile_append_of_strip (p := "") (hempty ▸ a.ownerId_stripped)
      a.ownerId_nonempty _
  have hhead : ∀ base, ("controller-" ++ base).toList.dropWhile PyText.isSpace =
      ("controller-" ++ base).toList := by
    intro base
    rw [String.toList_append]
    rfl
  rcases a.leaderId_cases with ⟨base, ho, hid⟩ | ⟨base, ho, hne, hid⟩ | ⟨ho, hid⟩
  · rw [hid, ← ho, a.ownerId_stripped]
  · rw [hid]
    exact PyText.strip_eq_self (hhead base) (hworker base ho hne)
  · rw [hid]
    exact PyText.strip_eq_self (hhead a.ownerId) hplain

theorem leaderId_nonempty : a.leaderId ≠ "" := by
  obtain ⟨base, hid, -⟩ := a.exists_ownerForm
  rw [hid]
  intro h
  have hlist := congrArg String.toList h
  simp [String.toList_append] at hlist

/-- The records of a controller count for the controllers. -/
theorem isController_leaderId : isController a.leaderId = true := by
  obtain ⟨base, hid, -⟩ := a.exists_ownerForm
  have hstart : PyText.startsWith a.leaderId "worker-" = false := by
    rw [hid, PyText.startsWith, String.toList_append]
    rfl
  simp [isController, a.strip_leaderId, a.leaderId_nonempty, hstart]

end ControllerInstance

/-- Controllers with owner ids of their own, in one election in one state directory. -/
structure ControllerFleet (ι : Type*) where
  stateDir : String
  electionName : String
  electionName_stripped : PyText.strip electionName = electionName
  electionName_nonempty : electionName ≠ ""
  instances : ι → ControllerInstance
  ownerId_injective : Function.Injective fun i => (instances i).ownerId

namespace ControllerFleet
variable {ι : Type*} (fleet : ControllerFleet ι)

def leaderId (i : ι) : LeaderId := (fleet.instances i).leaderId

/-- The election object of an instance. -/
def election (i : ι) : FileLeaderElection where
  stateDir := fleet.stateDir
  electionName := fleet.electionName
  leaderId := fleet.leaderId i
  ttlSeconds := (fleet.instances i).leaderTtlSeconds
  leaderIdValidator := some isController
  electionName_nonempty := fleet.electionName_nonempty
  leaderId_nonempty := (fleet.instances i).leaderId_nonempty
  ttlSeconds_pos := (fleet.instances i).leaderTtlSeconds_pos

/-- It is the one that the manager of the instance builds. -/
theorem init_election (i : ι) :
    FileLeaderElection.init fleet.stateDir fleet.electionName (fleet.leaderId i)
      (fleet.instances i).leaderTtlSeconds (some isController) = .ok (fleet.election i) := by
  have hid : PyText.strip (fleet.leaderId i) = fleet.leaderId i :=
    (fleet.instances i).strip_leaderId
  have hne : fleet.leaderId i ≠ "" := (fleet.instances i).leaderId_nonempty
  have hpos := (fleet.instances i).leaderTtlSeconds_pos
  have httl : ¬((fleet.instances i).leaderTtlSeconds : ℤ) < FileLeaderElection.minTtlSeconds := by
    simp only [FileLeaderElection.minTtlSeconds]
    omega
  simp [FileLeaderElection.init, fleet.electionName_stripped, fleet.electionName_nonempty, hid, hne,
    httl, election]

/-- The controllers on their record, with every lock free and every operation in one step. -/
def implementation : Implementation ι LeaderId ℚ LeaderFile where
  owner := fleet.leaderId
  ttl i := (fleet.instances i).leaderTtlSeconds
  run i op now file := (((fleet.election i).perform op .ok now file).1.reply,
    ((fleet.election i).perform op .ok now file).2)
  grant := leaderGrant fleet.electionName isController
  refines i op now file := by
    have haccepts : (fleet.election i).accepts = isController := by
      funext leaderId
      simp [FileLeaderElection.accepts, election]
    have hown : (fleet.election i).accepts (fleet.election i).leaderId = true := by
      rw [haccepts]
      exact (fleet.instances i).isController_leaderId
    have h := (fleet.election i).perform_refines hown .ok FileIo.works_ok rfl now file op
    rw [FileLeaderElection.grant, haccepts] at h
    exact h

/-- From any record that names no leader of this election. -/
def NeverBothLead : Prop :=
  ∀ file clock, fleet.implementation.grant file = none →
    fleet.implementation.Excludes (file, clock)

/-- No text gives two of the owner ids their forms. -/
def FormsApart : Prop :=
  ∀ i j base, OwnerForm base (fleet.instances i).ownerId →
    OwnerForm base (fleet.instances j).ownerId → i = j

theorem leaderId_injective_iff : Function.Injective fleet.leaderId ↔ fleet.FormsApart := by
  constructor
  · intro hinj i j base hi hj
    exact hinj ((fleet.instances i).leaderId_eq_iff (fleet.instances j) |>.mpr ⟨base, hi, hj⟩)
  · intro hapart i j hij
    obtain ⟨base, hi, hj⟩ := (fleet.instances i).leaderId_eq_iff (fleet.instances j) |>.mp hij
    exact hapart i j base hi hj

/-- Two instances with one leader id find the record of each other and take it for their own. -/
theorem leaderId_injective_of_neverBothLead (h : fleet.NeverBothLead) :
    Function.Injective fleet.leaderId := by
  have hpos : ∀ i, 0 < fleet.implementation.ttl i := by
    intro i
    have h1 := (fleet.instances i).leaderTtlSeconds_pos
    exact Nat.cast_pos.mpr h1
  exact fleet.implementation.owner_injective_of_excludes hpos (.missing, 0) rfl (h .missing 0 rfl)

theorem leader_identity_iff :
    (Function.Injective fleet.leaderId ↔ fleet.FormsApart) ∧
      (fleet.NeverBothLead ↔ fleet.FormsApart) := by
  refine ⟨fleet.leaderId_injective_iff, ?_, ?_⟩
  · intro h
    exact fleet.leaderId_injective_iff.mp (fleet.leaderId_injective_of_neverBothLead h)
  · intro hapart file clock hempty
    exact fleet.implementation.excludes_of_injective
      (fleet.leaderId_injective_iff.mpr hapart) (file, clock) hempty

/-- The hosts `foo` and `controller-foo`. -/
def prefixedFleet : ControllerFleet Bool where
  stateDir := "state"
  electionName := "cmts"
  electionName_stripped := by decide
  electionName_nonempty := by decide
  instances second :=
    { mode := .combined
      ownerId := if second then "controller-foo" else "foo"
      leaderTtlSeconds := 30
      mode_controller := rfl
      ownerId_stripped := by cases second <;> decide
      ownerId_nonempty := by cases second <;> decide
      leaderTtlSeconds_pos := by decide }
  ownerId_injective := by
    intro i j
    revert i j
    decide

/-- Each is told at one moment that it leads. -/
theorem prefixed_host_leads_too :
    prefixedFleet.leaderId false = "controller-foo" ∧
    prefixedFleet.leaderId true = "controller-foo" ∧
    prefixedFleet.implementation.reply (.missing, 0) ⟨0, false, .acquire⟩ = .told 30 ∧
    prefixedFleet.implementation.reply
      (prefixedFleet.implementation.step (.missing, 0) ⟨0, false, .acquire⟩) ⟨0, true, .acquire⟩ =
        .told 30 ∧
    ¬prefixedFleet.NeverBothLead := by
  have hshared : prefixedFleet.leaderId false = prefixedFleet.leaderId true := by decide +kernel
  refine ⟨by decide +kernel, by decide +kernel, by decide +kernel, by decide +kernel, ?_⟩
  intro h
  have hsame := prefixedFleet.leaderId_injective_of_neverBothLead h hshared
  cases hsame

end ControllerFleet
end PypnmCmts
