import PypnmCmts.CoordinationSystem

/-! The held set of a manager against the inventories that its ticks are given, in every
interleaving of its calls with those of others. -/
namespace PypnmCmts

open LabelledRun CallTree

/-- A tick that has returned, with the inventory that it was given. -/
structure TickEntry where
  serviceGroups : List ServiceGroupId
  result : CoordinationTickResultModel
deriving DecidableEq

/-- Of the ticks, the last one first, one was given the group and all later ones have renewed its
lease. -/
def KeptSince (sgId : ServiceGroupId) : List TickEntry → Prop
  | [] => False
  | tick :: older =>
    sgId ∈ tick.serviceGroups ∨ (sgId ∈ tick.result.renewedSgIds ∧ KeptSince sgId older)

/-- The managers at work. `given` is what the last tick of each was given, and `ticks` are the
ticks of each that have returned, the last one first. -/
structure TickHistory (ι : Type*) where
  world : CoordinationWorld ι
  given : ι → List ServiceGroupId
  ticks : ι → List TickEntry

namespace TickHistory
variable {ι : Type*} (h : TickHistory ι) (i : ι)

/-- Every held group is in the inventory that the last tick was given. -/
def HoldsInventory : Prop :=
  h.world.Idle i → ∀ sgId ∈ h.world.held i, sgId ∈ h.given i

/-- Every held group was in the inventory of a tick, and all ticks since have renewed its lease. -/
def HoldsKept : Prop :=
  h.world.Idle i → ∀ sgId ∈ h.world.held i, KeptSince sgId (h.ticks i)

instance : Decidable (h.HoldsInventory i) :=
  inferInstanceAs (Decidable (_ → ∀ sgId ∈ h.world.held i, sgId ∈ h.given i))

end TickHistory

namespace CoordinationManager
variable (m : CoordinationManager) (sha256 : List UInt8 → List UInt8)

/-- How a method may end that was begun after the ticks `older`. -/
def EndsKept (given : List ServiceGroupId) (older : List TickEntry) (held : HeldLeases) :
    CoordinationOutcome → Prop
  | .tick result => ∀ sgId ∈ held, KeptSince sgId (⟨given, result⟩ :: older)
  | _ => ∀ sgId ∈ held, KeptSince sgId older

/-- The ticks that have returned once the method under way has come to `program`. -/
def ticksAfter (given : List ServiceGroupId) (older : List TickEntry) :
    CoordinationProgram → List TickEntry
  | .done _ (.tick result) => ⟨given, result⟩ :: older
  | _ => older

section Ends
variable {given : List ServiceGroupId} {older : List TickEntry} {held : HeldLeases}

theorem ends_leaderPass {P : HeldLeases → CoordinationOutcome → Prop}
    {next : Bool → LeaderId → CoordinationProgram} (hraised : P held .raised)
    (hnext : ∀ isLeader leaderId, (next isLeader leaderId).Ends P) :
    (m.leaderPass held next).Ends P := by
  simp only [leaderPass]
  split
  · rintro (_ | result)
    · exact hraised
    · dsimp only
      split
      · rintro (_ | renewal)
        · exact hraised
        · dsimp only
          split
          · exact hnext _ _
          · exact hnext _ _
      · exact hnext _ _
  · exact fun status => hnext _ _

/-- What is held is renewed or given up first, and what is acquired is in the inventory. -/
theorem ends_tick (h : ∀ sgId ∈ held, KeptSince sgId older) :
    (m.tick sha256 given held).Ends (EndsKept given older) := by
  refine m.ends_leaderPass h ?_
  intro isLeader leaderId
  have hkept : KeptByPasses given fun p =>
      ∀ sgId ∈ p.held, sgId ∈ given ∨ (sgId ∈ p.renewed ∧ KeptSince sgId older) := by
    refine ⟨?_, fun p sgId hp => hp, ?_⟩
    · intro p sgId hp x hx
      exact hp x (Finset.mem_of_mem_erase hx)
    · intro p sgId hmem hp x hx
      rcases Finset.mem_insert.mp hx with rfl | hx
      · exact Or.inl hmem
      · exact hp x hx
  refine m.leasePass_ends sha256 (Q := fun t => t.Ends (EndsKept given older))
    (fun _ _ _ _ hk => hk) hkept
    -- a group is still to be renewed, or has been
    (K := fun todo p => ∀ sgId ∈ p.held, KeptSince sgId older ∧ (sgId ∈ todo ∨ sgId ∈ p.renewed))
    ?_ ?_ ?_ ?_ held ?_
  · intro sgId rest p hp x hx
    obtain ⟨hk, hx | hx⟩ := hp x hx
    · rcases List.mem_cons.mp hx with rfl | hx
      · exact ⟨hk, Or.inr (List.mem_append_right _ List.mem_cons_self)⟩
      · exact ⟨hk, Or.inl hx⟩
    · exact ⟨hk, Or.inr (List.mem_append_left _ hx)⟩
  · intro sgId rest p hp x hx
    obtain ⟨hne, hx⟩ := Finset.mem_erase.mp hx
    obtain ⟨hk, hx | hx⟩ := hp x hx
    · exact ⟨hk, Or.inl ((List.mem_cons.mp hx).resolve_left hne)⟩
    · exact ⟨hk, Or.inr hx⟩
  · intro p hp x hx
    obtain ⟨hk, hx | hx⟩ := hp x hx
    · cases hx
    · exact Or.inr ⟨hx, hk⟩
  · intro p hp
    exact hp
  · intro sgId hmem
    exact ⟨h sgId hmem, Or.inl (mem_sortedHeldLeases.mpr hmem)⟩

/-- `release_all` only takes groups out of the held set. -/
theorem ends_releaseAll {P : HeldLeases → CoordinationOutcome → Prop} (order : List ServiceGroupId)
    (h : ∀ held' ⊆ held, ∀ result, P held' (.releaseAll result)) :
    (m.releaseAll order held).Ends P := by
  have hpass : ∀ (todo : List ServiceGroupId) (p : TickProgress), p.held ⊆ held →
      (releasePass todo p fun p =>
        if m.leaderEnabled then
          .call p.held .leaderRelease fun result =>
            .done p.held (.releaseAll (releaseAllResult result.released p))
        else .done p.held (.releaseAll (releaseAllResult false p))).Ends P := by
    intro todo
    induction todo with
    | nil =>
      intro p hp
      simp only [releasePass]
      split
      · exact fun result => h p.held hp _
      · exact h p.held hp _
    | cons sgId rest ih =>
      intro p hp result
      dsimp only
      split
      · exact ih _ ((Finset.erase_subset sgId p.held).trans hp)
      · exact ih _ hp
  exact hpass order _ (Finset.Subset.refl held)

theorem kept_of_ends {program : CoordinationProgram} (h : program.Ends (EndsKept given older))
    (hdone : program.isDone = true) :
    ∀ sgId ∈ program.visible, KeptSince sgId (ticksAfter given older program) := by
  obtain ⟨outcome, houtcome⟩ := eq_done_of_isDone hdone
  rw [houtcome] at h ⊢
  cases outcome with
  | tick result => exact h
  | releaseAll result => exact h
  | raised => exact h

theorem ticksAfter_of_not_done {program : CoordinationProgram} (h : ¬program.isDone = true) :
    ticksAfter given older program = older := by
  cases program with
  | done held outcome => exact absurd rfl h
  | call held c next => rfl

theorem isDone_tick : (m.tick sha256 given held).isDone = false := by
  simp only [tick, leaderPass]
  split <;> rfl

end Ends
end CoordinationManager

namespace CoordinationGroup
variable {ι : Type*} [DecidableEq ι] (group : CoordinationGroup ι)

open CoordinationManager

def historyStep (h : TickHistory ι) (a : CoordinationAction ι) : TickHistory ι where
  world := group.step h.world a
  given :=
    match a with
    | .beginTick i serviceGroups =>
      if h.world.Idle i then Function.update h.given i serviceGroups else h.given
    | _ => h.given
  ticks :=
    match a with
    | .call i _ _ =>
      if h.world.Idle i then h.ticks
      else
        Function.update h.ticks i
          (ticksAfter (h.given i) (h.ticks i) ((group.step h.world a).program i))
    | _ => h.ticks

/-- Managers with nothing held, on any record files. -/
def freshHistory (clock : ℚ) (disk : CoordinationDisk) : TickHistory ι :=
  ⟨⟨clock, disk, fun _ => .done ∅ .raised⟩, fun _ => [], fun _ => []⟩

/-- Between its methods a manager holds what was kept, and a method under way ends so. -/
def KeepsHeld (i : ι) (h : TickHistory ι) : Prop :=
  h.HoldsKept i ∧
    (¬h.world.Idle i → (h.world.program i).Ends (EndsKept (h.given i) (h.ticks i)))

variable {group} {i : ι}

/-- What others do leaves the manager alone. -/
theorem keepsHeld_of_other {h : TickHistory ι} {a : CoordinationAction ι}
    (hactor : a.actor ≠ some i) (hkeeps : KeepsHeld i h) :
    KeepsHeld i (group.historyStep h a) := by
  have hprogram : (group.historyStep h a).world.program i = h.world.program i :=
    group.program_step_of_actor_ne h.world a i hactor
  have hgiven : (group.historyStep h a).given i = h.given i := by
    cases a with
    | beginTick j groups =>
      have hj : i ≠ j := fun he => hactor (by rw [he]; rfl)
      simp only [historyStep]
      split
      · exact Function.update_of_ne hj _ _
      · rfl
    | _ => rfl
  have hticks : (group.historyStep h a).ticks i = h.ticks i := by
    cases a with
    | call j wait io =>
      have hj : i ≠ j := fun he => hactor (by rw [he]; rfl)
      simp only [historyStep]
      split
      · rfl
      · exact Function.update_of_ne hj _ _
    | _ => rfl
  have hsame : ∀ h' : TickHistory ι, h'.world.program i = h.world.program i →
      h'.given i = h.given i → h'.ticks i = h.ticks i → KeepsHeld i h' := by
    intro h' hp hg ht
    simpa only [KeepsHeld, TickHistory.HoldsKept, CoordinationWorld.Idle, CoordinationWorld.held,
      hp, hg, ht] using hkeeps
  exact hsame _ hprogram hgiven hticks

theorem keepsHeld_beginTick {h : TickHistory ι} (groups : List ServiceGroupId)
    (hkeeps : KeepsHeld i h) : KeepsHeld i (group.historyStep h (.beginTick i groups)) := by
  by_cases hidle : h.world.Idle i
  · have hprogram : (group.historyStep h (.beginTick i groups)).world.program i =
        (group.manager i).tick group.sha256 groups (h.world.held i) := by
      simp [historyStep, step, hidle]
    refine ⟨?_, ?_⟩
    · intro hdone
      rw [CoordinationWorld.Idle, hprogram, isDone_tick] at hdone
      cases hdone
    · intro _
      have hends : ((group.manager i).tick group.sha256 groups (h.world.held i)).Ends
          (EndsKept groups (h.ticks i)) :=
        (group.manager i).ends_tick group.sha256 (hkeeps.1 hidle)
      rw [hprogram]
      simpa [historyStep, hidle] using hends
  · simpa [historyStep, step, hidle] using hkeeps

theorem keepsHeld_beginReleaseAll {h : TickHistory ι} (order : List ServiceGroupId)
    (hkeeps : KeepsHeld i h) :
    KeepsHeld i (group.historyStep h (.beginReleaseAll i order)) := by
  by_cases hb : h.world.Idle i ∧ CoordinationManager.Lists order (h.world.held i)
  · have hprogram : (group.historyStep h (.beginReleaseAll i order)).world.program i =
        (group.manager i).releaseAll order (h.world.held i) := by
      simp [historyStep, step, hb]
    have hkept := hkeeps.1 hb.1
    refine ⟨?_, ?_⟩
    · intro hidle
      have hends : ((group.manager i).releaseAll order (h.world.held i)).Ends
          fun held _ => ∀ sgId ∈ held, KeptSince sgId (h.ticks i) :=
        (group.manager i).ends_releaseAll order
          (fun held' hsub _ sgId hmem => hkept sgId (hsub hmem))
      rw [← hprogram] at hends
      obtain ⟨outcome, houtcome⟩ := eq_done_of_isDone hidle
      rw [houtcome] at hends
      exact hends
    · intro _
      rw [hprogram]
      exact (group.manager i).ends_releaseAll order
        (fun held' hsub _ sgId hmem => hkept sgId (hsub hmem))
  · simpa [historyStep, step, hb] using hkeeps

theorem keepsHeld_call {h : TickHistory ι} (wait : ℚ≥0) (io : FileIo)
    (hkeeps : KeepsHeld i h) : KeepsHeld i (group.historyStep h (.call i wait io)) := by
  cases hp : h.world.program i with
  | done held outcome =>
    -- nothing to call: the tick is over and recorded already
    have hidle : h.world.Idle i := by rw [CoordinationWorld.Idle, hp]; rfl
    have hprogram : (group.historyStep h (.call i wait io)).world.program i =
        h.world.program i := by
      simp [historyStep, step, hp, resume]
    have hticks : (group.historyStep h (.call i wait io)).ticks = h.ticks := by
      simp [historyStep, hidle]
    refine ⟨?_, ?_⟩
    · intro _
      rw [CoordinationWorld.held, hprogram, hticks]
      exact hkeeps.1 hidle
    · intro hbusy
      rw [CoordinationWorld.Idle, hprogram] at hbusy
      exact absurd hidle hbusy
  | call held c next =>
    have hbusy : ¬h.world.Idle i := by rw [CoordinationWorld.Idle, hp]; exact Bool.false_ne_true
    -- the call may end the tick, which then joins the record
    have hends := hkeeps.2 hbusy
    rw [hp] at hends
    have hnext : ((group.historyStep h (.call i wait io)).world.program i).Ends
        (EndsKept (h.given i) (h.ticks i)) := by
      simpa [historyStep, step, hp, resume] using hends _
    have hticks : (group.historyStep h (.call i wait io)).ticks i =
        ticksAfter (h.given i) (h.ticks i)
          ((group.historyStep h (.call i wait io)).world.program i) := by
      simp [historyStep, hbusy]
    refine ⟨?_, ?_⟩
    · intro hdone
      rw [hticks]
      exact kept_of_ends hnext hdone
    · intro hmore
      rw [hticks, ticksAfter_of_not_done hmore]
      exact hnext

theorem keepsHeld_step (h : TickHistory ι) (a : CoordinationAction ι) (hkeeps : KeepsHeld i h) :
    KeepsHeld i (group.historyStep h a) := by
  by_cases hactor : a.actor = some i
  · cases a with
    | beginTick j groups =>
      obtain rfl : j = i := Option.some.inj hactor
      exact keepsHeld_beginTick groups hkeeps
    | beginReleaseAll j order =>
      obtain rfl : j = i := Option.some.inj hactor
      exact keepsHeld_beginReleaseAll order hkeeps
    | call j wait io =>
      obtain rfl : j = i := Option.some.inj hactor
      exact keepsHeld_call wait io hkeeps
    | foreign lease op wait io => simp [CoordinationAction.actor] at hactor
  · exact keepsHeld_of_other hactor hkeeps

/-- In every state of every run. -/
theorem held_kept_since_given (group : CoordinationGroup ι) (i : ι) (clock : ℚ)
    (disk : CoordinationDisk) (actions : List (CoordinationAction ι)) :
    (exec group.historyStep (freshHistory clock disk) actions).HoldsKept i := by
  have hstart : KeepsHeld i (freshHistory clock disk) := by
    refine ⟨?_, fun hbusy => absurd rfl hbusy⟩
    intro _ sgId hmem
    exact absurd hmem (Finset.notMem_empty sgId)
  exact (invariant_of_step keepsHeld_step actions hstart).1

/-- The group 1 has gone from the inventory, and is renewed. -/
theorem removed_group_held :
    ¬(exec pairManagers.historyStep (freshHistory 0 ⟨.missing, fun _ => .missing⟩)
      [.beginTick true [1], .call true 0 .ok, .call true 0 .ok,
        .beginTick true [2], .call true 5 .ok, .call true 0 .ok]).HoldsInventory true := by
  decide +kernel

end CoordinationGroup
end PypnmCmts
