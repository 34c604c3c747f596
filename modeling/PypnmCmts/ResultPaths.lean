import PypnmCmts.LeaseGatedWork

/-! Where the replicas of a state directory write their results, over restarts and lease handoffs.
Every restart is another process, and each process counts its ticks from one. -/
namespace PypnmCmts

open LabelledRun CallTree

/-- A process: its launcher, what it was started with and the first inventory that it has built. -/
structure ReplicaProcess where
  launcher : CmtsOrchestratorLauncher
  defaultTests : List String
  manager : CoordinationManager
  plan : InventoryPlan
  onTick : Bool

/-- The processes on one state directory. -/
structure ReplicaFleet (ι : Type*) where
  stateDir : PosixPath
  sha256 : List UInt8 → List UInt8
  process : ι → ReplicaProcess

/-- One of the tests that a tick of a process runs, `position` in the list. -/
structure Execution (ι : Type*) where
  who : ι
  tickIndex : ℕ
  position : ℕ
  item : WorkItemModel
deriving DecidableEq

namespace Execution

/-- What tells one execution from another. -/
def key {ι : Type*} (e : Execution ι) : ι × ℕ × ℕ := (e.who, e.tickIndex, e.position)

end Execution

/-- The next tick of a process in `run_forever`, or `run_once` of a process that has done nothing
yet. -/
inductive ReplicaAction (ι : Type*)
  | tick (who : ι) (answers : TickAnswers) (work : WorkAnswers)
  | once (who : ι) (answers : OnceAnswers)

structure ReplicaWorld (ι : Type*) where
  process : ι → LauncherState
  files : ResultTree
  executions : List (Execution ι)

namespace WorkTick

/-- The executions of a tick. -/
def executions {ι : Type*} (t : WorkTick) (who : ι) (tickIndex : ℕ) : List (Execution ι) :=
  t.calls.flatMap fun call => call.items.zipIdx.map fun item => ⟨who, tickIndex, item.2, item.1⟩

end WorkTick

namespace ReplicaFleet
variable {ι : Type*} [DecidableEq ι] (fleet : ReplicaFleet ι)

def settings (i : ι) : WorkSettings := ⟨fleet.stateDir, (fleet.process i).defaultTests⟩

/-- The path of its result. -/
def path (e : Execution ι) : PosixPath := WorkRunner.resultPath fleet.stateDir e.item

def start (files : ResultTree) : ReplicaWorld ι :=
  ⟨fun i => (fleet.process i).launcher.startState (fleet.process i).manager (fleet.process i).plan,
    files, []⟩

def step (w : ReplicaWorld ι) : ReplicaAction ι → ReplicaWorld ι
  | .tick i answers work =>
    let p := fleet.process i
    let s := p.launcher.workStep (fleet.settings i) fleet.sha256 p.onTick
      ⟨w.process i, w.files, []⟩ (answers, work)
    { process := Function.update w.process i s.launcher
      files := s.files
      executions := w.executions ++
        s.ticks.flatMap fun t => t.executions i ((w.process i).ticks+1) }
  | .once i answers =>
    if !(w.process i).running || (w.process i).ticks ≠ 0 then w
    else
      let p := fleet.process i
      let ended := { w.process i with ticks := 1, running := false }
      match p.launcher.runOnce (fleet.settings i) fleet.sha256 p.manager answers w.files with
      | none => { w with process := Function.update w.process i ended }
      | some t =>
        { process := Function.update w.process i ended
          files := t.after
          executions := w.executions ++ t.executions i 1 }

end ReplicaFleet

namespace WorkRunner

theorem notMem_replaceChar {old new : Char} (h : new ≠ old) (value : String) :
    old ∉ (replaceChar old new value).toList := by
  rw [replaceChar, String.toList_ofList, List.mem_map]
  intro ⟨c, _, hc⟩
  split at hc
  · exact h hc
  · next hne => exact hne hc

theorem notMem_replaceChar_of_notMem {old new c : Char} (hc : c ≠ new) {value : String}
    (h : c ∉ value.toList) : c ∉ (replaceChar old new value).toList := by
  rw [replaceChar, String.toList_ofList, List.mem_map]
  intro ⟨d, hd, hdc⟩
  split at hdc
  · exact hc hdc.symm
  · exact h (hdc ▸ hd)

theorem slash_notMem_sanitizeTestName (value : String) :
    '/' ∉ (sanitizeTestName value).toList :=
  notMem_replaceChar_of_notMem (by decide) (notMem_replaceChar (by decide) _)

theorem slash_notMem_toDigits (n : ℕ) : '/' ∉ Nat.toDigits 10 n := by
  intro hmem
  exact absurd (Nat.isDigit_of_mem_toDigits (by decide) (by decide) hmem) (by decide)

/-- The path of a result, if there is no slash in its run id. -/
theorem resultPath_eq (stateDir : PosixPath) {item : WorkItemModel}
    (h : '/' ∉ item.runId.toList) : resultPath stateDir item =
      ((stateDir.child resultsDirName).child ("sg_" ++ toString item.sgId)).child
        (resultFilename item) := by
  have hsanitized := slash_notMem_sanitizeTestName item.testName
  have hgroup : '/' ∉ ("sg_" ++ toString item.sgId).toList := by
    simp [slash_notMem_toDigits]
  have hname : '/' ∉ (resultFilename item).toList := by
    simp [resultFilename, h, hsanitized]
  have hlong : 1 < ("sg_" ++ toString item.sgId).length ∧ 1 < (resultFilename item).length := by
    have hgroup : ("sg_" : String).length = 3 := rfl
    have hsuffix : (".json" : String).length = 5 := rfl
    simp only [resultFilename, String.length_append, hgroup, hsuffix]
    omega
  have hshort : ("" : String).length = 0 ∧ ("." : String).length = 1 := ⟨rfl, rfl⟩
  rw [resultPath, stateDir.join_plain (by decide) (by decide) (by decide),
    PosixPath.join_plain _ hgroup, PosixPath.join_plain _ hname]
  all_goals
    intro heq
    rw [heq] at hlong
    omega

end WorkRunner

namespace CmtsOrchestratorLauncher

/-- The tick index with its zeros, as it stands in a run id. -/
def paddedDigits (tickIndex : ℕ) : List Char :=
  List.replicate (6-(Nat.toDigits 10 tickIndex).length) '0' ++ Nat.toDigits 10 tickIndex

theorem paddedDigits_injective : Function.Injective paddedDigits := by
  intro m n h
  have hread := congrArg (fun digits => Nat.ofDigitChars 10 digits 0) h
  simpa [paddedDigits, Nat.ofDigitChars_append] using hread

theorem underscore_notMem_paddedDigits (tickIndex : ℕ) : '_' ∉ paddedDigits tickIndex := by
  simp [paddedDigits]

theorem toList_buildRunIdForSg (sgId : ServiceGroupId) (tickIndex : ℕ) :
    (buildRunIdForSg sgId tickIndex).toList =
      "sg".toList ++ Nat.toDigits 10 sgId ++ "_tick".toList ++ paddedDigits tickIndex := by
  simp [buildRunIdForSg, paddedDigits, String.toList_append, ← String.length_toList]

theorem slash_notMem_buildRunIdForSg (sgId : ServiceGroupId) (tickIndex : ℕ) :
    '/' ∉ (buildRunIdForSg sgId tickIndex).toList := by
  rw [toList_buildRunIdForSg]
  simp [paddedDigits, WorkRunner.slash_notMem_toDigits]

/-- What stands before the first separator and what stands behind it. -/
theorem append_cons_inj {α : Type*} [DecidableEq α] {c : α} {before before' rest rest' : List α}
    (h : c ∉ before) (h' : c ∉ before') (heq : before ++ c :: rest = before' ++ c :: rest') :
    before = before' ∧ rest = rest' := by
  have hfirst : ∀ {l : List α}, c ∉ l → ∀ r, (l ++ c :: r).takeWhile (· ≠ c) = l := by
    intro l hl r
    rw [List.takeWhile_append_of_pos]
    · simp
    · intro x hx
      exact decide_eq_true fun he => hl (he ▸ hx)
  have hbefore : before = before' := by
    rw [← hfirst h rest, heq, hfirst h' rest']
  subst hbefore
  exact ⟨rfl, (List.cons.inj (List.append_cancel_left heq)).2⟩

/-- The name of a result file of one group gives the tick index and the sanitised name away. -/
theorem resultFilename_inj {sgId m n : ℕ} {name name' : String} :
    WorkRunner.resultFilename ⟨sgId, name, buildRunIdForSg sgId m⟩ =
        WorkRunner.resultFilename ⟨sgId, name', buildRunIdForSg sgId n⟩ ↔
      m = n ∧ WorkRunner.sanitizeTestName name = WorkRunner.sanitizeTestName name' := by
  constructor
  · intro h
    rw [WorkRunner.resultFilename, WorkRunner.resultFilename, String.append_left_inj,
      ← String.toList_inj] at h
    simp only [String.toList_append, toList_buildRunIdForSg, List.append_assoc,
      List.append_cancel_left_eq] at h
    obtain ⟨hindex, hname⟩ := append_cons_inj (underscore_notMem_paddedDigits m)
      (underscore_notMem_paddedDigits n) h
    exact ⟨paddedDigits_injective hindex, String.toList_inj.mp hname⟩
  · intro ⟨hindex, hname⟩
    rw [WorkRunner.resultFilename, WorkRunner.resultFilename, hindex, hname]

variable {launcher : CmtsOrchestratorLauncher} {work : WorkSettings}
  {sha256 : List UInt8 → List UInt8} {onTick : Bool}

/-- The calls of a tick have its run id, that is, the one with its index. -/
def NamedBy (tickIndex : ℕ) (t : WorkTick) : Prop :=
  ∀ call ∈ t.calls, call.runId = buildRunIdForSg call.sgId tickIndex

theorem namedBy_idle (tickIndex : ℕ) (held : HeldLeases) (files : ResultTree) :
    NamedBy tickIndex (.idle held files) :=
  fun _ hcall => absurd hcall List.not_mem_nil

theorem namedBy_workTick (plan : InventoryPlan) (tickIndex : ℕ) (held : HeldLeases)
    (tick : CoordinationTickResultModel) (answers : TickAnswers) (workAnswers : WorkAnswers)
    (files : ResultTree) :
    NamedBy tickIndex
      (launcher.workTick work plan tickIndex held tick answers workAnswers files) := by
  have hcalls : ∀ sgIds leaseHeld,
      ∀ call ∈ (launcher.runWorkerTests work tickIndex sgIds leaseHeld workAnswers.tests files).1,
        call.runId = buildRunIdForSg call.sgId tickIndex := by
    intro sgIds leaseHeld call hcall
    rcases runWorkerTests_cases launcher tickIndex sgIds leaseHeld workAnswers.tests files with
      ⟨-, hwork⟩ | ⟨sgId, -, -, hwork⟩
    · rw [hwork] at hcall
      cases hcall
    · rw [hwork] at hcall
      rw [List.mem_singleton.mp hcall]
  rw [workTick]
  cases workAnswers.raise with
  | beforeWork => exact namedBy_idle _ _ _
  | amidWork testsDone => exact hcalls _ _
  | afterWork => exact hcalls _ _
  | nowhere => exact hcalls _ _
  | inCallback => exact hcalls _ _

theorem ticks_step_of_plan {s : LauncherState} {answers : TickAnswers} {held : HeldLeases}
    {tick : CoordinationTickResultModel} {plan : InventoryPlan} (hrunning : s.running = true)
    (hanswered : CoordinationManager.answered (launcher.tickProgram sha256 s) answers.replies =
      (held, .tick tick)) (hplan : launcher.refreshedPlan s answers = .ok plan) :
    (launcher.step sha256 onTick s answers).ticks = s.ticks+1 := by
  simp [step, hrunning, hanswered, hplan]

/-- A tick with work is counted, and its index is its number. -/
theorem forWorkTick_counted (s : WorkState) (hrunning : s.launcher.running = true)
    (answers : TickAnswers) (workAnswers : WorkAnswers) :
    NamedBy (s.launcher.ticks+1)
      (launcher.forWorkTick work sha256 onTick s answers workAnswers) ∧
    ((launcher.forWorkTick work sha256 onTick s answers workAnswers).calls = [] ∨
      (launcher.step sha256 onTick s.launcher
        { answers with raises := workAnswers.raise ≠ .nowhere }).ticks = s.launcher.ticks+1) := by
  rcases forWorkTick_cases launcher work sha256 onTick s answers workAnswers with
    ⟨held, hidle⟩ | ⟨held, tick, plan, hanswered, hplan, hwork⟩
  · rw [hidle]
    exact ⟨namedBy_idle _ _ _, Or.inl rfl⟩
  · rw [hwork]
    exact ⟨namedBy_workTick _ _ _ _ _ _ _, Or.inr (ticks_step_of_plan hrunning hanswered hplan)⟩

theorem ticks_step_le (s : LauncherState) (answers : TickAnswers) :
    s.ticks ≤ (launcher.step sha256 onTick s answers).ticks := by
  rw [step]
  split
  · exact le_rfl
  · split
    · split
      · exact le_rfl
      · exact Nat.le_succ _
    · exact le_rfl

theorem namedBy_runOnce {manager : CoordinationManager} {answers : OnceAnswers}
    {files : ResultTree} {t : WorkTick}
    (h : launcher.runOnce work sha256 manager answers files = some t) : NamedBy 1 t := by
  rcases runOnce_cases h with ⟨held, rfl⟩ | ⟨s, held, tick, plan, -, rfl⟩
  · exact namedBy_idle _ _ _
  · exact namedBy_workTick _ _ _ _ _ _ _

end CmtsOrchestratorLauncher

namespace ReplicaFleet
open CmtsOrchestratorLauncher
variable {ι : Type*} [DecidableEq ι] {fleet : ReplicaFleet ι}

/-- What is known of the executions so far: the run id of each has its tick index, which its
process has reached; no two are the same; and those of one tick of a process are for one group. -/
structure Filed (w : ReplicaWorld ι) : Prop where
  named : ∀ e ∈ w.executions, e.item.runId = buildRunIdForSg e.item.sgId e.tickIndex
  counted : ∀ e ∈ w.executions, e.tickIndex ≤ (w.process e.who).ticks
  distinct : (w.executions.map Execution.key).Nodup
  single : ∀ e ∈ w.executions, ∀ e' ∈ w.executions, e.who = e'.who →
    e.tickIndex = e'.tickIndex → e.item.sgId = e'.item.sgId

theorem calls_eq_of_mem {t : WorkTick} (hcalls : t.calls.length ≤ 1) {call : WorkCall}
    (h : call ∈ t.calls) : t.calls = [call] := by
  obtain ⟨first, hfirst⟩ := List.length_eq_one_iff.mp
    (hcalls.antisymm (List.length_pos_of_mem h))
  rw [hfirst] at h ⊢
  rw [List.mem_singleton.mp h]

omit [DecidableEq ι] in
theorem mem_executions {t : WorkTick} (hcalls : t.calls.length ≤ 1) {i : ι} {n : ℕ}
    {e : Execution ι} (h : e ∈ t.executions i n) :
    e.who = i ∧ e.tickIndex = n ∧ ∃ call, t.calls = [call] ∧ e.item.sgId = call.sgId ∧
      e.item.runId = call.runId := by
  obtain ⟨call, hcall, he⟩ := List.mem_flatMap.mp h
  obtain ⟨item, hitem, rfl⟩ := List.mem_map.mp he
  obtain ⟨name, -, hname⟩ := List.mem_map.mp (List.fst_mem_of_mem_zipIdx hitem)
  exact ⟨rfl, rfl, call, calls_eq_of_mem hcalls hcall, by rw [← hname], by rw [← hname]⟩

omit [DecidableEq ι] in
theorem nodup_executions {t : WorkTick} (hcalls : t.calls.length ≤ 1) (i : ι) (n : ℕ) :
    ((t.executions i n).map Execution.key).Nodup := by
  rw [WorkTick.executions]
  cases hlist : t.calls with
  | nil => exact List.nodup_nil
  | cons call rest =>
    have hcall : call ∈ t.calls := hlist ▸ List.mem_cons_self
    rw [← hlist, calls_eq_of_mem hcalls hcall, List.flatMap_cons, List.flatMap_nil,
      List.append_nil, List.map_map]
    have hkey : (Execution.key ∘ fun item : WorkItemModel × ℕ =>
        (⟨i, n, item.2, item.1⟩ : Execution ι)) = (fun position => (i, n, position)) ∘
          Prod.snd := rfl
    have hnodup : (call.items.zipIdx.map Prod.snd).Nodup := by
      rw [List.zipIdx_map_snd]
      exact List.nodup_range'
    rw [hkey, ← List.map_map]
    refine hnodup.map ?_
    intro a b hab
    exact congrArg (fun k => k.2.2) hab

/-- Another tick of a process, with an index that none of its executions has had. -/
theorem Filed.add {w : ReplicaWorld ι} (h : Filed w) {t : WorkTick} {i : ι} {n : ℕ}
    (hcalls : t.calls.length ≤ 1) (hnamed : NamedBy n t) (hn : (w.process i).ticks < n)
    {s : LauncherState} (hticks : (w.process i).ticks ≤ s.ticks)
    (hcounted : t.calls = [] ∨ s.ticks = n)
    (files : ResultTree) :
    Filed ⟨Function.update w.process i s, files, w.executions ++ t.executions i n⟩ where
  named e he := by
    rcases List.mem_append.mp he with he | he
    · exact h.named e he
    · obtain ⟨-, hindex, call, hlist, hsg, hrunId⟩ := mem_executions hcalls he
      have hcall : call ∈ t.calls := hlist ▸ List.mem_singleton_self call
      rw [hrunId, hsg, hindex, hnamed call hcall]
  counted e he := by
    dsimp only
    rcases List.mem_append.mp he with he | he
    · have hle := h.counted e he
      by_cases hwho : e.who = i
      · rw [hwho, Function.update_self]
        rw [hwho] at hle
        exact hle.trans hticks
      · rw [Function.update_of_ne hwho]
        exact hle
    · obtain ⟨hwho, hindex, call, hlist, -⟩ := mem_executions hcalls he
      have hreached : s.ticks = n := hcounted.resolve_left (by simp [hlist])
      rw [hwho, Function.update_self, hindex, hreached]
  distinct := by
    rw [List.map_append, List.nodup_append]
    refine ⟨h.distinct, nodup_executions hcalls i n, ?_⟩
    -- an execution of the process that is on file has a smaller index
    intro a ha b hb hab
    obtain ⟨e, he, rfl⟩ := List.mem_map.mp ha
    obtain ⟨e', he', rfl⟩ := List.mem_map.mp hb
    obtain ⟨hwho, hindex, -⟩ := mem_executions hcalls he'
    have hle := h.counted e he
    have hsame : e.who = e'.who ∧ e.tickIndex = e'.tickIndex :=
      ⟨congrArg Prod.fst hab, congrArg (fun k => k.2.1) hab⟩
    rw [hsame.1, hwho, hsame.2, hindex] at hle
    omega
  single e he e' he' hwho hindex := by
    rcases List.mem_append.mp he with he | he
    · rcases List.mem_append.mp he' with he' | he'
      · exact h.single e he e' he' hwho hindex
      · obtain ⟨hwho', hindex', -⟩ := mem_executions hcalls he'
        have hle := h.counted e he
        rw [hwho, hwho', hindex, hindex'] at hle
        omega
    · obtain ⟨hwho₁, hindex₁, call, hlist, hsg, -⟩ := mem_executions hcalls he
      rcases List.mem_append.mp he' with he' | he'
      · have hle := h.counted e' he'
        rw [← hwho, hwho₁, ← hindex, hindex₁] at hle
        omega
      · obtain ⟨-, -, call', hlist', hsg', -⟩ := mem_executions hcalls he'
        rw [hlist] at hlist'
        rw [hsg, hsg', List.singleton_inj.mp hlist']

theorem Filed.idle {w : ReplicaWorld ι} (h : Filed w) {i : ι} {s : LauncherState}
    (hticks : (w.process i).ticks ≤ s.ticks) (files : ResultTree) :
    Filed ⟨Function.update w.process i s, files, w.executions⟩ := by
  have hadd := h.add (t := .idle ∅ files) (n := (w.process i).ticks+1) (Nat.zero_le _)
    (fun call hcall => absurd hcall List.not_mem_nil) (Nat.lt_succ_self _) hticks (Or.inl rfl) files
  rwa [show (WorkTick.idle ∅ files).executions i ((w.process i).ticks+1) = [] from rfl,
    List.append_nil] at hadd

theorem filed_step {w : ReplicaWorld ι} (h : Filed w) (a : ReplicaAction ι) :
    Filed (fleet.step w a) := by
  cases a with
  | tick i answers work =>
    simp only [step, workStep]
    split
    · have hsame := h.idle (i := i) (s := w.process i) le_rfl w.files
      simpa using hsame
    · next hrunning =>
      have hgated : ((fleet.process i).launcher.forWorkTick (fleet.settings i) fleet.sha256
          (fleet.process i).onTick ⟨w.process i, w.files, []⟩ answers work).LeaseGated
          (fleet.settings i).stateDir := leaseGated_forWorkTick _ _ _
      obtain ⟨hnamed, hcounted⟩ := forWorkTick_counted ⟨w.process i, w.files, []⟩
        (by simpa using hrunning) answers work
      rw [List.nil_append, List.flatMap_singleton]
      exact h.add hgated.single hnamed (Nat.lt_succ_self _) (ticks_step_le _ _) hcounted _
  | once i answers =>
    simp only [step]
    split
    · exact h
    · next hfresh =>
      have hnone : (w.process i).ticks = 0 := by
        by_contra hne
        simp [hne] at hfresh
      split
      · exact h.idle (hnone.trans_le (Nat.zero_le _)) w.files
      · next t ht =>
        have hgated : t.LeaseGated (fleet.settings i).stateDir := leaseGated_runOnce ht
        exact h.add hgated.single (namedBy_runOnce ht) (by omega)
          (by rw [hnone]; exact Nat.zero_le _)
          (Or.inr rfl) _

theorem filed_exec (fleet : ReplicaFleet ι) (files : ResultTree)
    (actions : List (ReplicaAction ι)) :
    Filed (exec fleet.step (fleet.start files) actions) := by
  refine invariant_of_step (I := Filed) (fun w a h => filed_step h a) actions ?_
  exact ⟨fun e he => absurd he List.not_mem_nil, fun e he => absurd he List.not_mem_nil,
    List.nodup_nil, fun e he => absurd he List.not_mem_nil⟩

/-- A worker for the group 1, and the same worker after a restart. -/
def restartedWorker : ReplicaFleet Bool where
  stateDir := ⟨"/", ["state"]⟩
  sha256 := id
  process _ :=
    { launcher := ⟨.worker, none, ⟨[⟨1, true⟩], false, "", 1, .sequential, 0⟩⟩
      defaultTests := ["ds_ofdm_rxmer"]
      manager := soloManager
      plan := ⟨[1], .config, [1], 0, 1⟩
      onTick := true }

def workDone : WorkAnswers := ⟨.nowhere, fun _ => ⟨0, 1, true, true⟩⟩

/-- The first tick of the worker, and its first tick after the restart. -/
def restartedRun : List (ReplicaAction Bool) :=
  [.tick false leaderAnswers workDone, .tick true leaderAnswers workDone]

end ReplicaFleet
end PypnmCmts
