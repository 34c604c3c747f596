import Mathlib.Order.Defs.PartialOrder
import PypnmCmts.ExclusiveSections
import PypnmCmts.OperationStore

/-! `load_state` and `save_state_atomic` of `api/common/operations/store.py`, one call on the files
at a time: threads with one `OperationStore` at work on one operation, with calls that fail, writes
that break off and threads that stop anywhere. The state lock and the temporary file make each load
and each save one step. -/
namespace PypnmCmts

open LabelledRun CallTree

/-- What a file of the operation holds. -/
inductive StateText
  | dumped (state : OperationStateModel)
  -- left by a write that broke off
  | unfinished
deriving DecidableEq

/-- `OperationStateModel.model_validate(json.loads(..))`, where `none` is an exception. -/
def StateText.validated : StateText → Option OperationStateModel
  | dumped state => some state
  | unfinished => none

/-- The calls of the store. A temporary file is named by its `uuid4().hex`. -/
inductive StoreCall
  | makeDirectory
  | temporaryName
  | lock
  | stateExists
  | readState
  | writeTemporary (hex : ℕ) (state : OperationStateModel)
  | replaceState (hex : ℕ)

/-- `none` and `false` stand for an `OSError`, but for the `some false` of a missing file. -/
def StoreCall.Reply : StoreCall → Type
  | makeDirectory => Bool
  | temporaryName => ℕ
  | lock => Unit
  | stateExists => Option Bool
  | readState => Option StateText
  | writeTemporary _ _ => Bool
  | replaceState _ => Bool

/-- `state.json` and the files `state.<hex>.tmp` beside it. -/
structure StateFiles where
  state : Option StateText
  temporary : ℕ → Option StateText

/-- The environment's part in a call: whether it fails, what a write that fails leaves in its file,
and the next `uuid4`. -/
structure StoreAnswer where
  fails : Bool
  left : Option StateText
  hex : ℕ

namespace StateFiles

def handle (e : StoreAnswer) : (c : StoreCall) → StateFiles → c.Reply × StateFiles
  | .makeDirectory, s => (!e.fails, s)
  | .temporaryName, s => (e.hex, s)
  | .lock, s => ((), s)
  | .stateExists, s => (if e.fails then none else some s.state.isSome, s)
  | .readState, s => (if e.fails then none else s.state, s)
  | .writeTemporary hex state, s =>
    let text := if e.fails then e.left else some (.dumped state)
    (!e.fails, { s with temporary := Function.update s.temporary hex text })
  | .replaceState hex, s =>
    match e.fails, s.temporary hex with
    | false, some text => (true, ⟨some text, Function.update s.temporary hex none⟩)
    | _, _ => (false, s)

/-- A write is not seen in `state.json`, and one that comes through is whole. -/
theorem handle_writeTemporary (e : StoreAnswer) (hex : ℕ) (state : OperationStateModel)
    (s : StateFiles) :
    ∃ s', s'.state = s.state ∧ (handle e (.writeTemporary hex state) s = (false, s') ∨
      s'.temporary hex = some (.dumped state) ∧
        handle e (.writeTemporary hex state) s = (true, s')) := by
  refine ⟨(handle e (.writeTemporary hex state) s).2, rfl, ?_⟩
  have hreply : (handle e (.writeTemporary hex state) s).1 = !e.fails := rfl
  cases hfails : e.fails with
  | true => exact Or.inl (Prod.ext (hreply.trans (by rw [hfails]; rfl)) rfl)
  | false =>
    refine Or.inr ⟨?_, Prod.ext (hreply.trans (by rw [hfails]; rfl)) rfl⟩
    simp [handle, hfails]

/-- A `replace` puts the temporary file in place as a whole, or does nothing. -/
theorem handle_replaceState (e : StoreAnswer) (hex : ℕ) (s : StateFiles) :
    handle e (.replaceState hex) s = (false, s) ∨
      ∃ text, s.temporary hex = some text ∧ handle e (.replaceState hex) s =
        (true, ⟨some text, Function.update s.temporary hex none⟩) := by
  simp only [handle]
  split
  · next text _ htext => exact Or.inr ⟨text, htext, rfl⟩
  · exact Or.inl rfl

end StateFiles

inductive StoreOp
  | load
  | save (state : OperationStateModel)
deriving DecidableEq

inductive StoreEnd
  | loaded (state : OperationStateModel)
  | saved
  | notFound
  | raised
deriving DecidableEq

/-- What was asked of the store, and how it ended. -/
abbrev StoreReturn := StoreOp × StoreEnd

abbrev StoreProgram := CallTree StoreCall StoreCall.Reply Unit StoreReturn

namespace OperationStore

/-- What `state.json` holds after a save that came through. -/
def savedOver (current : Option OperationStateModel) (state : OperationStateModel) :
    OperationStateModel :=
  match current with
  | none => state
  | some current => if canReplaceState current.state state.state then state else current

theorem saveStateAtomic_eq (dir : OperationDir) (state : OperationStateModel) :
    saveStateAtomic dir state = { dir with state := savedOver (some dir.state) state } := by
  simp only [saveStateAtomic, savedOver]
  split <;> rfl

/-- No save takes an operation out of a terminal state. -/
theorem savedOver_terminal {current : OperationStateModel}
    (h : isTerminalState current.state = true)
    (state : OperationStateModel) : (savedOver (some current) state).state = current.state := by
  let dir : OperationDir := ⟨current, false, fun _ => []⟩
  have hdir : (saveStateAtomic dir state).state.state = current.state :=
    saveStateAtomic_terminal h state
  rwa [saveStateAtomic_eq] at hdir

end OperationStore

namespace StoreOp

open OperationStore

/-- The program has come to its end. -/
def returns (op : StoreOp) (result : StoreEnd) : StoreProgram := .done () (op, result)

def loadState : StoreProgram :=
  .call () .stateExists fun
    | none => returns .load .raised
    | some false => returns .load .notFound
    | some true =>
      .call () .lock fun _ =>
        .call () .readState fun (text : Option StateText) =>
          match text.bind StateText.validated with
          | none => returns .load .raised
          | some state => returns .load (.loaded state)

/-- `tmp_path.write_text` and `tmp_path.replace`. -/
def writeState (hex : ℕ) (state : OperationStateModel) : StoreProgram :=
  .call () (.writeTemporary hex state) fun (written : Bool) =>
    if !written then returns (.save state) .raised
    else
      .call () (.replaceState hex) fun (replaced : Bool) =>
        returns (.save state) (if replaced then .saved else .raised)

def saveStateAtomic (state : OperationStateModel) : StoreProgram :=
  .call () .makeDirectory fun (made : Bool) =>
    if !made then returns (.save state) .raised
    else
      .call () .temporaryName fun hex =>
        .call () .lock fun _ =>
          .call () .stateExists fun
            | none => returns (.save state) .raised
            | some false => writeState hex state
            | some true =>
              .call () .readState fun (text : Option StateText) =>
                match text.bind StateText.validated with
                | none => returns (.save state) .raised
                | some current =>
                  -- the refused save returns as the others do
                  if !canReplaceState current.state state.state then returns (.save state) .saved
                  else writeState hex state

def program : StoreOp → StoreProgram
  | load => loadState
  | save state => saveStateAtomic state

/-- The operation as one step on what `state.json` holds. -/
def afterReturn (current : Option OperationStateModel) : StoreReturn → Option OperationStateModel
  | (save state, .saved) => some (savedOver current state)
  | _ => current

/-- What `state.json` holds when the operations have returned as `told`, one after the other. -/
def contents {ι : Type} (start : Option OperationStateModel) (told : List (ι × StoreReturn)) :
    Option OperationStateModel :=
  (told.map Prod.snd).foldl afterReturn start

theorem contents_concat {ι : Type} (start : Option OperationStateModel)
    (told : List (ι × StoreReturn)) (i : ι) (a : StoreReturn) :
    contents start (told ++ [(i, a)]) = afterReturn (contents start told) a := by
  simp only [contents, List.map_append, List.map_cons, List.map_nil, List.foldl_append,
    List.foldl_cons, List.foldl_nil]

theorem contents_append {ι : Type} (start : Option OperationStateModel)
    (told later : List (ι × StoreReturn)) :
    contents start (told ++ later) = contents (contents start told) later := by
  simp only [contents, List.map_append, List.foldl_append]

/-- A load tells what the file holds at its moment. -/
def Told (current : Option OperationStateModel) (a : StoreReturn) : Prop :=
  ∀ state, a = (load, .loaded state) → current = some state

theorem afterReturn_terminal {current : OperationStateModel}
    (h : isTerminalState current.state = true)
    (a : StoreReturn) :
    ∃ later, afterReturn (some current) a = some later ∧ later.state = current.state := by
  obtain ⟨op, result⟩ := a
  cases op with
  | load => exact ⟨current, rfl, rfl⟩
  | save state =>
    cases result with
    | saved => exact ⟨savedOver (some current) state, rfl, savedOver_terminal h state⟩
    | _ => exact ⟨current, rfl, rfl⟩

/-- Whatever is asked of the store, a terminal state stays. -/
theorem contents_terminal {ι : Type} {current : OperationStateModel}
    (h : isTerminalState current.state = true) (told : List (ι × StoreReturn)) :
    ∃ later, contents (some current) told = some later ∧ later.state = current.state := by
  induction told using List.reverseRecOn with
  | nil => exact ⟨current, rfl, rfl⟩
  | append_singleton told entry ih =>
    obtain ⟨i, a⟩ := entry
    obtain ⟨later, hlater, hstate⟩ := ih
    obtain ⟨last, hlast, hsame⟩ := afterReturn_terminal (hstate ▸ h) a
    refine ⟨last, ?_, hsame.trans hstate⟩
    rw [contents_concat, hlater, hlast]

end StoreOp

namespace StateThreads

open OperationStore StoreOp

/-- The store does not go by the time: one moment is like another. -/
inductive Moment
  | any

instance : Preorder Moment where
  le _ _ := True
  le_refl _ := trivial
  le_trans _ _ _ _ _ := trivial

instance : DecidableLE Moment := fun _ _ => isTrue trivial

/-- The threads with their files, and who has the state lock. -/
abbrev StoreWorld (ι : Type) :=
  ExclusiveSections.World StoreCall StoreCall.Reply StateFiles Moment Unit StoreReturn ι

abbrev StoreAction (ι : Type) := ExclusiveSections.Action ι StoreOp StoreAnswer

def takesLock : StoreCall → Bool
  | .lock => true
  | _ => false

/-- Whoever leaves the `with` block, or does not live to leave it, gives the lock back. -/
def sections (ι : Type) : ExclusiveSections StoreCall StoreCall.Reply StateFiles StoreAnswer Moment
    Unit StoreReturn ι StoreOp where
  handle := StateFiles.handle
  time _ := .any
  enters c _ := takesLock c
  breaks := takesLock
  ops _ op := op.program
  stopped := ((), load, .raised)

def spec (ι : Type) :
    ExclusiveSections.Spec StateFiles Moment StoreReturn ι (Option OperationStateModel) where
  free current s := s.state = current.map .dumped
  locked _ := True
  did _ a _ current _ current' := Told current a ∧ current' = afterReturn current a
  torn _ _ current _ current' := current' = current

variable {ι : Type} {i : ι} {current : Option OperationStateModel} {s : StateFiles}

/-- A thread with the lock, which it got when the file held `current`. -/
def Within (i : ι) (current : Option OperationStateModel) (t : StoreProgram) (s : StateFiles) :
    Prop :=
  (sections ι).Inside (fun _ => True) (spec ι) i .any current .any t s

theorem within_call {c : StoreCall} {next : c.Reply → StoreProgram}
    (h : s.state = current.map .dumped)
    (hnext : ∀ e, Within i current (next (StateFiles.handle e c s).1) (StateFiles.handle e c s).2) :
    Within i current (.call () c next) s :=
  ⟨⟨trivial, current, h, rfl⟩, fun e _ _ => hnext e⟩

theorem within_returns {op : StoreOp} {result : StoreEnd}
    (h : s.state = (afterReturn current (op, result)).map .dumped)
    (htold : Told current (op, result)) :
    Within i current (returns op result) s :=
  ⟨afterReturn current (op, result), h, htold, rfl⟩

theorem within_raised {op : StoreOp} (h : s.state = current.map .dumped) :
    Within i current (returns op .raised) s := by
  have hsame : afterReturn current (op, .raised) = current := by cases op <;> rfl
  refine within_returns (hsame.symm ▸ h) ?_
  intro state heq
  simp at heq

/-- The temporary file is put in place, or nothing happens. -/
theorem within_replaceState {hex : ℕ} {state : OperationStateModel}
    (h : s.state = current.map .dumped) (htmp : s.temporary hex = some (.dumped state))
    (hopen : savedOver current state = state) :
    Within i current (.call () (.replaceState hex) fun (replaced : Bool) =>
      returns (.save state) (if replaced then .saved else .raised)) s := by
  refine within_call h fun e => ?_
  rcases StateFiles.handle_replaceState e hex s with hsame | ⟨text, htext, hmoved⟩
  · rw [hsame]
    exact within_raised h
  · obtain rfl : text = .dumped state := Option.some.inj (htext.symm.trans htmp)
    rw [hmoved]
    refine within_returns ?_ ?_
    · change some (StateText.dumped state) = some (StateText.dumped (savedOver current state))
      rw [hopen]
    · intro other heq
      simp at heq

/-- The save replaces the file as a whole, or leaves it. -/
theorem within_writeState {hex : ℕ} {state : OperationStateModel}
    (h : s.state = current.map .dumped) (hopen : savedOver current state = state) :
    Within i current (writeState hex state) s := by
  refine within_call h fun e => ?_
  obtain ⟨s', hstate, hbroken | ⟨htmp, hwritten⟩⟩ := StateFiles.handle_writeTemporary e hex state s
  · rw [hbroken]
    exact within_raised (hstate.trans h)
  · rw [hwritten]
    exact within_replaceState (hstate.trans h) htmp hopen

/-- What is read under the lock is what the file holds. -/
theorem within_readState {op : StoreOp} {next : OperationStateModel → StoreProgram}
    (h : s.state = current.map .dumped)
    (hnext : ∀ state, current = some state → Within i current (next state) s) :
    Within i current (.call () .readState fun (text : Option StateText) =>
      match text.bind StateText.validated with
      | none => returns op .raised
      | some state => next state) s := by
  refine within_call h fun e => ?_
  simp only [StateFiles.handle]
  cases e.fails with
  | true => exact within_raised h
  | false =>
    cases current with
    | none =>
      simp only [h, Option.map_none]
      exact within_raised h
    | some state =>
      simp only [h, Option.map_some]
      exact hnext state rfl

/-- A thread without the lock. -/
def Waits (i : ι) (t : StoreProgram) : Prop := (sections ι).Outside (fun _ => True) (spec ι) i t

theorem waits_returns (op : StoreOp) (result : StoreEnd) : Waits i (returns op result) := trivial

theorem waits_look {c : StoreCall} {next : c.Reply → StoreProgram} (hc : takesLock c = false)
    (hlook : ∀ e s, (StateFiles.handle e c s).2 = s) (hnext : ∀ r, Waits i (next r)) :
    Waits i (.call () c next) := by
  refine ⟨?_, ?_, fun r _ => hnext r⟩
  · intro e s current now _ _ hfree
    have henters : (sections ι).enters c ((sections ι).handle e c s).1 = false := hc
    rw [if_neg (by rw [henters]; exact Bool.false_ne_true)]
    exact (congrArg StateFiles.state (hlook e s)).trans hfree
  · intro e s _ _
    exact ⟨hlook e s, hc⟩

theorem waits_lock {next : Unit → StoreProgram}
    (hinside : ∀ current s, s.state = current.map .dumped → Within i current (next ()) s) :
    Waits i (.call () .lock next) := by
  have henters (r : StoreCall.lock.Reply) : (sections ι).enters .lock r = true := rfl
  have hbreaks : (sections ι).breaks .lock = true := rfl
  refine ⟨?_, ?_, ?_⟩
  · intro e s current now _ _ hfree
    rw [if_pos (henters _)]
    exact hinside current s hfree
  · intro e s _ hnot
    rw [hbreaks] at hnot
    simp at hnot
  · intro r hnot
    rw [henters] at hnot
    simp at hnot

theorem waits_loadState : Waits i loadState := by
  refine waits_look rfl (fun _ _ => rfl) fun found => ?_
  match found with
  | none => exact waits_returns _ _
  | some false => exact waits_returns _ _
  | some true =>
    refine waits_lock fun current s h => ?_
    refine within_readState h fun state hstate => ?_
    refine within_returns h ?_
    intro other heq
    obtain ⟨-, hloaded⟩ := Prod.mk.inj heq
    rw [hstate, StoreEnd.loaded.inj hloaded]

theorem waits_saveStateAtomic (state : OperationStateModel) : Waits i (saveStateAtomic state) := by
  refine waits_look rfl (fun _ _ => rfl) fun (made : Bool) => ?_
  cases made with
  | false => exact waits_returns _ _
  | true =>
    refine waits_look rfl (fun _ _ => rfl) fun hex => ?_
    refine waits_lock fun current s h => ?_
    refine within_call h fun e => ?_
    simp only [StateFiles.handle]
    cases e.fails with
    | true => exact within_raised h
    | false =>
      cases current with
      | none =>
        simp only [h, Option.map_none]
        exact within_writeState h rfl
      | some current =>
        simp only [h, Option.map_some]
        refine within_readState h fun state' hstate => ?_
        obtain rfl := Option.some.inj hstate
        by_cases hopen : canReplaceState current.state state.state = true
        · simp only [hopen]
          refine within_writeState h ?_
          simp only [savedOver, if_pos hopen]
        · simp only [Bool.not_eq_true _ ▸ hopen]
          refine within_returns ?_ ?_
          · simp only [afterReturn, savedOver, if_neg hopen]
            exact h
          · intro other heq
            simp at heq

theorem waits_program (op : StoreOp) : Waits i op.program := by
  cases op with
  | load => exact waits_loadState
  | save state => exact waits_saveStateAtomic state

/-- The operations have come to `current` one after the other, and each load told what was so. -/
def Replayed (start current : Option OperationStateModel) (log : List (ι × Option StoreReturn)) :
    Prop :=
  contents start (ExclusiveSections.reported log) = current ∧
    ∀ done j state rest,
      ExclusiveSections.reported log = done ++ (j, load, .loaded state) :: rest →
      contents start done = some state

theorem replayed_told {start : Option OperationStateModel} {log : List (ι × Option StoreReturn)}
    {a : StoreReturn} (h : Replayed start current log) (htold : Told current a) :
    Replayed start (afterReturn current a) (log ++ [(i, some a)]) := by
  obtain ⟨hcontents, hloads⟩ := h
  refine ⟨?_, ?_⟩
  · rw [ExclusiveSections.reported_concat_some, contents_concat, hcontents]
  · intro done j state rest heq
    rw [ExclusiveSections.reported_concat_some] at heq
    rcases split_concat heq with ⟨-, rfl, hlast⟩ | ⟨rest, -, hbefore⟩
    · rw [hcontents]
      exact htold state (Prod.mk.inj hlast).2.symm
    · exact hloads done j state rest hbefore

theorem follows_replayed (start : Option OperationStateModel) :
    ExclusiveSections.Follows (spec ι) fun _ => Replayed start where
  later _ h := h
  did_later _ h := h
  torn_later _ h := h
  did h hdid := by
    obtain ⟨htold, rfl⟩ := hdid
    exact replayed_told h htold
  torn _ h htorn := by
    obtain rfl := htorn
    simpa only [Replayed, ExclusiveSections.reported_concat_none] using h

variable [DecidableEq ι]

/-- Nobody gets the state lock while somebody has it. Calls fail as they like. -/
def StoreGuard (w : StoreWorld ι) (a : StoreAction ι) : Prop :=
  (sections ι).Guard (fun _ => True) w a

def storeStep (w : StoreWorld ι) (a : StoreAction ι) : StoreWorld ι := (sections ι).step w a

instance (w : StoreWorld ι) (a : StoreAction ι) : Decidable (StoreGuard w a) :=
  inferInstanceAs (Decidable ((sections ι).Guard (fun _ => True) w a))

/-- At every moment of every run, `state.json` holds what the saves that came through have made of
it one after the other, each load has told what was so at its moment, and what has been told to
have ended stays so. -/
theorem state_file_atomic (w : StoreWorld ι) (hidle : ∀ i, (w.program i).isDone = true)
    (hnobody : w.holder = none) (hlog : w.log = []) {start : Option OperationStateModel}
    (hstart : w.store.state = start.map .dumped) (actions : List (StoreAction ι))
    (hg : Guarded storeStep StoreGuard w actions) {told : List (ι × StoreReturn)}
    (htold : told = ExclusiveSections.reported (exec storeStep w actions).log) :
    (exec storeStep w actions).store.state = (contents start told).map .dumped ∧
      (∀ done i state rest, told = done ++ (i, load, .loaded state) :: rest →
        contents start done = some state) ∧
      ∀ done i state later j state' rest, isTerminalState state.state = true →
        told = done ++ (i, load, .loaded state) :: later ++ (j, load, .loaded state') :: rest →
        state'.state = state.state := by
  have hinv := ExclusiveSections.sections_in_turn (fun _ op => waits_program op)
    (follows_replayed start) w hidle hnobody (x := start) hstart
    (by rw [hlog]; exact ⟨rfl, fun done _ _ _ heq => by simp [ExclusiveSections.reported] at heq⟩)
    actions hg
  have hreplayed : ∃ current, (exec storeStep w actions).store.state = current.map .dumped ∧
      Replayed start current (exec storeStep w actions).log := by
    cases hholder : (exec storeStep w actions).holder with
    | none => exact hinv.nobody hholder
    | some i =>
      obtain ⟨hrunning, _, current, _, hreplayed, hin⟩ := hinv.somebody i hholder
      obtain ⟨_, current', hstate, hsame⟩ := hin.now hrunning
      exact ⟨current, hsame ▸ hstate, hreplayed⟩
  obtain ⟨current, hstate, hcontents, hloads⟩ := hreplayed
  rw [← htold] at hcontents hloads
  refine ⟨hcontents ▸ hstate, hloads, ?_⟩
  intro done i state later j state' rest hterminal heq
  have hbefore : contents start done = some state := by
    refine hloads done i state (later ++ (j, load, .loaded state') :: rest) ?_
    rw [heq, List.append_assoc, List.cons_append]
  have hafter := hloads (done ++ (i, load, .loaded state) :: later) j state' rest heq
  rw [contents_append, hbefore] at hafter
  obtain ⟨last, hlast, hsame⟩ := contents_terminal hterminal ((i, load, .loaded state) :: later)
  rw [hlast] at hafter
  rw [← Option.some.inj hafter]
  exact hsame

/-- An operation with no state yet, and two threads. -/
def pairStart : StoreWorld Bool :=
  ⟨⟨none, fun _ => none⟩, .any, fun _ => returns load .raised, none, []⟩

def pairState (state : OperationState) : OperationStateModel :=
  { createOperation "op" 10 {} with state := state }

def pairCalls (who : Bool) (n : ℕ) : List (StoreAction Bool) :=
  List.replicate n (.call who ⟨false, none, 7⟩)

/-- One thread creates the operation and completes it, with a write that breaks off at first. The
other one stops before its `replace`, and then its cancellation comes too late. -/
def pairActions : List (StoreAction Bool) :=
  .start false (.save (pairState .queued)) :: pairCalls false 6 ++
  .start false (.save (pairState .completed)) :: .start true (.save (pairState .cancelling)) ::
  pairCalls true 2 ++ pairCalls false 5 ++ .call false ⟨true, some .unfinished, 7⟩ ::
  pairCalls true 4 ++ .crash true ::
  .start false (.save (pairState .completed)) :: .start true (.save (pairState .cancelling)) ::
  pairCalls false 7 ++ pairCalls true 5 ++ .start true load :: pairCalls true 3

def pairTold : List (Bool × StoreReturn) :=
  [(false, .save (pairState .queued), .saved), (false, .save (pairState .completed), .raised),
    (false, .save (pairState .completed), .saved), (true, .save (pairState .cancelling), .saved),
    (true, load, .loaded (pairState .completed))]

theorem state_file_atomic_pair :
    (exec storeStep pairStart pairActions).store.state = (contents none pairTold).map .dumped ∧
      (∀ done i state rest, pairTold = done ++ (i, load, .loaded state) :: rest →
        contents none done = some state) ∧
      ∀ done i state later j state' rest, isTerminalState state.state = true →
        pairTold = done ++ (i, load, .loaded state) :: later ++ (j, load, .loaded state') :: rest →
        state'.state = state.state :=
  state_file_atomic pairStart (fun _ => rfl) rfl rfl rfl pairActions (by decide +kernel)
    (by decide +kernel)

end StateThreads
end PypnmCmts
