import Mathlib.Logic.Function.Basic
import Mathlib.Order.Defs.PartialOrder
import PypnmCmts.CallTree
import PypnmCmts.LabelledRun

/-! Parties that work on one store, call by call, and take a lock for a section of their work. As
long as nobody breaks the lock of a party in its section, the sections take effect one after the
other, each as if at one moment, and so does what a party that fails in its section has done. -/
open LabelledRun CallTree

/-- The calls on a store, with an answer of the environment to each, and the operations of the
parties. Some replies let a party into its section, which lasts until its operation ends. -/
structure ExclusiveSections (C : Type) (R : C → Type) (S ε τ V α ι O : Type) where
  handle : ε → (c : C) → S → R c × S
  time : ε → τ
  enters : (c : C) → R c → Bool
  breaks : C → Bool
  ops : ι → O → CallTree C R V α
  stopped : V × α

namespace ExclusiveSections
variable {C : Type} {R : C → Type} {S ε τ V α ι O A : Type}

/-- The store, what each party is still to do, who is in its section, and how the sections ended
so far, `none` for one that was cut off. -/
structure World (C : Type) (R : C → Type) (S τ V α ι : Type) where
  store : S
  clock : τ
  program : ι → CallTree C R V α
  holder : Option ι
  log : List (ι × Option α)

/-- What the parties that were not cut off came to. -/
def reported (log : List (ι × Option α)) : List (ι × α) :=
  log.filterMap fun entry => entry.2.map (entry.1, ·)

theorem reported_concat_some (log : List (ι × Option α)) (i : ι) (a : α) :
    reported (log ++ [(i, some a)]) = reported log ++ [(i, a)] := by
  simp [reported, List.filterMap_append]

theorem reported_concat_none (log : List (ι × Option α)) (i : ι) :
    reported (log ++ [(i, none)]) = reported log := by
  simp [reported, List.filterMap_append]

inductive Action (ι O ε : Type)
  | start (who : ι) (op : O)
  | call (who : ι) (answer : ε)
  | crash (who : ι)

/-- What a store says in terms of the values that the sections work on, and what one section may
do to such a value from its beginning to its end, or until it is cut off. -/
structure Spec (S τ α ι A : Type) where
  free : A → S → Prop
  locked : S → Prop
  did : ι → α → τ → A → τ → A → Prop
  torn : ι → τ → A → τ → A → Prop

section Always
variable [Preorder τ] (handle : ε → (c : C) → S → R c × S) (time : ε → τ) (ok : ε → Prop)

/-- Whatever is answered, in the order of time, `Q` holds before each call and `P` at the end. -/
def Always (Q : τ → S → Prop) (P : τ → S → α → Prop) : τ → CallTree C R V α → S → Prop
  | now, .done _ a, s => P now s a
  | now, .call _ c next, s =>
    Q now s ∧ ∀ e, ok e → now ≤ time e →
      Always Q P (time e) (next (handle e c s).1) (handle e c s).2

variable {handle time ok} {Q : τ → S → Prop} {P : τ → S → α → Prop}

theorem Always.now {now : τ} {t : CallTree C R V α} {s : S}
    (hrunning : t.isDone = false) (h : Always handle time ok Q P now t s) : Q now s := by
  cases t with
  | done v a => simp [isDone] at hrunning
  | call v c next => exact h.1

/-- A program that is left alone for a while has nothing to fear. -/
theorem Always.later (hQ : ∀ s now now', now ≤ now' → Q now s → Q now' s)
    (hP : ∀ s a now now', now ≤ now' → P now s a → P now' s a) {now now' : τ} (hle : now ≤ now')
    {t : CallTree C R V α} {s : S} (h : Always handle time ok Q P now t s) :
    Always handle time ok Q P now' t s := by
  cases t with
  | done v a => exact hP s a now now' hle h
  | call v c next => exact ⟨hQ s now now' hle h.1, fun e he hnow => h.2 e he (hle.trans hnow)⟩

theorem Always.mono {Q' : τ → S → Prop} {P' : τ → S → α → Prop} (hQ : ∀ now s, Q now s → Q' now s)
    (hP : ∀ now s a, P now s a → P' now s a) {now : τ} {t : CallTree C R V α} {s : S}
    (h : Always handle time ok Q P now t s) : Always handle time ok Q' P' now t s := by
  induction t generalizing now s with
  | done v a => exact hP now s a h
  | call v c next ih => exact ⟨hQ now s h.1, fun e he hnow => ih _ (h.2 e he hnow)⟩

end Always

variable [DecidableEq ι] (sys : ExclusiveSections C R S ε τ V α ι O)

/-- The call of a party, which may take it into its section, on in it or out of it. -/
def callStep (w : World C R S τ V α ι) (i : ι) (e : ε) : World C R S τ V α ι :=
  match w.program i with
  | .done _ _ => { w with clock := sys.time e }
  | .call _ c next =>
    let reply := (sys.handle e c w.store).1
    let store := (sys.handle e c w.store).2
    let program := Function.update w.program i (next reply)
    if w.holder = some i ∨ sys.enters c reply then
      match next reply with
      | .done _ a => ⟨store, sys.time e, program, none, w.log ++ [(i, some a)]⟩
      | .call _ _ _ => ⟨store, sys.time e, program, some i, w.log⟩
    else ⟨store, sys.time e, program, w.holder, w.log⟩

def step (w : World C R S τ V α ι) : Action ι O ε → World C R S τ V α ι
  | .start i op =>
    if (w.program i).isDone then
      { w with program := Function.update w.program i (sys.ops i op) }
    else w
  | .call i e => sys.callStep w i e
  | .crash i =>
    { w with
      program := Function.update w.program i (.done sys.stopped.1 sys.stopped.2)
      holder := if w.holder = some i then none else w.holder
      log := if w.holder = some i then w.log ++ [(i, none)] else w.log }

/-- Time goes on, and nobody breaks the lock of a party in its section. -/
def Guard [LE τ] (ok : ε → Prop) (w : World C R S τ V α ι) : Action ι O ε → Prop
  | .call i e => w.clock ≤ sys.time e ∧ ok e ∧ (w.holder = none ∨ w.holder = some i ∨
      (w.program i).nextCall.all (fun c => !sys.breaks c) = true)
  | _ => True

instance [LE τ] [DecidableLE τ] (ok : ε → Prop) [DecidablePred ok] (w : World C R S τ V α ι) :
    ∀ a, Decidable (sys.Guard ok w a)
  | .start _ _ => isTrue trivial
  | .call _ _ => inferInstanceAs (Decidable (_ ∧ _ ∧ (_ ∨ _ ∨ _ = true)))
  | .crash _ => isTrue trivial

section Soundness
variable [Preorder τ] (ok : ε → Prop) (spec : Spec S τ α ι A)

/-- Inside its section, which began at `began` with the value `x`. -/
def Inside (i : ι) (began : τ) (x : A) : τ → CallTree C R V α → S → Prop :=
  Always sys.handle sys.time ok
    (fun now s => spec.locked s ∧ ∃ y, spec.free y s ∧ spec.torn i began x now y)
    (fun now s a => ∃ y, spec.free y s ∧ spec.did i a began x now y)

/-- Outside its section a party changes nothing that counts, and leaves a store that is locked
as it is unless it breaks the lock. -/
def Outside (i : ι) : CallTree C R V α → Prop
  | .done _ _ => True
  | .call _ c next =>
    (∀ e s x now, ok e → now ≤ sys.time e → spec.free x s →
      if sys.enters c (sys.handle e c s).1 then
        sys.Inside ok spec i now x (sys.time e) (next (sys.handle e c s).1) (sys.handle e c s).2
      else spec.free x (sys.handle e c s).2) ∧
    (∀ e s, spec.locked s → sys.breaks c = false →
      (sys.handle e c s).2 = s ∧ sys.enters c (sys.handle e c s).1 = false) ∧
    ∀ r, sys.enters c r = false → Outside i (next r)

/-- What is known between two actions of a run, where `J` is what the sections so far have done. -/
structure Inv (J : τ → A → List (ι × Option α) → Prop) (w : World C R S τ V α ι) : Prop where
  outside : ∀ i, w.holder ≠ some i → sys.Outside ok spec i (w.program i)
  nobody : w.holder = none → ∃ x, spec.free x w.store ∧ J w.clock x w.log
  somebody : ∀ i, w.holder = some i → (w.program i).isDone = false ∧
    ∃ began x, began ≤ w.clock ∧ J began x w.log ∧
      sys.Inside ok spec i began x w.clock (w.program i) w.store

variable {sys ok spec} {J : τ → A → List (ι × Option α) → Prop}

/-- The sections do what `J` can follow, and what is done by some time is done by any later one. -/
structure Follows (spec : Spec S τ α ι A) (J : τ → A → List (ι × Option α) → Prop) : Prop where
  later : ∀ {now now' x log}, now ≤ now' → J now x log → J now' x log
  did_later : ∀ {i a began x now now' y}, now ≤ now' → spec.did i a began x now y →
    spec.did i a began x now' y
  torn_later : ∀ {i began x now now' y}, now ≤ now' → spec.torn i began x now y →
    spec.torn i began x now' y
  did : ∀ {i a began x now y log}, J began x log → spec.did i a began x now y →
    J now y (log ++ [(i, some a)])
  torn : ∀ {i began x now y log}, began ≤ now → J began x log → spec.torn i began x now y →
    J now y (log ++ [(i, none)])

omit [DecidableEq ι] in
theorem Inside.later (hJ : Follows spec J) {i : ι} {began now now' : τ} {x : A} (hle : now ≤ now')
    {t : CallTree C R V α} {s : S} (h : sys.Inside ok spec i began x now t s) :
    sys.Inside ok spec i began x now' t s := by
  refine Always.later ?_ ?_ hle h
  · intro s now now' hle h
    obtain ⟨hlocked, y, hfree, htorn⟩ := h
    exact ⟨hlocked, y, hfree, hJ.torn_later hle htorn⟩
  · intro s a now now' hle h
    obtain ⟨y, hfree, hdid⟩ := h
    exact ⟨y, hfree, hJ.did_later hle hdid⟩

/-- A party goes on in its section or out of it. -/
theorem inv_inside (hJ : Follows spec J) (w : World C R S τ V α ι) {i : ι} {e : ε}
    {began : τ} {x : A}
    {c : C} {next : R c → CallTree C R V α} (hp : w.program i = .call (w.program i).visible c next)
    (hin : w.holder = some i ∨ sys.enters c (sys.handle e c w.store).1 = true)
    (hbegan : began ≤ sys.time e) (hlog : J began x w.log)
    (hout : ∀ j, j ≠ i → sys.Outside ok spec j (w.program j))
    (h : sys.Inside ok spec i began x (sys.time e) (next (sys.handle e c w.store).1)
      (sys.handle e c w.store).2) :
    sys.Inv ok spec J (sys.callStep w i e) := by
  have hothers (t : CallTree C R V α) (j : ι) (hj : j ≠ i) :
      sys.Outside ok spec j (Function.update w.program i t j) := by
    rw [Function.update_of_ne hj]
    exact hout j hj
  rw [callStep, hp]
  simp only [hin, if_true]
  cases hn : next (sys.handle e c w.store).1 with
  | done v a =>
    rw [hn] at h
    obtain ⟨y, hfree, hdid⟩ := h
    refine ⟨?_, fun _ => ⟨y, hfree, hJ.did hlog hdid⟩, fun j hj => by simp at hj⟩
    intro j _
    by_cases hj : j = i
    · subst hj
      simp only [Function.update_self]
      trivial
    · exact hothers _ j hj
  | call v c' next' =>
    rw [hn] at h
    refine ⟨?_, fun hnone => by simp at hnone, ?_⟩
    · intro j hj
      exact hothers _ j fun he => hj (by rw [he])
    · intro j hj
      obtain rfl : i = j := Option.some.inj hj
      simp only [Function.update_self]
      exact ⟨rfl, began, x, hbegan, hlog, h⟩

/-- A party that is not in its section leaves everybody else where they are. -/
theorem inv_outside (hJ : Follows spec J) (w : World C R S τ V α ι) {i : ι} {e : ε} {c : C}
    {next : R c → CallTree C R V α} (hp : w.program i = .call (w.program i).visible c next)
    (hne : w.holder ≠ some i) (he : sys.enters c (sys.handle e c w.store).1 = false)
    (hle : w.clock ≤ sys.time e) (h : sys.Inv ok spec J w)
    (hfree : ∀ x, spec.free x w.store → w.holder = none → spec.free x (sys.handle e c w.store).2)
    (hsame : w.holder ≠ none → (sys.handle e c w.store).2 = w.store) :
    sys.Inv ok spec J (sys.callStep w i e) := by
  rw [callStep, hp]
  simp only [hne, he, Bool.false_eq_true, or_self, if_false]
  refine ⟨?_, ?_, ?_⟩
  · intro j hj
    by_cases hji : j = i
    · subst hji
      have hout := h.outside j hne
      rw [hp] at hout
      simp only [Function.update_self]
      exact hout.2.2 _ he
    · simp only [Function.update_of_ne hji]
      exact h.outside j hj
  · intro hnone
    obtain ⟨x, hx, hlog⟩ := h.nobody hnone
    exact ⟨x, hfree x hx hnone, hJ.later hle hlog⟩
  · intro j hj
    have hholder : w.holder = some j := hj
    have hji : j ≠ i := fun heq => hne (heq ▸ hholder)
    obtain ⟨hrunning, began, x, hbegan, hlog, hin⟩ := h.somebody j hholder
    simp only [Function.update_of_ne hji, hsame (by simp [hholder])]
    exact ⟨hrunning, began, x, hbegan.trans hle, hlog, hin.later hJ hle⟩

theorem inv_call (hJ : Follows spec J) (w : World C R S τ V α ι) (i : ι) (e : ε)
    (hg : sys.Guard ok w (.call i e)) (h : sys.Inv ok spec J w) :
    sys.Inv ok spec J (sys.callStep w i e) := by
  obtain ⟨hle, hok, hbreaks⟩ := hg
  cases hp : w.program i with
  | done v a =>
    rw [callStep, hp]
    refine ⟨h.outside, ?_, ?_⟩
    · intro hnone
      obtain ⟨x, hx, hlog⟩ := h.nobody hnone
      exact ⟨x, hx, hJ.later hle hlog⟩
    · intro j hj
      obtain ⟨hrunning, began, x, hbegan, hlog, hin⟩ := h.somebody j hj
      exact ⟨hrunning, began, x, hbegan.trans hle, hlog, hin.later hJ hle⟩
  | call v c next =>
    have hp' : w.program i = .call (w.program i).visible c next := by rw [hp]; rfl
    by_cases hin : w.holder = some i
    · obtain ⟨-, began, x, hbegan, hlog, hsection⟩ := h.somebody i hin
      rw [hp] at hsection
      refine inv_inside hJ w hp' (Or.inl hin) (hbegan.trans hle) hlog ?_ (hsection.2 e hok hle)
      intro j hj
      refine h.outside j ?_
      rw [hin]
      exact fun heq => hj (Option.some.inj heq).symm
    · have hout := h.outside i hin
      rw [hp] at hout
      obtain ⟨hopen, hquiet, -⟩ := hout
      cases hholder : w.holder with
      | none =>
        obtain ⟨x, hx, hlog⟩ := h.nobody hholder
        have hcall := hopen e w.store x w.clock hok hle hx
        cases henters : sys.enters c (sys.handle e c w.store).1 with
        | true =>
          rw [if_pos henters] at hcall
          exact inv_inside hJ w hp' (Or.inr henters) hle hlog
            (fun j _ => h.outside j (by simp [hholder])) hcall
        | false =>
          refine inv_outside hJ w hp' hin henters hle h ?_ (fun hne => absurd hholder hne)
          intro y hy _
          have hcall' := hopen e w.store y w.clock hok hle hy
          rwa [if_neg (by simp [henters])] at hcall'
      | some j =>
        -- the store is locked, and the call is not one that breaks the lock
        have hne : w.holder ≠ none := by simp [hholder]
        obtain ⟨hrunning, began, x, -, -, hsection⟩ := h.somebody j hholder
        obtain ⟨hsame, henters⟩ := hquiet e w.store (hsection.now hrunning).1
          (by simpa [hp, nextCall] using (hbreaks.resolve_left hne).resolve_left hin)
        exact inv_outside hJ w hp' hin henters hle h (fun _ _ hnone => absurd hnone hne)
          fun _ => hsame

theorem inv_step (hops : ∀ i op, sys.Outside ok spec i (sys.ops i op)) (hJ : Follows spec J)
    (w : World C R S τ V α ι) (a : Action ι O ε) (hg : sys.Guard ok w a)
    (h : sys.Inv ok spec J w) : sys.Inv ok spec J (sys.step w a) := by
  cases a with
  | start i op =>
    simp only [step]
    split
    · next hdone =>
      refine ⟨?_, h.nobody, ?_⟩
      · intro j hj
        by_cases hji : j = i
        · subst hji
          simp only [Function.update_self]
          exact hops j op
        · simp only [Function.update_of_ne hji]
          exact h.outside j hj
      · intro j hj
        have hrunning := (h.somebody j hj).1
        have hji : j ≠ i := by
          rintro rfl
          simp [hdone] at hrunning
        simp only [Function.update_of_ne hji]
        exact h.somebody j hj
    · exact h
  | call i e => exact inv_call hJ w i e hg h
  | crash i =>
    simp only [step]
    by_cases hin : w.holder = some i
    · obtain ⟨hrunning, began, x, hbegan, hlog, hsection⟩ := h.somebody i hin
      obtain ⟨-, y, hfree, htorn⟩ := hsection.now hrunning
      simp only [if_pos hin]
      refine ⟨?_, fun _ => ⟨y, hfree, hJ.torn hbegan hlog htorn⟩, fun j hj => by simp at hj⟩
      intro j _
      by_cases hj : j = i
      · subst hj
        simp only [Function.update_self]
        trivial
      · simp only [Function.update_of_ne hj]
        refine h.outside j ?_
        rw [hin]
        exact fun heq => hj (Option.some.inj heq).symm
    · simp only [if_neg hin]
      refine ⟨?_, h.nobody, ?_⟩
      · intro j hj
        by_cases hji : j = i
        · subst hji
          simp only [Function.update_self]
          trivial
        · simp only [Function.update_of_ne hji]
          exact h.outside j hj
      · intro j hj
        have hji : j ≠ i := fun heq => hin (heq ▸ hj)
        simp only [Function.update_of_ne hji]
        exact h.somebody j hj

/-- Whatever the interleaving, the failures and the answers: while nobody is in a section, the
store shows what the sections have done so far, one after the other. -/
theorem sections_in_turn (hops : ∀ i op, sys.Outside ok spec i (sys.ops i op))
    (hJ : Follows spec J) (w : World C R S τ V α ι) (hidle : ∀ i, (w.program i).isDone = true)
    (hnobody : w.holder = none) {x : A} (hfree : spec.free x w.store) (hlog : J w.clock x w.log)
    (actions : List (Action ι O ε)) (hg : Guarded sys.step (sys.Guard ok) w actions) :
    sys.Inv ok spec J (exec sys.step w actions) := by
  refine invariant_of_guarded (inv_step hops hJ) hg ⟨?_, fun _ => ⟨x, hfree, hlog⟩, ?_⟩
  · intro i _
    obtain ⟨a, ha⟩ := eq_done_of_isDone (hidle i)
    rw [ha]
    trivial
  · intro i hi
    simp [hnobody] at hi

end Soundness
end ExclusiveSections
