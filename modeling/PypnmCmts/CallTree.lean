import Mathlib.Data.Set.Basic

/-! Programs that call their environment and go on with each reply. Between two calls a
program shows a part of its state, which is all that others can see of it. -/

/-- A program that ends with a value, or makes the call `c` and goes on with the reply. -/
inductive CallTree (C : Type) (R : C → Type) (V α : Type)
  | done (visible : V) (value : α)
  | call (visible : V) (c : C) (next : R c → CallTree C R V α)

namespace CallTree
variable {C : Type} {R : C → Type} {V α : Type}

def visible : CallTree C R V α → V
  | done v _ => v
  | call v _ _ => v

@[simp] theorem visible_done (v : V) (a : α) : (done v a : CallTree C R V α).visible = v := rfl

@[simp] theorem visible_call (v : V) (c : C) (next : R c → CallTree C R V α) :
    (call v c next).visible = v := rfl

/-- No call is left to be made. -/
def isDone : CallTree C R V α → Bool
  | done _ _ => true
  | call _ _ _ => false

/-- The call that is made next. -/
def nextCall : CallTree C R V α → Option C
  | done _ _ => none
  | call _ c _ => some c

/-- Each call is made in a visible state that `allows` it, and its reply moves the visible
state by `update`, whatever the replies are. -/
def Obeys (allows : V → C → Prop) (update : (c : C) → R c → V → V) : CallTree C R V α → Prop
  | done _ _ => True
  | call v c next =>
    allows v c ∧ ∀ r, (next r).visible = update c r v ∧ Obeys allows update (next r)

/-- An account `g`, moved by `update` with each reply, meets `goal` when the program ends. -/
def Settles {γ : Type} (update : (c : C) → R c → γ → γ) (goal : γ → Prop) :
    γ → CallTree C R V α → Prop
  | g, done _ _ => goal g
  | g, call _ c next => ∀ r, Settles update goal (update c r g) (next r)

/-- Whatever the replies are, all calls that are made meet `P`. -/
def Makes (P : C → Prop) : CallTree C R V α → Prop
  | done _ _ => True
  | call _ c next => P c ∧ ∀ r, Makes P (next r)

/-- Whatever the replies are, the program ends as `P` says. -/
def Ends (P : V → α → Prop) : CallTree C R V α → Prop
  | done v a => P v a
  | call _ _ next => ∀ r, Ends P (next r)

theorem eq_done_of_isDone {t : CallTree C R V α} (h : t.isDone = true) :
    ∃ a, t = done t.visible a := by
  cases t with
  | done v a => exact ⟨a, rfl⟩
  | call v c next => simp [isDone] at h

theorem Obeys.mono {allows allows' : V → C → Prop} {update : (c : C) → R c → V → V}
    (hmono : ∀ v c, allows v c → allows' v c) {t : CallTree C R V α}
    (h : t.Obeys allows update) : t.Obeys allows' update := by
  induction t with
  | done v a => trivial
  | call v c next ih => exact ⟨hmono v c h.1, fun r => ⟨(h.2 r).1, ih r (h.2 r).2⟩⟩

theorem Makes.mono {P Q : C → Prop} (hPQ : ∀ c, P c → Q c) {t : CallTree C R V α} (h : t.Makes P) :
    t.Makes Q := by
  induction t with
  | done v a => trivial
  | call v c next ih => exact ⟨hPQ c h.1, fun r => ih r (h.2 r)⟩

/-- What every allowed call keeps of the visible state is so at the end. -/
theorem Obeys.ends {allows : V → C → Prop} {update : (c : C) → R c → V → V} {I : V → Prop}
    (hkept : ∀ v c r, allows v c → I v → I (update c r v)) {t : CallTree C R V α}
    (h : t.Obeys allows update) (h0 : I t.visible) : t.Ends fun v _ => I v := by
  induction t with
  | done v a => exact h0
  | call v c next ih =>
    intro r
    obtain ⟨hvisible, hnext⟩ := h.2 r
    exact ih r hnext (hvisible ▸ hkept v c r h.1 h0)

theorem Obeys.and {allows allows' : V → C → Prop} {update : (c : C) → R c → V → V}
    {t : CallTree C R V α} (h : t.Obeys allows update) (h' : t.Obeys allows' update) :
    t.Obeys (fun v c => allows v c ∧ allows' v c) update := by
  induction t with
  | done v a => trivial
  | call v c next ih =>
    exact ⟨⟨h.1, h'.1⟩, fun r => ⟨(h.2 r).1, ih r (h.2 r).2 (h'.2 r).2⟩⟩

section Run
variable {S : Type} (handle : (c : C) → S → R c × S)

/-- The program run to its end without interruption against an environment state. -/
def run : CallTree C R V α → S → (V × α) × S
  | done v a, s => ((v, a), s)
  | call _ c next, s => run (next (handle c s).1) (handle c s).2

@[simp] theorem run_done (v : V) (a : α) (s : S) : run handle (done v a) s = ((v, a), s) := rfl

theorem run_call (v : V) (c : C) (next : R c → CallTree C R V α) (s : S) :
    run handle (call v c next) s = run handle (next (handle c s).1) (handle c s).2 := rfl

theorem Ends.run {P : V → α → Prop} {t : CallTree C R V α} (h : t.Ends P) (s : S) :
    P (CallTree.run handle t s).1.1 (CallTree.run handle t s).1.2 := by
  induction t generalizing s with
  | done v a => exact h
  | call v c next ih => exact ih _ (h _) _

/-- One call, if one is left to be made. -/
def resume : CallTree C R V α → S → CallTree C R V α × S
  | done v a, s => (done v a, s)
  | call _ c next, s => (next (handle c s).1, (handle c s).2)

/-- Calls made one by one end as the uninterrupted run does. -/
theorem exists_resume_eq_run (t : CallTree C R V α) (s : S) :
    ∃ n, (fun p : CallTree C R V α × S => resume handle p.1 p.2)^[n] (t, s) =
      (done (run handle t s).1.1 (run handle t s).1.2, (run handle t s).2) := by
  induction t generalizing s with
  | done v a => exact ⟨0, rfl⟩
  | call v c next ih =>
    obtain ⟨n, hn⟩ := ih (handle c s).1 (handle c s).2
    exact ⟨n+1, by rw [Function.iterate_succ_apply]; exact hn⟩

end Run
end CallTree
