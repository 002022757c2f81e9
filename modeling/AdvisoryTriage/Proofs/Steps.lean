import Mathlib.Data.List.Basic

/-!
# Steps that may fail

Texts are read and checkers are built in steps, each of which either gives a result or ends the
matter with an error. Here is what the success of the whole says of the steps: two steps in a row
(`bind_eq_ok_iff`), a check in front of a step (`ite_throw_eq_ok_iff`), and a run over a list, where
every step has succeeded (`exists_step_of_foldlM`) and what the steps append to something that can
be observed is there in the end (`observe_foldlM`). Where the fault of a step does not depend on
what came before it, a run ends with the fault of the first step that has one (`faultOf_foldlM`).
-/

namespace AdvisoryTriage

/-! ### Two steps -/

/-- Two steps in a row succeed if the first one does and the second one does on what it gave. -/
theorem bind_eq_ok_iff {ε α β : Type} {x : Except ε α} {f : α → Except ε β} {b : β} :
    (x >>= f) = .ok b ↔ ∃ a, x = .ok a ∧ f a = .ok b := by
  cases x <;> simp [bind, Except.bind]

/-- A step behind a check succeeds only if the check finds nothing. -/
theorem ite_throw_eq_ok_iff {ε α β : Type} {c : Prop} [Decidable c] {e : ε}
    {f : α → Except ε β} {x : Except ε β} {b : β} :
    (if c then throw e >>= f else x) = .ok b ↔ ¬ c ∧ x = .ok b := by
  by_cases hc : c <;> simp [hc, throw, throwThe, MonadExceptOf.throw, bind, Except.bind]

/-! ### Runs -/

section Runs

variable {σ ε β : Type} {f : σ → β → Except ε σ} {x : β} {xs : List β} {s s' : σ}

/-- A run succeeds if its first step does and the run from there does. -/
theorem foldlM_cons_eq_ok_iff :
    (x :: xs).foldlM f s = .ok s' ↔ ∃ t, f s x = .ok t ∧ xs.foldlM f t = .ok s' := by
  rw [List.foldlM_cons, bind_eq_ok_iff]

/-- In a run that succeeds every step has succeeded, at some state on the way. -/
theorem exists_step_of_foldlM (h : xs.foldlM f s = .ok s') (hx : x ∈ xs) :
    ∃ t t', f t x = .ok t' := by
  induction xs generalizing s with
  | nil => cases hx
  | cons y xs ih =>
    obtain ⟨t, hy, hxs⟩ := foldlM_cons_eq_ok_iff.mp h
    rcases List.mem_cons.mp hx with rfl | hx
    · exact ⟨s, t, hy⟩
    · exact ih hxs hx

/-- **A run of steps that may fail.** If every step that succeeds appends something to what is
observed of a state, then a run that succeeds appends it for one step after the other. -/
theorem observe_foldlM {γ : Type} (h : xs.foldlM f s = .ok s') (observe : σ → List γ)
    (g : β → List γ) (hstep : ∀ {s x s'}, f s x = .ok s' → observe s' = observe s ++ g x) :
    observe s' = observe s ++ xs.flatMap g := by
  induction xs generalizing s with
  | nil =>
    obtain rfl : s = s' := Except.ok.inj h
    simp
  | cons x xs ih =>
    obtain ⟨t, hx, hxs⟩ := foldlM_cons_eq_ok_iff.mp h
    rw [ih hxs, hstep hx, List.flatMap_cons, List.append_assoc]

end Runs

/-! ### Faults -/

/-- What an error is about; nothing if there is none. -/
def faultOf {ε α κ : Type} (cause : ε → κ) : Except ε α → Option κ
  | .ok _ => none
  | .error e => some (cause e)

theorem faultOf_eq_none_iff {ε α κ : Type} {cause : ε → κ} {x : Except ε α} :
    faultOf cause x = none ↔ ∃ a, x = .ok a := by
  cases x <;> simp [faultOf]

theorem faultOf_eq_some_iff {ε α κ : Type} {cause : ε → κ} {x : Except ε α} {k : κ} :
    faultOf cause x = some k ↔ ∃ e, x = .error e ∧ cause e = k := by
  cases x <;> simp [faultOf]

/-- **Where a run ends.** If every step has a fault of its own, whatever the state it is taken in,
then a run ends with the fault of the first step that has one. -/
theorem faultOf_foldlM {σ ε β κ : Type} {f : σ → β → Except ε σ} {cause : ε → κ}
    {fault? : β → Option κ} (hstep : ∀ s x, faultOf cause (f s x) = fault? x) (xs : List β) :
    ∀ s, faultOf cause (xs.foldlM f s) = xs.findSome? fault? := by
  induction xs with
  | nil => exact fun _ => rfl
  | cons x xs ih =>
    intro s
    rw [List.foldlM_cons, List.findSome?_cons, ← hstep s x]
    cases f s x with
    | ok t => exact ih t
    | error e => rfl

/-- A search through lists that stand one behind the other is a search through each in turn. -/
theorem findSome?_flatMap {β γ κ : Type} (g : β → List γ) (fault? : γ → Option κ) (xs : List β) :
    (xs.flatMap g).findSome? fault? = xs.findSome? fun x => (g x).findSome? fault? := by
  induction xs with
  | nil => rfl
  | cons x xs ih =>
    rw [List.flatMap_cons, List.findSome?_append, ih, List.findSome?_cons]
    cases (g x).findSome? fault? <;> rfl

end AdvisoryTriage
