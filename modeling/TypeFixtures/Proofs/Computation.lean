import Mathlib.Data.List.Basic

/-!
# Computations that may fail

How a computation with a state goes on after its first part, and what is known of the parts of one
that went well.  Each fact about results stands beside the same one for computations without a state.
-/

namespace TypeFixtures

variable {σ ε ε' α β : Type} {state later : σ}

theorem mapError_eq_ok {x : Except ε α} {f : ε → ε'} {a : α} (h : x.mapError f = .ok a) :
    x = .ok a := by
  cases x with
  | ok b =>
      cases h
      rfl
  | error error => cases h

theorem except_bind_eq_ok {x : Except ε α} {f : α → Except ε β} {b : β} (h : x >>= f = .ok b) :
    ∃ a, x = .ok a ∧ f a = .ok b := by
  cases x with
  | ok a => exact ⟨a, rfl, h⟩
  | error error => contradiction

/-! ## With a state -/

/-- A computation goes on from the value and the state of its first part. -/
theorem run_bind_of_run {x : StateM σ α} {a : α} (h : x.run state = (a, later))
    (f : α → StateM σ β) : (x >>= f).run state = (f a).run later := by
  rw [StateT.run_bind, h]
  rfl

/-- A computation goes on from the value of its first part, or ends with its error. -/
theorem run_bind (x : ExceptT ε (StateM σ) α) (f : α → ExceptT ε (StateM σ) β) (state : σ) :
    (x >>= f).run.run state =
      match x.run.run state with
      | (.ok a, between) => (f a).run.run between
      | (.error error, between) => (.error error, between) := by
  rw [ExceptT.run_bind, StateT.run_bind]
  cases x.run.run state with
  | mk result between => cases result <;> rfl

theorem run_bind_eq_ok {x : ExceptT ε (StateM σ) α} {f : α → ExceptT ε (StateM σ) β} {b : β}
    (h : (x >>= f).run.run state = (.ok b, later)) :
    ∃ a between, x.run.run state = (.ok a, between) ∧
      (f a).run.run between = (.ok b, later) := by
  rw [run_bind] at h
  cases hx : x.run.run state with
  | mk result between =>
      rw [hx] at h
      cases result with
      | ok a => exact ⟨a, between, rfl, h⟩
      | error error => cases h

theorem run_adapt_eq_ok {x : ExceptT ε (StateM σ) α} {f : ε → ε'} {a : α}
    (h : (x.adapt f).run.run state = (.ok a, later)) : x.run.run state = (.ok a, later) := by
  obtain ⟨hresult, hlater⟩ := Prod.mk.inj h
  exact Prod.ext (mapError_eq_ok hresult) hlater

/-- A check that fails leaves no value. -/
theorem run_check_eq_ok {fails : Bool} {error : ε} {a b : α}
    (h : (if fails then throw error else pure a : ExceptT ε (StateM σ) α).run.run state =
      (.ok b, later)) : b = a := by
  cases fails with
  | true => cases h
  | false =>
      cases h
      rfl

/-! ## Without a state -/

theorem bind_run_of_ok {x : ExceptT ε Id α} {a : α} (h : x.run = .ok a)
    (f : α → ExceptT ε Id β) : (x >>= f).run = (f a).run := by
  change (match x.run with
    | .ok a => (f a).run
    | .error error => .error error) = _
  rw [h]

theorem bind_run_of_error {x : ExceptT ε Id α} {error : ε} (h : x.run = .error error)
    (f : α → ExceptT ε Id β) : (x >>= f).run = .error error := by
  change (match x.run with
    | .ok a => (f a).run
    | .error error => .error error) = _
  rw [h]

theorem bind_eq_ok {x : ExceptT ε Id α} {f : α → ExceptT ε Id β} {b : β}
    (h : (x >>= f).run = .ok b) : ∃ a, x.run = .ok a ∧ (f a).run = .ok b := by
  change (match x.run with
    | .ok a => (f a).run
    | .error error => .error error) = Except.ok b at h
  cases hx : x.run with
  | ok a => exact ⟨a, rfl, by rwa [hx] at h⟩
  | error error =>
      rw [hx] at h
      contradiction

theorem bind_run_congr {x y : ExceptT ε Id α} {f g : α → ExceptT ε Id β} (h : x.run = y.run)
    (hrest : ∀ a, y.run = .ok a → (f a).run = (g a).run) : (x >>= f).run = (y >>= g).run := by
  cases hy : y.run with
  | ok a => rw [bind_run_of_ok (h.trans hy), bind_run_of_ok hy, hrest a hy]
  | error error => rw [bind_run_of_error (h.trans hy), bind_run_of_error hy]

theorem adapt_eq_ok {x : ExceptT ε Id α} {f : ε → ε'} {a : α} (h : (x.adapt f).run = .ok a) :
    x.run = .ok a :=
  mapError_eq_ok h

theorem check_eq_ok {fails : Bool} {error : ε} {a b : α}
    (h : (if fails then throw error else pure a : ExceptT ε Id α).run = .ok b) : b = a := by
  cases fails with
  | true => contradiction
  | false => exact (Except.ok.inj h).symm

end TypeFixtures
