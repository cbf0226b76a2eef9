import Mathlib.Logic.Basic

/-!
# Computations that can fail

Code that may give up is a function into `Except ε`. A successful run of such code is taken apart one
call at a time with the rules below, and put together again with the same rules read backwards.
-/

namespace Fallible

variable {ε : Type} {α β : Type}

/-- A sequence succeeds if and only if both parts do. -/
theorem bind_eq_ok {x : Except ε α} {f : α → Except ε β} {b : β} :
    x >>= f = .ok b ↔ ∃ a, x = .ok a ∧ f a = .ok b := by
  cases x with
  | error e => simp [bind, Except.bind]
  | ok a => simp [bind, Except.bind]

@[simp] theorem ok_bind (a : α) (f : α → Except ε β) : (Except.ok a : Except ε α) >>= f = f a := rfl

@[simp] theorem pure_eq_ok (a b : α) : (pure a : Except ε α) = .ok b ↔ a = b := by
  simp [pure, Except.pure]

@[simp] theorem throw_ne_ok (e : ε) (a : α) : (throw e : Except ε α) ≠ .ok a := nofun

/-- A checked step succeeds if and only if the check does. -/
theorem ite_throw_eq_ok {p : Prop} [Decidable p] {e : ε} {x : Except ε α} {a : α} :
    (if p then throw e else x) = .ok a ↔ ¬ p ∧ x = .ok a := by
  by_cases h : p <;> simp [h]

/-- The same for a check whose outcome the step uses. -/
theorem dite_throw_eq_ok {p : Prop} [Decidable p] {e : ε} {x : ¬ p → Except ε α} {a : α} :
    (if h : p then throw e else x h) = .ok a ↔ ∃ h : ¬ p, x h = .ok a := by
  by_cases h : p
  · simp [h]
  · rw [dif_neg h]
    exact ⟨fun hx => ⟨h, hx⟩, fun ⟨_, hx⟩ => hx⟩

theorem toOption_eq_some {x : Except ε α} {a : α} (h : x.toOption = some a) : x = .ok a := by
  cases x with
  | error e => cases h
  | ok b => exact congrArg Except.ok (Option.some.inj h)

/-- The computation succeeds, with a result that passes the test. -/
def okAnd (x : Except ε α) (test : α → Bool) : Bool :=
  match x with
  | .ok a => test a
  | .error _ => false

theorem okAnd_eq_true {x : Except ε α} {test : α → Bool} :
    okAnd x test = true ↔ ∃ a, x = .ok a ∧ test a = true := by
  cases x with
  | error e => simp [okAnd]
  | ok a => simp [okAnd]

/-- The computation succeeds with a result in `post`, or fails in a way that is allowed. -/
def Meets (x : Except ε α) (allowed : ε → Prop) (post : α → Prop) : Prop :=
  match x with
  | .ok a => post a
  | .error e => allowed e

variable {x : Except ε α} {f : α → Except ε β} {allowed allowed' : ε → Prop} {post post' : α → Prop}
  {goal : β → Prop}

/-- **Sequence rule.** -/
theorem Meets.bind (h : Meets x allowed post) (hf : ∀ a, post a → Meets (f a) allowed goal) :
    Meets (x >>= f) allowed goal := by
  cases x with
  | error e => exact h
  | ok a => exact hf a h

/-- **Consequence rule.** -/
theorem Meets.imp (h : Meets x allowed post) (hfail : ∀ e, allowed e → allowed' e)
    (hpost : ∀ a, post a → post' a) : Meets x allowed' post' := by
  cases x with
  | error e => exact hfail e h
  | ok a => exact hpost a h

theorem Meets.of_ok {a : α} (h : Meets x allowed post) (hx : x = .ok a) : post a := by
  subst hx
  exact h

theorem Meets.of_error {e : ε} (h : Meets x allowed post) (hx : x = .error e) : allowed e := by
  subst hx
  exact h

/-! ## Two computations side by side -/

/-- Both computations succeed, with results in relation, or both fail with the same error. -/
def Related (rel : α → β → Prop) : Except ε α → Except ε β → Prop
  | .ok a, .ok b => rel a b
  | .error e, .error e' => e = e'
  | .ok _, .error _ => False
  | .error _, .ok _ => False

section

variable {γ δ : Type} {rel : α → β → Prop} {rel' : γ → δ → Prop} {y : Except ε β} {e : ε}

theorem Related.pure {a : α} {b : β} (h : rel a b) :
    Related rel (pure a : Except ε α) (pure b : Except ε β) := h

/-- **Sequence rule** for two computations. -/
theorem Related.bind {f : α → Except ε γ} {g : β → Except ε δ} (h : Related rel x y)
    (hf : ∀ a b, rel a b → Related rel' (f a) (g b)) : Related rel' (x >>= f) (y >>= g) := by
  cases x with
  | error e =>
    cases y with
    | error e' => exact h
    | ok b => exact h.elim
  | ok a =>
    cases y with
    | error e' => exact h.elim
    | ok b => exact hf a b h

/-- The result of the first computation is processed further. -/
theorem Related.map {f : α → γ} {rel₁ : γ → β → Prop} (h : Related rel x y)
    (hf : ∀ a b, rel a b → rel₁ (f a) b) : Related rel₁ (x >>= fun a => Pure.pure (f a)) y := by
  cases x with
  | error e =>
    cases y with
    | error e' => exact h
    | ok b => exact h.elim
  | ok a =>
    cases y with
    | error e' => exact h.elim
    | ok b => exact hf a b h

/-- The same check in both, on different grounds. -/
theorem Related.ite_throw {p q : Prop} [Decidable p] [Decidable q] (hpq : p ↔ q)
    (h : ¬ p → ¬ q → Related rel x y) :
    Related rel (if p then throw e else x) (if q then throw e else y) := by
  by_cases hp : p
  · rw [if_pos hp, if_pos (hpq.mp hp)]
    exact rfl
  · have hq : ¬ q := fun hq => hp (hpq.mpr hq)
    rw [if_neg hp, if_neg hq]
    exact h hp hq

/-- The same where the second computation uses the outcome. -/
theorem Related.ite_dite_throw {p q : Prop} [Decidable p] [Decidable q] {y : ¬ q → Except ε β}
    (hpq : p ↔ q) (h : ¬ p → ∀ hq : ¬ q, Related rel x (y hq)) :
    Related rel (if p then throw e else x) (if hq : q then throw e else y hq) := by
  by_cases hp : p
  · rw [if_pos hp, dif_pos (hpq.mp hp)]
    exact rfl
  · have hq : ¬ q := fun hq => hp (hpq.mpr hq)
    rw [if_neg hp, dif_neg hq]
    exact h hp hq

theorem Related.and_post {post : β → Prop} (h : Related rel x y) (hy : Meets y allowed post) :
    Related (fun a b => rel a b ∧ post b) x y := by
  cases x with
  | error e =>
    cases y with
    | error e' => exact h
    | ok b => exact h.elim
  | ok a =>
    cases y with
    | error e' => exact h.elim
    | ok b => exact ⟨h, hy⟩

theorem Related.of_ok_left {a : α} (h : Related rel x y) (hx : x = .ok a) :
    ∃ b, y = .ok b ∧ rel a b := by
  subst hx
  cases y with
  | error e => exact h.elim
  | ok b => exact ⟨b, rfl, h⟩

theorem Related.of_ok_right {b : β} (h : Related rel x y) (hy : y = .ok b) :
    ∃ a, x = .ok a ∧ rel a b := by
  subst hy
  cases x with
  | error e => exact h.elim
  | ok a => exact ⟨a, rfl, h⟩

/-- What is known of the second computation holds of the first one. -/
theorem Related.meets {post : β → Prop} (h : Related rel x y) (hy : Meets y allowed post) :
    Meets x allowed fun a => ∃ b, rel a b ∧ post b := by
  cases x with
  | error e =>
    cases y with
    | error e' =>
      obtain rfl : e = e' := h
      exact hy
    | ok b => exact h.elim
  | ok a =>
    cases y with
    | error e' => exact h.elim
    | ok b => exact ⟨b, h, hy⟩

end

end Fallible
