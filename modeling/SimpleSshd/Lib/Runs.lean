import Mathlib.Logic.Relation

/-!
# Runs of a labelled transition system

A system is a relation `step s e t`: in state `s` the event `e` may lead to `t`. A run is a finite
sequence of such steps. The rules below package the two inductions every safety proof needs: an
invariant that each step preserves holds at the end of a run, and a run in which every step meets a
side condition is a run of the guarded system.
-/

namespace Runs

variable {σ ε : Type*}

/-- The events `es`, in this order, lead from the first state to the second. -/
inductive Run (step : σ → ε → σ → Prop) : σ → List ε → σ → Prop
  | nil (s : σ) : Run step s [] s
  | cons {s t u : σ} {e : ε} {es : List ε} :
      step s e t → Run step t es u → Run step s (e :: es) u

/-- The system whose steps must also meet the condition `ok` on the state they start from. -/
def guarded (step : σ → ε → σ → Prop) (ok : σ → ε → Prop) : σ → ε → σ → Prop :=
  fun s e t => ok s e ∧ step s e t

/-- The step relation of a partial step function. -/
def ofFun (f : σ → ε → Option σ) : σ → ε → σ → Prop := fun s e t => f s e = some t

/-- Executing a list of events with a partial step function. -/
def exec (f : σ → ε → Option σ) (s : σ) : List ε → Option σ
  | [] => some s
  | e :: es => (f s e).bind fun t => exec f t es

variable {step : σ → ε → σ → Prop} {ok : σ → ε → Prop} {s t u : σ} {e : ε} {es fs : List ε}

theorem Run.single (h : step s e t) : Run step s [e] t := .cons h (.nil t)

theorem Run.append (h₁ : Run step s es t) (h₂ : Run step t fs u) : Run step s (es ++ fs) u := by
  induction h₁ with
  | nil => exact h₂
  | cons hstep _ ih => exact .cons hstep (ih h₂)

/-- **Invariant rule**: what every step preserves, a run preserves. -/
theorem Run.invariant {inv : σ → Prop} (hstep : ∀ ⦃s e t⦄, inv s → step s e t → inv t)
    (h : Run step s es t) (h0 : inv s) : inv t := by
  induction h with
  | nil => exact h0
  | cons hs _ ih => exact ih (hstep h0 hs)

/-- **Trace invariant rule**: the same for an invariant that also speaks about the events so far. -/
theorem Run.trace_invariant {inv : List ε → σ → Prop}
    (hstep : ∀ ⦃es s e t⦄, inv es s → step s e t → inv (es ++ [e]) t)
    (h : Run step s es t) {before : List ε} (h0 : inv before s) : inv (before ++ es) t := by
  induction h generalizing before with
  | nil => rwa [List.append_nil]
  | cons hs _ ih =>
    have hnext := ih (hstep h0 hs)
    rwa [List.append_assoc] at hnext

/-- In a run at whose end `p` holds, and at whose start it does not, some step makes it true. -/
theorem Run.exists_step (p : σ → Prop) (h : Run step s es t) (hs : ¬ p s) (ht : p t) :
    ∃ before e after u v, es = before ++ e :: after ∧ Run step s before u ∧ ¬ p u ∧ step u e v ∧
      p v ∧ Run step v after t := by
  induction h with
  | nil => exact absurd ht hs
  | @cons s u t e es hstep hrest ih =>
    by_cases hu : p u
    · exact ⟨[], e, es, s, u, rfl, .nil s, hs, hstep, hu, hrest⟩
    · obtain ⟨before, e', after, u', v, rfl, hbefore, hnot, hmid, hv, hafter⟩ := ih hu ht
      exact ⟨e :: before, e', after, u', v, rfl, .cons hstep hbefore, hnot, hmid, hv, hafter⟩

/-- **Simulation rule**: if every step either leaves the related state related or is matched by a
step of the other system, every run is matched by a run of the other system. -/
theorem Run.simulation {τ ζ : Type*} {astep : τ → ζ → τ → Prop} {R : σ → τ → Prop}
    (hsim : ∀ ⦃s e t a⦄, R s a → step s e t → R t a ∨ ∃ x b, astep a x b ∧ R t b)
    (h : Run step s es t) {a : τ} (h0 : R s a) : ∃ xs b, Run astep a xs b ∧ R t b := by
  induction h generalizing a with
  | nil => exact ⟨[], a, .nil a, h0⟩
  | cons hs _ ih =>
    rcases hsim h0 hs with hsame | ⟨x, b, hb, hrel⟩
    · exact ih hsame
    · obtain ⟨xs, c, hrun, hc⟩ := ih hrel
      exact ⟨x :: xs, c, .cons hb hrun, hc⟩

/-- A condition on the events alone guards every step of a run whose events all meet it. -/
theorem Run.guard_events {P : ε → Prop} (h : Run step s es t) (hP : ∀ e ∈ es, P e) :
    Run (guarded step fun _ e => P e) s es t := by
  induction h with
  | nil s => exact .nil s
  | cons hs _ ih =>
    exact .cons ⟨hP _ List.mem_cons_self, hs⟩ (ih fun e he => hP e (List.mem_cons_of_mem _ he))

/-- A guarded run is a run. -/
theorem Run.unguard (h : Run (guarded step ok) s es t) : Run step s es t := by
  induction h with
  | nil s => exact .nil s
  | cons hs _ ih => exact .cons hs.2 ih

/-- A system that can do more has the same runs. -/
theorem Run.mono {step' : σ → ε → σ → Prop} (hstep : ∀ ⦃s e t⦄, step s e t → step' s e t)
    (h : Run step s es t) : Run step' s es t := by
  induction h with
  | nil s => exact .nil s
  | cons hs _ ih => exact .cons (hstep hs) ih

/-- What `exec` computes is a run. -/
theorem run_of_exec {f : σ → ε → Option σ} (h : exec f s es = some t) : Run (ofFun f) s es t := by
  induction es generalizing s with
  | nil => simp only [exec, Option.some.injEq] at h; exact h ▸ .nil s
  | cons e es ih =>
    simp only [exec, Option.bind_eq_some_iff] at h
    obtain ⟨m, hm, hrest⟩ := h
    exact .cons hm (ih hrest)

/-- What `exec` computes with a step function that checks the condition is a guarded run. -/
theorem run_guarded_of_exec {f : σ → ε → Option σ} [∀ s e, Decidable (ok s e)]
    (h : exec (fun s e => if ok s e then f s e else none) s es = some t) :
    Run (guarded (ofFun f) ok) s es t := by
  induction es generalizing s with
  | nil => simp only [exec, Option.some.injEq] at h; exact h ▸ .nil s
  | cons e es ih =>
    simp only [exec, Option.bind_eq_some_iff, Option.ite_none_right_eq_some] at h
    obtain ⟨m, ⟨hok, hm⟩, hrest⟩ := h
    exact .cons ⟨hok, hm⟩ (ih hrest)

end Runs
