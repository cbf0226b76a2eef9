import Mathlib.Data.List.Basic

/-!
# Histories

A system that records what it does keeps a list of entries, newest first. Each entry can be required
to be justified by those before it, and a value that the system keeps can be the one its history
recorded last.
-/

namespace History

variable {ε α : Type*}

/-- Every entry is justified by the entries before it. -/
def Justified (ok : ε → List ε → Prop) (log : List ε) : Prop :=
  ∀ e before, e :: before <:+ log → ok e before

variable {ok : ε → List ε → Prop} {e : ε} {log new : List ε}

theorem justified_nil : Justified ok [] := by
  intro e before h
  exact absurd (List.suffix_nil.mp h) (List.cons_ne_nil e before)

theorem justified_cons : Justified ok (e :: log) ↔ ok e log ∧ Justified ok log := by
  constructor
  · intro h
    exact ⟨h e log (List.suffix_refl _), fun e' before hsuf => h e' before (hsuf.trans
      (List.suffix_cons e log))⟩
  · rintro ⟨he, hlog⟩ e' before hsuf
    rcases List.suffix_cons_iff.mp hsuf with heq | hsuf
    · obtain ⟨rfl, rfl⟩ := List.cons.inj heq
      exact he
    · exact hlog e' before hsuf

/-- Entries that are justified whatever came before can be added. -/
theorem Justified.append (h : Justified ok log) (hnew : ∀ e ∈ new, ∀ before, ok e before) :
    Justified ok (new ++ log) := by
  induction new with
  | nil => exact h
  | cons e new ih =>
    refine justified_cons.mpr ⟨hnew e List.mem_cons_self _, ih fun e' he' => ?_⟩
    exact hnew e' (List.mem_cons_of_mem e he')

/-- Going back from the newest entry, one of kind `p` is met before any of kind `stop`, and `earlier`
holds of the entries before it. -/
def Since (stop p : ε → Prop) (earlier : List ε → Prop) (log : List ε) : Prop :=
  ∃ mid e before, log = mid ++ e :: before ∧ (∀ m ∈ mid, ¬ stop m) ∧ p e ∧ earlier before

variable {stop p : ε → Prop} {earlier : List ε → Prop}

theorem since_cons (he : p e) (h : earlier log) : Since stop p earlier (e :: log) :=
  ⟨[], e, log, rfl, List.forall_mem_nil _, he, h⟩

theorem Since.append (h : Since stop p earlier log) (hnew : ∀ m ∈ new, ¬ stop m) :
    Since stop p earlier (new ++ log) := by
  obtain ⟨mid, e, before, rfl, hmid, he, hbefore⟩ := h
  refine ⟨new ++ mid, e, before, (List.append_assoc _ _ _).symm, fun m hm => ?_, he, hbefore⟩
  rcases List.mem_append.mp hm with hm | hm
  · exact hnew m hm
  · exact hmid m hm

theorem Since.cons (h : Since stop p earlier log) (he : ¬ stop e) :
    Since stop p earlier (e :: log) := by
  have happend := h.append (List.forall_mem_singleton.mpr he)
  rwa [List.singleton_append] at happend

/-- The value the newest recording entry has, and `init` if there is none. -/
def latest (val : ε → Option α) (init : α) (log : List ε) : α := (log.findSome? val).getD init

variable {val : ε → Option α} {init : α}

theorem latest_cons_some {a : α} (h : val e = some a) : latest val init (e :: log) = a := by
  rw [latest, List.findSome?_cons, h, Option.getD_some]

theorem latest_cons_none (h : val e = none) :
    latest val init (e :: log) = latest val init log := by
  rw [latest, List.findSome?_cons, h, latest]

theorem latest_append (h : ∀ e ∈ new, val e = none) :
    latest val init (new ++ log) = latest val init log := by
  induction new with
  | nil => rfl
  | cons e new ih =>
    rw [List.cons_append, latest_cons_none (h e List.mem_cons_self)]
    exact ih fun e' he' => h e' (List.mem_cons_of_mem e he')

theorem latest_unrecorded (h : ∀ e ∈ log, val e = none) : latest val init log = init := by
  have happend : latest val init (log ++ []) = latest val init [] := latest_append h
  rwa [List.append_nil] at happend

theorem latest_recorded (h : ∃ e ∈ log, (val e).isSome = true) :
    ∃ e ∈ log, val e = some (latest val init log) := by
  obtain ⟨a, ha⟩ := Option.isSome_iff_exists.mp (List.findSome?_isSome_iff.mpr h)
  obtain ⟨e, he, hval⟩ := List.exists_of_findSome?_eq_some ha
  exact ⟨e, he, by rw [latest, ha, Option.getD_some, hval]⟩

end History
