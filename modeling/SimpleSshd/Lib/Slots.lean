import Mathlib.Data.List.Basic
import Mathlib.Data.List.Count

/-!
# Tables of slots

A table is a list of slots that are free or hold a value. A value is placed in the first free slot; if
there is none, the table is extended. The rules say what is in which slot afterwards, and how many are
in use.
-/

namespace Slots

variable {α : Type*} {t : List (Option α)} {i j extend : Nat} {a b : α}

/-- What is in a slot. -/
def lookup (t : List (Option α)) (i : Nat) : Option α := t[i]?.join

/-- How many slots are in use. -/
def used (t : List (Option α)) : Nat := t.countP Option.isSome

def place (t : List (Option α)) (i : Nat) (a : α) : List (Option α) := t.set i (some a)

def clear (t : List (Option α)) (i : Nat) : List (Option α) := t.set i none

/-- Free the slots whose value is not to be kept. -/
def retain (keep : α → Bool) (t : List (Option α)) : List (Option α) := t.map (Option.filter keep)

def firstFree (t : List (Option α)) : Option Nat := t.findIdx? Option.isNone

/-- The first free slot, in the table with `extend` more slots if there was none. -/
def alloc (extend : Nat) (t : List (Option α)) : List (Option α) × Nat :=
  match firstFree t with
  | some i => (t, i)
  | none => (t ++ List.replicate extend none, t.length)

/-! ## Slots -/

theorem lookup_eq_some : lookup t i = some a ↔ t[i]? = some (some a) :=
  Option.join_eq_some_iff

theorem lt_of_lookup (h : lookup t i = some a) : i < t.length :=
  (List.getElem?_eq_some_iff.mp (lookup_eq_some.mp h)).1

theorem mem_iff_lookup : some a ∈ t ↔ ∃ i, lookup t i = some a := by
  rw [List.mem_iff_getElem?]
  exact exists_congr fun i => lookup_eq_some.symm

@[simp] theorem lookup_place_self (h : i < t.length) : lookup (place t i a) i = some a := by
  rw [lookup, place, List.getElem?_set_self h]
  rfl

@[simp] theorem lookup_place_ne (h : i ≠ j) : lookup (place t i a) j = lookup t j := by
  rw [lookup, place, List.getElem?_set_ne h]
  rfl

theorem lookup_clear_self : lookup (clear t i) i = none := by
  rw [lookup, clear, List.getElem?_set]
  split
  · split
    · rfl
    · rfl
  · contradiction

@[simp] theorem lookup_clear_ne (h : i ≠ j) : lookup (clear t i) j = lookup t j := by
  rw [lookup, clear, List.getElem?_set_ne h]
  rfl

theorem length_place (t : List (Option α)) (i : Nat) (a : α) : (place t i a).length = t.length :=
  List.length_set

theorem length_clear (t : List (Option α)) (i : Nat) : (clear t i).length = t.length := List.length_set

theorem lookup_place_eq_some (h : lookup (place t i a) j = some b) :
    i = j ∧ b = a ∨ i ≠ j ∧ lookup t j = some b := by
  by_cases hij : i = j
  · subst hij
    have hlt : i < t.length := by
      have hlen := lt_of_lookup h
      rwa [length_place] at hlen
    rw [lookup_place_self hlt] at h
    exact .inl ⟨rfl, (Option.some.inj h).symm⟩
  · rw [lookup_place_ne hij] at h
    exact .inr ⟨hij, h⟩

theorem lookup_clear_eq_some (h : lookup (clear t i) j = some b) : i ≠ j ∧ lookup t j = some b := by
  by_cases hij : i = j
  · subst hij
    rw [lookup_clear_self] at h
    cases h
  · rw [lookup_clear_ne hij] at h
    exact ⟨hij, h⟩

theorem mem_place (h : some b ∈ place t i a) : b = a ∨ some b ∈ t := by
  rcases List.mem_or_eq_of_mem_set h with hmem | heq
  · exact .inr hmem
  · exact .inl (Option.some.inj heq)

theorem mem_retain {keep : α → Bool} : some b ∈ retain keep t ↔ some b ∈ t ∧ keep b = true := by
  rw [retain, List.mem_map]
  constructor
  · rintro ⟨slot, hmem, hfilter⟩
    obtain ⟨rfl, hkeep⟩ := Option.filter_eq_some_iff.mp hfilter
    exact ⟨hmem, hkeep⟩
  · rintro ⟨hmem, hkeep⟩
    exact ⟨some b, hmem, Option.filter_eq_some_iff.mpr ⟨rfl, hkeep⟩⟩

/-! ## Free slots -/

theorem firstFree_eq_none (h : firstFree t = none) : used t = t.length := by
  rw [firstFree, List.findIdx?_eq_none_iff] at h
  rw [used, List.countP_eq_length]
  intro slot hslot
  cases slot with
  | none => exact nomatch h none hslot
  | some a => rfl

/-- **A slot is found**: it is free, and nothing else has changed. -/
theorem alloc_spec (hpos : 0 < extend) (t : List (Option α)) :
    (alloc extend t).2 < (alloc extend t).1.length ∧
      lookup (alloc extend t).1 (alloc extend t).2 = none ∧
      (∀ j, lookup (alloc extend t).1 j = lookup t j) ∧ used (alloc extend t).1 = used t := by
  unfold alloc
  cases hfree : firstFree t with
  | some i =>
    obtain ⟨hlt, hnone, -⟩ := List.findIdx?_eq_some_iff_getElem.mp hfree
    refine ⟨hlt, ?_, fun _ => rfl, rfl⟩
    rw [lookup, List.getElem?_eq_getElem hlt, Option.isNone_iff_eq_none.mp hnone]
    rfl
  | none =>
    refine ⟨?_, ?_, fun j => ?_, ?_⟩
    · show t.length < (t ++ List.replicate extend none).length
      rw [List.length_append, List.length_replicate]
      omega
    · rw [lookup, List.getElem?_append_right (Nat.le_refl _), Nat.sub_self,
        List.getElem?_replicate_of_lt hpos]
      rfl
    · rw [lookup, lookup, List.getElem?_append]
      split
      · rfl
      · rename_i hge
        rw [List.getElem?_eq_none (Nat.le_of_not_lt hge), List.getElem?_replicate]
        split
        · rfl
        · rfl
    · rw [used, List.countP_append, List.countP_replicate]
      rfl

theorem length_le_alloc (extend : Nat) (t : List (Option α)) : t.length ≤ (alloc extend t).1.length := by
  unfold alloc
  cases firstFree t with
  | some i => exact Nat.le_refl _
  | none =>
    rw [List.length_append]
    exact Nat.le_add_right _ _

theorem mem_alloc (hpos : 0 < extend) : some b ∈ (alloc extend t).1 ↔ some b ∈ t := by
  obtain ⟨-, -, hsame, -⟩ := alloc_spec hpos t
  rw [mem_iff_lookup, mem_iff_lookup]
  exact exists_congr fun i => by rw [hsame]

/-! ## Slots in use -/

theorem used_set (hi : i < t.length) (slot : Option α) :
    used (t.set i slot) + (lookup t i).isSome.toNat = used t + slot.isSome.toNat := by
  induction t generalizing i with
  | nil => exact absurd hi (Nat.not_lt_zero _)
  | cons head t ih =>
    cases i with
    | zero =>
      show (slot :: t).countP Option.isSome + head.isSome.toNat =
        (head :: t).countP Option.isSome + slot.isSome.toNat
      cases head <;> cases slot <;> simp
    | succ i =>
      have hrest := ih (Nat.lt_of_succ_lt_succ hi)
      show (head :: t.set i slot).countP Option.isSome + (lookup t i).isSome.toNat =
        (head :: t).countP Option.isSome + slot.isSome.toNat
      rw [used, used] at hrest
      rw [List.countP_cons, List.countP_cons]
      omega

/-- A free slot is taken. -/
theorem used_place (hi : i < t.length) (h : lookup t i = none) : used (place t i a) = used t + 1 := by
  have hset := used_set hi (some a)
  rw [h] at hset
  exact hset

/-- The value of a slot is replaced. -/
theorem used_replace (h : lookup t i = some b) : used (place t i a) = used t := by
  have hset := used_set (lt_of_lookup h) (some a)
  rw [h] at hset
  exact Nat.add_right_cancel hset

/-- A slot is freed. -/
theorem used_clear (h : lookup t i = some b) : used (clear t i) + 1 = used t := by
  have hset := used_set (lt_of_lookup h) none
  rw [h] at hset
  exact hset

end Slots
