import Mathlib.Data.List.AList
import Mathlib.Data.List.Perm.Subperm

/-!
# Descriptors of a process

A process has a table of open descriptors, and each number in it refers to something. The kernel gives
a new descriptor a number that is not in use; which one is left open.
-/

namespace Descriptors

variable {α : Type*}

/-- The open descriptors, and what each refers to. -/
abbrev Table (α : Type*) := AList fun _ : Nat => α

/-- The choice of a number that is not in use. -/
structure Numbering where
  pick : List Nat → Nat
  fresh : ∀ used, pick used ∉ used

/-- The next number is among those up to the length of a list. -/
theorem exists_lowest (used : List Nat) : ∃ fd ∈ List.range (used.length + 1), fd ∉ used := by
  by_contra h
  push Not at h
  have hsub := List.subperm_of_subset List.nodup_range h
  have hlen := hsub.length_le
  rw [List.length_range] at hlen
  omega

/-- The rule that descriptors are numbered by: the lowest number that is not in use. -/
def Numbering.lowest : Numbering where
  pick used := ((List.range (used.length + 1)).find? (· ∉ used)).getD 0
  fresh := by
    intro used
    obtain ⟨fd, hmem, hfree⟩ := exists_lowest used
    have hsome : ((List.range (used.length + 1)).find? (· ∉ used)).isSome = true :=
      List.find?_isSome.mpr ⟨fd, hmem, decide_eq_true hfree⟩
    obtain ⟨low, hlow⟩ := Option.isSome_iff_exists.mp hsome
    have hfound := List.find?_some hlow
    rw [hlow]
    exact of_decide_eq_true hfound

variable {t : Table α} {others : List Nat} {n : Numbering} {a : α} {fd : Nat}

/-- The number of a new descriptor; `others` are descriptors that are not in the table. -/
def number (t : Table α) (others : List Nat) (n : Numbering) : Nat := n.pick (others ++ t.keys)

theorem number_notMem (t : Table α) (others : List Nat) (n : Numbering) : number t others n ∉ t := by
  intro h
  exact n.fresh _ (List.mem_append_right _ (AList.mem_keys.mp h))

theorem ne_number (h : fd ∈ t) : fd ≠ number t others n := by
  rintro rfl
  exact number_notMem t others n h

/-! ## Closing -/

theorem erase_insert_self (h : fd ∉ t) : (t.insert fd a).erase fd = t := by
  rw [AList.insert_of_notMem h]
  exact AList.ext (List.kerase_cons_eq rfl)

theorem erase_insert_of_ne {fd' : Nat} (hne : fd ≠ fd') (h : fd' ∉ t) :
    (t.insert fd' a).erase fd = (t.erase fd).insert fd' a := by
  have h' : fd' ∉ t.erase fd := fun hmem => h (AList.mem_erase.mp hmem).2
  rw [AList.insert_of_notMem h, AList.insert_of_notMem h']
  exact AList.ext (List.kerase_cons_ne hne)

/-- How many descriptors are open. -/
def opened (t : Table α) : Nat := t.keys.length

theorem opened_insert (h : fd ∉ t) : opened (t.insert fd a) = opened t + 1 := by
  rw [opened, AList.keys_insert, List.length_cons,
    List.erase_of_not_mem fun hmem => h (AList.mem_keys.mpr hmem), opened]

theorem opened_erase (h : fd ∈ t) : opened (t.erase fd) + 1 = opened t := by
  have hmem := AList.mem_keys.mp h
  rw [opened, AList.keys_erase, List.length_erase_of_mem hmem, opened]
  exact Nat.sub_add_cancel (List.length_pos_of_mem hmem)

end Descriptors
