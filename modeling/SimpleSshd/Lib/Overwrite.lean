import Mathlib.Data.List.Basic
import Mathlib.Data.List.TakeDrop

/-!
# Overwriting a part of a list

`overwrite l p xs` is `l` with `xs` in place of the elements from index `p` on. The rules say what the
result is up to and behind the elements that were written.
-/

namespace Overwrite

variable {α : Type*} {l xs : List α} {p q : Nat}

def overwrite (l : List α) (p : Nat) (xs : List α) : List α :=
  l.take p ++ xs ++ l.drop (p + xs.length)

theorem length_overwrite (h : p + xs.length ≤ l.length) : (overwrite l p xs).length = l.length := by
  simp only [overwrite, List.length_append, List.length_take, List.length_drop]
  omega

/-- Up to the end of what was written. -/
theorem take_overwrite_end (xs : List α) (h : p ≤ l.length) :
    (overwrite l p xs).take (p + xs.length) = l.take p ++ xs := by
  have hlen : p + xs.length = (l.take p ++ xs).length := by
    rw [List.length_append, List.length_take, Nat.min_eq_left h]
  rw [overwrite, hlen, List.take_left]

theorem drop_overwrite_behind (hq : p + xs.length ≤ q) (h : p ≤ l.length) :
    (overwrite l p xs).drop q = l.drop q := by
  have hlen : (l.take p ++ xs).length = p + xs.length := by
    rw [List.length_append, List.length_take, Nat.min_eq_left h]
  rw [overwrite, List.drop_append, List.drop_eq_nil_of_le (by omega), List.nil_append, hlen,
    List.drop_drop]
  congr 1
  omega

/-- Past the end of what was written. -/
theorem take_overwrite_behind (hq : p + xs.length ≤ q) (h : p ≤ l.length) :
    (overwrite l p xs).take q = l.take p ++ xs ++ (l.take q).drop (p + xs.length) := by
  have hlen : (l.take p ++ xs).length = p + xs.length := by
    rw [List.length_append, List.length_take, Nat.min_eq_left h]
  rw [overwrite, List.take_append, List.take_of_length_le (by omega), hlen, List.drop_take]

theorem drop_overwrite_start (h : p ≤ l.length) :
    (overwrite l p xs).drop p = xs ++ l.drop (p + xs.length) := by
  have hlen : (l.take p).length = p := by rw [List.length_take, Nat.min_eq_left h]
  rw [overwrite, List.append_assoc, List.drop_left' hlen]

/-- All of the list is replaced. -/
theorem overwrite_all (h : xs.length = l.length) : overwrite l 0 xs = xs := by
  rw [overwrite, List.take_zero, List.nil_append, Nat.zero_add, h, List.drop_length, List.append_nil]

/-- Two parts written one behind the other. -/
theorem overwrite_append {ys : List α} (h : p + xs.length ≤ l.length) :
    overwrite (overwrite l p xs) (p + xs.length) ys = overwrite l p (xs ++ ys) := by
  have hp : p ≤ l.length := Nat.le_of_add_right_le h
  rw [overwrite, take_overwrite_end xs hp, drop_overwrite_behind (Nat.le_add_right _ _) hp, overwrite,
    List.length_append, Nat.add_assoc, List.append_assoc (l.take p)]

/-- Nothing changes if what is written was there before. -/
theorem overwrite_self {k : Nat} (h : p + k ≤ l.length) :
    overwrite l p ((l.drop p).take k) = l := by
  have hlen : ((l.drop p).take k).length = k := by
    rw [List.length_take, List.length_drop]
    omega
  rw [overwrite, hlen, List.append_assoc, ← List.drop_drop, List.take_append_drop,
    List.take_append_drop]

end Overwrite
