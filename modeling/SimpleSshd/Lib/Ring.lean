import Mathlib.Tactic.SplitIfs
import SimpleSshd.Lib.Overwrite

/-!
# Ring buffers

A ring is a list of cells, a position to read from and a number of cells in use. The cells in use
begin at that position and go on at the start of the list behind its end. What is written goes to the
cells behind those in use, one contiguous piece at a time; what is read is taken off at the position.
-/

namespace Ring

open Overwrite

variable {α : Type*} {cells xs : List α} {r u n k : Nat}

/-- The `u` cells in use, from position `r` on. -/
def window (cells : List α) (r u : Nat) : List α := (cells.drop r ++ cells.take r).take u

/-- Where the cells in use end. -/
def endPos (n r u : Nat) : Nat := (r + u) % n

/-- The part before the end of the list. -/
theorem take_window (hk : k ≤ u) (hkn : r + k ≤ cells.length) :
    (window cells r u).take k = (cells.drop r).take k := by
  rw [window, List.take_take, Nat.min_eq_left hk, List.take_append_of_le_length]
  rw [List.length_drop]
  omega

theorem window_of_le (hru : r + u ≤ cells.length) : window cells r u = (cells.drop r).take u := by
  rw [window, List.take_append_of_le_length]
  rw [List.length_drop]
  omega

/-- The cells in use go round the end of the list. -/
theorem window_of_ge (hr : r ≤ cells.length) (hu : u ≤ cells.length)
    (hru : cells.length ≤ r + u) :
    window cells r u = cells.drop r ++ cells.take (r + u - cells.length) := by
  have hsub : u - (cells.length - r) = r + u - cells.length := by omega
  rw [window, List.take_append, List.length_drop, hsub, List.take_take, List.take_of_length_le]
  · congr 2
    omega
  · rw [List.length_drop]
    omega

/-- **Reading** takes the cells off, a piece before the end of the list at a time. -/
theorem window_read (hn : n = cells.length) (hr : r < n) (hu : u ≤ n) (hk : k ≤ u)
    (hkn : r + k ≤ n) : window cells ((r + k) % n) (u - k) = (window cells r u).drop k := by
  subst hn
  have hdrop : (window cells r u).drop k =
      ((cells.drop (r + k)) ++ cells.take r).take (u - k) := by
    rw [window, List.drop_take, List.drop_append_of_le_length, List.drop_drop]
    rw [List.length_drop]
    omega
  rw [hdrop]
  by_cases hend : r + k = cells.length
  · rw [hend, Nat.mod_self, window_of_le (by omega), List.drop_zero,
      List.drop_eq_nil_of_le (Nat.le_refl _), List.nil_append, List.take_take, Nat.min_eq_left]
    omega
  · rw [Nat.mod_eq_of_lt (by omega), window, List.take_append, List.take_append, List.take_take,
      List.take_take, List.length_drop]
    congr 2
    omega

/-- Reading in two pieces, the second one from the start of the list. -/
theorem window_read_round (hn : n = cells.length) (hr : r < n) (hu : u ≤ n) (hk : k ≤ u) :
    window cells ((r + k) % n) (u - k) = (window cells r u).drop k := by
  by_cases hend : r + k ≤ n
  · exact window_read hn hr hu hk hend
  · have hfirst := window_read (k := n - r) hn hr hu (by omega) (by omega)
    have hsecond := window_read (r := 0) (u := u - (n - r)) (k := r + k - n) hn (by omega) (by omega)
      (by omega) (by omega)
    have hstart : (r + (n - r)) % n = 0 := by
      have hsum : r + (n - r) = n := by omega
      rw [hsum, Nat.mod_self]
    have hround : (r + k) % n = (0 + (r + k - n)) % n := by
      rw [Nat.zero_add, Nat.mod_eq_sub_mod (by omega)]
    have hcount : u - k = u - (n - r) - (r + k - n) := by omega
    have hdrop : n - r + (r + k - n) = k := by omega
    rw [hstart] at hfirst
    rw [hround, hcount, hsecond, hfirst, List.drop_drop, hdrop]

/-- How much can be written in one piece. -/
def room (n r u : Nat) : Nat :=
  if u = n then 0 else if endPos n r u < r then r - endPos n r u else n - endPos n r u

theorem endPos_lt (hn : 0 < n) : endPos n r u < n := Nat.mod_lt _ hn

/-- The cells in use end before the end of the list, or have gone round it once. -/
theorem endPos_cases (hr : r < n) (hu : u ≤ n) :
    endPos n r u = r + u ∧ r + u < n ∨ endPos n r u = r + u - n ∧ n ≤ r + u := by
  by_cases h : r + u < n
  · exact .inl ⟨Nat.mod_eq_of_lt h, h⟩
  · refine .inr ⟨?_, by omega⟩
    rw [endPos, Nat.mod_eq_sub_mod (by omega), Nat.mod_eq_of_lt (by omega)]

theorem room_pos (hu : u < n) : 0 < room n r u := by
  have hlt : endPos n r u < n := endPos_lt (by omega)
  unfold room
  rw [if_neg (by omega)]
  split <;> omega

theorem add_room_le (hr : r < n) (hu : u ≤ n) : u + room n r u ≤ n := by
  have hend := endPos_cases hr hu
  unfold room
  split
  · omega
  · split <;> omega

theorem endPos_add_room_le (hr : r < n) : endPos n r u + room n r u ≤ n := by
  have hlt : endPos n r u < n := endPos_lt (by omega)
  unfold room
  split
  · omega
  · split <;> omega

/-- **Writing** a piece that there is room for, behind the cells in use. -/
theorem window_write (hn : n = cells.length) (hr : r < n) (hu : u ≤ n)
    (hroom : xs.length ≤ room n r u) :
    window (overwrite cells (endPos n r u) xs) r (u + xs.length) = window cells r u ++ xs := by
  subst hn
  have hle := add_room_le hr hu
  have hfit := endPos_add_room_le hr (u := u)
  have hlen : (overwrite cells (endPos cells.length r u) xs).length = cells.length :=
    length_overwrite (by omega)
  rcases endPos_cases hr hu with ⟨hend, hlt⟩ | ⟨hend, hge⟩
  · -- the piece ends before the end of the list: the cells before its end are the old ones and it
    rw [hend] at hlen hfit ⊢
    rw [window_of_le (by omega), window_of_le (by omega), List.take_drop, List.take_drop,
      ← Nat.add_assoc, take_overwrite_end xs (by omega), List.drop_append_of_le_length]
    rw [List.length_take]
    omega
  · -- the piece ends before the position to read from: the cells from there on are the old ones
    rw [hend] at hlen hfit ⊢
    have hsum : r + (u + xs.length) - cells.length = r + u - cells.length + xs.length := by omega
    rw [window_of_ge (by omega) (by omega) (by omega), window_of_ge (by omega) (by omega) hge,
      hlen, hsum, take_overwrite_end xs (by omega), drop_overwrite_behind (by omega) (by omega),
      List.append_assoc]

theorem length_window (hr : r ≤ cells.length) (hu : u ≤ cells.length) :
    (window cells r u).length = u := by
  rw [window, List.length_take, List.length_append, List.length_drop, List.length_take]
  omega

/-- A piece that is written leaves the cells in use as they are. -/
theorem window_store (hn : n = cells.length) (hr : r < n) (hu : u ≤ n)
    (hroom : xs.length ≤ room n r u) :
    window (overwrite cells (endPos n r u) xs) r u = window cells r u := by
  have htake : window (overwrite cells (endPos n r u) xs) r u =
      (window (overwrite cells (endPos n r u) xs) r (u + xs.length)).take u := by
    rw [window, window, List.take_take, Nat.min_eq_left (Nat.le_add_right _ _)]
  rw [htake, window_write hn hr hu hroom, List.take_left' (length_window (by omega) (by omega))]

/-- The cells behind those in use are taken into use. -/
theorem window_grow (hn : n = cells.length) (hr : r < n) (hu : u ≤ n) (hk : k ≤ room n r u) :
    window cells r (u + k) = window cells r u ++ (cells.drop (endPos n r u)).take k := by
  have hfit := endPos_add_room_le hr (u := u)
  have hlen : ((cells.drop (endPos n r u)).take k).length = k := by
    rw [List.length_take, List.length_drop]
    omega
  have hpiece : ((cells.drop (endPos n r u)).take k).length ≤ room n r u := by
    rw [hlen]
    exact hk
  have hwrite := window_write hn hr hu hpiece
  rw [overwrite_self (by omega), hlen] at hwrite
  exact hwrite

/-! ## How the room changes -/

theorem endPos_grow (hlt : endPos n r u + k < n) : endPos n r (u + k) = endPos n r u + k := by
  rw [endPos, ← Nat.add_assoc, ← Nat.mod_add_mod]
  exact Nat.mod_eq_of_lt hlt

/-- Taking cells into use uses up the room, unless they end at the end of the list. -/
theorem room_grow (hr : r < n) (hu : u ≤ n) (hk : k ≤ room n r u) (hlt : endPos n r u + k < n) :
    room n r (u + k) = room n r u - k := by
  have hle := add_room_le hr hu
  have hend := endPos_cases hr hu
  unfold room at hk ⊢
  rw [endPos_grow hlt]
  split_ifs at hk ⊢ <;> omega

/-- The end stays where it is when cells are read. -/
theorem endPos_read (hk : k ≤ u) : endPos n ((r + k) % n) (u - k) = endPos n r u := by
  have hsum : r + k + (u - k) = r + u := by omega
  rw [endPos, Nat.mod_add_mod, hsum, endPos]

/-- Reading does not take room away. -/
theorem room_read_le (hr : r < n) (hu : u ≤ n) (hk : k ≤ u) :
    room n r u ≤ room n ((r + k) % n) (u - k) := by
  have hend := endPos_cases hr hu
  have hnext : (r + k) % n = r + k ∧ r + k < n ∨ (r + k) % n = r + k - n ∧ n ≤ r + k :=
    endPos_cases hr (by omega)
  unfold room
  rw [endPos_read hk]
  split_ifs <;> omega

/-! ## One cell at a time -/

/-- The first of the cells in use, and the others. -/
theorem window_succ (hr : r < cells.length) (hu : u < cells.length) :
    window cells r (u + 1) = cells[r] :: window cells ((r + 1) % cells.length) u := by
  have htake : (window cells r (u + 1)).take 1 = [cells[r]] := by
    rw [take_window (by omega) (by omega), List.drop_eq_getElem_cons hr]
    rfl
  have hdrop : (window cells r (u + 1)).drop 1 = window cells ((r + 1) % cells.length) u :=
    (window_read rfl hr (by omega) (by omega) (by omega)).symm
  rw [← List.take_append_drop 1 (window cells r (u + 1)), htake, hdrop]
  rfl

theorem set_eq_overwrite {a : α} (h : k < cells.length) : cells.set k a = overwrite cells k [a] := by
  rw [List.set_eq_take_append_cons_drop, if_pos h, overwrite]
  simp

/-- A cell is added. -/
theorem window_push (a : α) (hr : r < cells.length) (hu : u < cells.length) :
    window (cells.set (endPos cells.length r u) a) r (u + 1) = window cells r u ++ [a] := by
  rw [set_eq_overwrite (endPos_lt (by omega))]
  exact window_write rfl hr (by omega) (room_pos hu)

/-- A cell is added in place of the first one. -/
theorem window_push_full (a : α) (hr : r < cells.length) :
    window (cells.set r a) ((r + 1) % cells.length) cells.length =
      (window cells r cells.length).drop 1 ++ [a] := by
  have hpos : (r + 1) % cells.length < cells.length := Nat.mod_lt _ (by omega)
  have hend : endPos cells.length ((r + 1) % cells.length) (cells.length - 1) = r := by
    have hsum : r + 1 + (cells.length - 1) = r + cells.length := by omega
    rw [endPos, Nat.mod_add_mod, hsum, Nat.add_mod_right, Nat.mod_eq_of_lt hr]
  have hread : window cells ((r + 1) % cells.length) (cells.length - 1) =
      (window cells r cells.length).drop 1 :=
    window_read rfl hr (Nat.le_refl _) (by omega) (by omega)
  have hpush := window_push a hpos (u := cells.length - 1) (by omega)
  rw [hend, Nat.sub_add_cancel (by omega), hread] at hpush
  exact hpush

end Ring
