import Mathlib.Data.List.DropRight
import SimpleSshd.Lib.Ring
import SimpleSshd.Service.LogView

/-!
# Proofs: the log view shows the last lines of the log

The array `lines` is a ring: the lines in use begin at `curr_line` once it has been filled, and at its
start before. Storing a line adds one to them, in place of the oldest one if there are 50. The loop that
prints them ends when it is back at `curr_line`, which is after the lines in use; but it prints before it
compares, so that of an empty log it prints the whole array.
-/

namespace SimpleSshd.Service

open Ring

variable {v : Tail} {ls : List Line} {l : Line}

/-! ## The lines of a file -/

/-- What `readLine` returns, again and again. -/
def fileLines (content : List Char) : List Line :=
  match _h : readLine content with
  | none => []
  | some l => l :: fileLines (afterLine content)
termination_by content.length
decreasing_by exact afterLine_lt ‹_›

/-- The lines that could be read. -/
def LogFile.lines (f : LogFile) : List Line :=
  match f.limit with
  | none => fileLines f.content
  | some n => (fileLines f.content).take n

/-- A file that does not exist has no lines. -/
def logLines (file : Option LogFile) : List Line := (file.map LogFile.lines).getD []

theorem fileLines_of_none {content : List Char} (h : readLine content = none) :
    fileLines content = [] := by
  rw [fileLines]
  split
  · rfl
  · rename_i l hl
    cases h.symm.trans hl

theorem fileLines_of_some {content : List Char} (h : readLine content = some l) :
    fileLines content = l :: fileLines (afterLine content) := by
  rw [fileLines]
  split
  · rename_i hl
    cases h.symm.trans hl
  · rename_i l' hl
    cases h.symm.trans hl
    rfl

/-- Lines that are written one below the other are read again. -/
theorem fileLines_joined (h : ∀ l ∈ ls, ∀ c ∈ l, c ≠ '\n' ∧ c ≠ '\r') :
    fileLines (ls.flatMap (· ++ ['\n'])) = ls := by
  induction ls with
  | nil => exact fileLines_of_none rfl
  | cons l ls ih =>
    have hl : ∀ c ∈ l, decide (c ≠ '\n' ∧ c ≠ '\r') = true := by
      intro c hc
      exact decide_eq_true (h l List.mem_cons_self c hc)
    have hcontent : (l :: ls).flatMap (· ++ ['\n']) = l ++ '\n' :: ls.flatMap (· ++ ['\n']) := by
      simp
    have hread : readLine ((l :: ls).flatMap (· ++ ['\n'])) = some l := by
      rw [hcontent]
      unfold readLine
      rw [if_neg (by simp), List.takeWhile_append_of_pos hl]
      simp
    have hrest : afterLine ((l :: ls).flatMap (· ++ ['\n'])) = ls.flatMap (· ++ ['\n']) := by
      rw [hcontent]
      unfold afterLine
      rw [List.dropWhile_append_of_pos hl]
      simp
    rw [fileLines_of_some hread, hrest, ih fun l hl => h l (List.mem_cons_of_mem _ hl)]

/-- The loop stores the lines that can be read. -/
theorem read_loop_eq (f : LogFile) (v : Tail) :
    read_loop f.content f.limit v = f.lines.foldl Tail.store v := by
  obtain ⟨content, limit⟩ := f
  unfold LogFile.lines
  simp only
  fun_induction read_loop content limit v with
  | case1 content v => rfl
  | case2 content limit v hlimit hnone =>
    rw [fileLines_of_none hnone]
    cases limit with
    | none => rfl
    | some n => simp
  | case3 content limit v hlimit l hline ih =>
    rw [ih, fileLines_of_some hline]
    cases limit with
    | none => rfl
    | some n =>
      obtain ⟨m, rfl⟩ : ∃ m, n = m + 1 := Nat.exists_eq_succ_of_ne_zero fun hzero => hlimit (hzero ▸ rfl)
      rfl

/-! ## The ring -/

/-- Where printing begins. -/
def Tail.first (v : Tail) : Nat := if v.wrapped then v.curr_line else 0

/-- The array holds the last ones of the lines. -/
structure Tail.Holds (v : Tail) (ls : List Line) : Prop where
  length : v.lines.length = LINES
  curr : v.curr_line < LINES
  wrapped : v.wrapped = decide (LINES ≤ ls.length)
  filled : ls.length < LINES → v.curr_line = ls.length
  held : window v.lines v.first (min ls.length LINES) = (ls.rtake LINES).map some

theorem Tail.Holds.init : Tail.Holds {} [] where
  length := List.length_replicate
  curr := by decide
  wrapped := rfl
  filled _ := rfl
  held := by
    rw [List.length_nil, Nat.zero_min, window, List.take_zero, List.rtake_nil, List.map_nil]

theorem Tail.store_eq (h : v.curr_line < v.lines.length) (l : Line) :
    v.store l = {
      lines := v.lines.set v.curr_line (some l)
      curr_line := (v.curr_line + 1) % v.lines.length
      wrapped := v.wrapped || decide (v.lines.length ≤ v.curr_line + 1) } := by
  unfold Tail.store
  simp only [List.length_set]
  by_cases hend : v.curr_line + 1 ≥ v.lines.length
  · have hlen : v.curr_line + 1 = v.lines.length := by omega
    simp [hlen]
  · have hlt : v.curr_line + 1 < v.lines.length := by omega
    simp [hend, Nat.mod_eq_of_lt hlt]

theorem Tail.Holds.curr_lt (h : v.Holds ls) : v.curr_line < v.lines.length := by
  rw [h.length]
  exact h.curr

/-- Storing a line while there is room. -/
theorem Tail.Holds.store_room (h : v.Holds ls) (hroom : ls.length < LINES) (l : Line) :
    (v.store l).Holds (ls ++ [l]) := by
  have hcurr := h.filled hroom
  have hwrapped : v.wrapped = false := by
    rw [h.wrapped]
    exact decide_eq_false (by omega)
  have hlen : (ls ++ [l]).length = ls.length + 1 := List.length_append
  have hheld : window v.lines 0 ls.length = ls.map some := by
    have hold := h.held
    rw [Tail.first, hwrapped, if_neg Bool.false_ne_true, Nat.min_eq_left hroom.le, List.rtake,
      Nat.sub_eq_zero_of_le hroom.le, List.drop_zero] at hold
    exact hold
  have hpush : window (v.lines.set ls.length (some l)) 0 (ls.length + 1) =
      (ls ++ [l]).map some := by
    have hlt : ls.length < v.lines.length := by
      rw [h.length]
      exact hroom
    have hend : endPos v.lines.length 0 ls.length = ls.length := by
      rw [endPos, Nat.zero_add, Nat.mod_eq_of_lt hlt]
    have hpush := window_push (some l) (Nat.zero_lt_of_lt hlt) hlt
    rw [hend, hheld] at hpush
    rw [hpush, List.map_append]
    rfl
  rw [Tail.store_eq h.curr_lt, h.length, hcurr, hwrapped, Bool.false_or]
  constructor
  · exact (List.length_set ..).trans h.length
  · exact Nat.mod_lt _ (by decide)
  · rw [hlen]
  · intro hmore
    rw [hlen] at hmore ⊢
    exact Nat.mod_eq_of_lt hmore
  · -- the array is filled from its start; when it is full, printing begins there, too
    have hfirst : Tail.first ⟨v.lines.set ls.length (some l), (ls.length + 1) % LINES,
        decide (LINES ≤ ls.length + 1)⟩ = 0 := by
      by_cases hfull : LINES ≤ ls.length + 1
      · have heq : ls.length + 1 = LINES := by omega
        simp [Tail.first, heq]
      · simp [Tail.first, hfull]
    rw [hfirst, hlen, Nat.min_eq_left hroom, List.rtake, hlen, Nat.sub_eq_zero_of_le hroom,
      List.drop_zero]
    exact hpush

/-- Storing a line in place of the oldest one. -/
theorem Tail.Holds.store_full (h : v.Holds ls) (hfull : LINES ≤ ls.length) (l : Line) :
    (v.store l).Holds (ls ++ [l]) := by
  have hwrapped : v.wrapped = true := by
    rw [h.wrapped]
    exact decide_eq_true hfull
  have hlen : (ls ++ [l]).length = ls.length + 1 := List.length_append
  have hheld : window v.lines v.curr_line LINES = (ls.rtake LINES).map some := by
    have hold := h.held
    rw [Tail.first, hwrapped, if_pos rfl, Nat.min_eq_right hfull] at hold
    exact hold
  have hlast : (ls ++ [l]).rtake LINES = (ls.rtake LINES).drop 1 ++ [l] := by
    have hone : (ls.rtake LINES).drop 1 = ls.rtake 49 := by
      have hsum : ls.length - LINES + 1 = ls.length - 49 := by
        unfold LINES at hfull ⊢
        omega
      rw [List.rtake, List.rtake, List.drop_drop, hsum]
    rw [hone]
    exact List.rtake_concat_succ ls 49 l
  rw [Tail.store_eq h.curr_lt, h.length, hwrapped, Bool.true_or]
  constructor
  · exact (List.length_set ..).trans h.length
  · exact Nat.mod_lt _ (by decide)
  · exact (decide_eq_true (by omega)).symm
  · intro hless
    omega
  · have hpush := window_push_full (some l) h.curr_lt
    rw [h.length, hheld] at hpush
    rw [Tail.first, if_pos rfl, Nat.min_eq_right (by omega), hlast, List.map_append, List.map_drop]
    exact hpush

/-- **The array holds the last lines that were stored.** -/
theorem Tail.Holds.store (h : v.Holds ls) (l : Line) : (v.store l).Holds (ls ++ [l]) := by
  by_cases hroom : ls.length < LINES
  · exact h.store_room hroom l
  · exact h.store_full (Nat.le_of_not_lt hroom) l

theorem Tail.Holds.foldl (h : v.Holds ls) (more : List Line) :
    (more.foldl Tail.store v).Holds (ls ++ more) := by
  induction more generalizing v ls with
  | nil =>
    rw [List.append_nil]
    exact h
  | cons l more ih =>
    have hmore := ih (h.store l)
    rw [List.append_assoc] at hmore
    exact hmore

/-! ## Printing -/

/-- A line as it is shown. -/
def entry (x : Option Line) : List Char := shown x ++ ['\n']

theorem print_loop_succ {cells : List (Option Line)} {curr i fuel : Nat} (hi : i < cells.length)
    (output : List Char) :
    print_loop cells curr (fuel + 1) i output =
      if (i + 1) % cells.length ≠ curr then
        print_loop cells curr fuel ((i + 1) % cells.length) (output ++ entry cells[i])
      else some (output ++ entry cells[i]) := by
  rw [print_loop, List.getElem?_eq_getElem hi, Option.join_some, List.append_assoc]
  rfl

/-- **The loop prints up to `curr_line`, all around the array if it begins there.** -/
theorem print_loop_eq {cells : List (Option Line)} {curr i u fuel : Nat} (hi : i < cells.length)
    (hu : u < cells.length) (hcurr : endPos cells.length i (u + 1) = curr) (hfuel : u < fuel)
    (output : List Char) :
    print_loop cells curr fuel i output =
      some (output ++ (window cells i (u + 1)).flatMap entry) := by
  induction u generalizing i fuel output with
  | zero =>
    obtain ⟨fuel, rfl⟩ : ∃ m, fuel = m + 1 := Nat.exists_eq_succ_of_ne_zero (by omega)
    have hend : ¬ (i + 1) % cells.length ≠ curr := not_not.mpr hcurr
    have hnone : window cells ((i + 1) % cells.length) 0 = [] := List.take_zero
    rw [print_loop_succ hi, if_neg hend, window_succ hi hu, hnone, List.flatMap_cons,
      List.flatMap_nil, List.append_nil]
  | succ u ih =>
    obtain ⟨fuel, rfl⟩ : ∃ m, fuel = m + 1 := Nat.exists_eq_succ_of_ne_zero (by omega)
    have hj : (i + 1) % cells.length < cells.length := Nat.mod_lt _ (by omega)
    have hnext : endPos cells.length ((i + 1) % cells.length) (u + 1) = curr := by
      rw [← hcurr, endPos, endPos, Nat.mod_add_mod, Nat.add_assoc, Nat.add_comm 1 (u + 1)]
    -- there are still lines to come, but not so many that the loop is back
    have hmore : (i + 1) % cells.length ≠ curr := by
      have hcases := endPos_cases hj (u := u + 1) (by omega)
      rw [hnext] at hcases
      omega
    rw [print_loop_succ hi, if_pos hmore, ih hj (by omega) hnext (by omega), window_succ hi hu,
      List.flatMap_cons, List.append_assoc]

/-! ## The text -/

theorem Tail.Holds.first_lt (h : v.Holds ls) : v.first < v.lines.length := by
  rw [h.length, Tail.first]
  split_ifs
  · exact h.curr
  · decide

/-- The lines in use end before `curr_line`. -/
theorem Tail.Holds.endPos_first (h : v.Holds ls) :
    endPos v.lines.length v.first (min ls.length LINES) = v.curr_line := by
  rw [h.length, endPos, Tail.first, h.wrapped]
  by_cases hfull : LINES ≤ ls.length
  · simp [hfull, Nat.mod_eq_of_lt h.curr]
  · have hroom : ls.length < LINES := Nat.lt_of_not_le hfull
    simp [hfull, Nat.min_eq_left hroom.le, Nat.mod_eq_of_lt hroom, h.filled hroom]

/-- What is printed of an array that holds lines. -/
theorem Tail.Holds.print (h : v.Holds ls) (hne : ls ≠ []) :
    print_loop v.lines v.curr_line LINES v.first [] =
      some ((ls.rtake LINES).flatMap (· ++ ['\n'])) := by
  have hpos : 0 < min ls.length LINES := Nat.lt_min.mpr ⟨List.length_pos_iff.mpr hne, by decide⟩
  obtain ⟨u, hu⟩ : ∃ u, min ls.length LINES = u + 1 := Nat.exists_eq_succ_of_ne_zero hpos.ne'
  have hlt : u < LINES := by omega
  have hend := h.endPos_first
  have hheld := h.held
  rw [hu] at hend hheld
  have hcells : u < v.lines.length := by
    rw [h.length]
    exact hlt
  rw [print_loop_eq h.first_lt hcells hend hlt, hheld, List.nil_append, List.flatMap_map]
  rfl

/-- The array after the file was read. -/
def tailOf (file : Option LogFile) : Tail := (logLines file).foldl Tail.store {}

theorem update_log_prime_eq (file : Option LogFile) :
    update_log_prime file =
      print_loop (tailOf file).lines (tailOf file).curr_line LINES (tailOf file).first [] := by
  cases file with
  | none => rfl
  | some f =>
    rw [update_log_prime]
    simp only [read_loop_eq]
    rfl

theorem tailOf_holds (file : Option LogFile) : (tailOf file).Holds (logLines file) :=
  Tail.Holds.init.foldl (logLines file)

/-- **The log view shows the last lines of the log, 50 at most, each with a line feed behind it, if the
log has a line.** -/
theorem update_log_shows_last (file : Option LogFile) (h : logLines file ≠ []) :
    update_log_prime file = some (((logLines file).rtake LINES).flatMap (· ++ ['\n'])) := by
  rw [update_log_prime_eq]
  exact (tailOf_holds file).print h

theorem update_log_shows_last_two :
    update_log_prime (some { content := "a\nb\n".toList }) = some "a\nb\n".toList := by
  have hlines : logLines (some { content := "a\nb\n".toList }) = [['a'], ['b']] :=
    @fileLines_joined [['a'], ['b']] (by simp)
  have hne : logLines (some { content := "a\nb\n".toList }) ≠ [] := by
    rw [hlines]
    exact List.cons_ne_nil _ _
  rw [update_log_shows_last _ hne, hlines]
  rfl

/-- Of a log without lines the whole array is printed. -/
theorem update_log_empty {file : Option LogFile} (h : logLines file = []) :
    update_log_prime file = some (List.replicate LINES "null\n".toList).flatten := by
  have hlen : (List.replicate LINES (none : Option Line)).length = LINES := List.length_replicate
  have hpos : 0 < (List.replicate LINES (none : Option Line)).length := by
    rw [hlen]
    decide
  have hlast : 49 < (List.replicate LINES (none : Option Line)).length := by
    rw [hlen]
    decide
  have hend : endPos (List.replicate LINES (none : Option Line)).length 0 (49 + 1) = 0 := by
    rw [hlen]
    rfl
  have hall : window (List.replicate LINES (none : Option Line)) 0 (49 + 1) =
      List.replicate LINES none := by
    rw [window_of_le hlast, List.drop_zero]
    exact List.take_of_length_le hlen.le
  have hempty : tailOf file = {} := by
    rw [tailOf, h]
    rfl
  rw [update_log_prime_eq, hempty]
  have hfuel : 49 < LINES := by decide
  have hprint := print_loop_eq hpos hlast hend hfuel []
  rw [hall, List.nil_append] at hprint
  exact hprint.trans (by rw [List.flatMap_replicate]; rfl)

/-- **If there is no log, or nothing in it, the log view says `null` 50 times.** -/
theorem update_log_shows_null :
    (logLines none = [] ∧ update_log_prime none = some (List.replicate 50 "null\n".toList).flatten) ∧
      logLines (some { content := [] }) = [] ∧
      update_log_prime (some { content := [] }) =
        some (List.replicate 50 "null\n".toList).flatten := by
  have hempty : logLines (some { content := [] }) = [] := fileLines_of_none rfl
  exact ⟨⟨rfl, update_log_empty rfl⟩, hempty, update_log_empty hempty⟩

end SimpleSshd.Service
