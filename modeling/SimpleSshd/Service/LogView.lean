import Mathlib.Data.List.TakeWhile
import SimpleSshd.Service.Service

/-!
# `SimpleSSHD.update_log_prime`: the end of the daemon's log

The activity shows the last lines of `dropbear.err`. The file is read line by line into the array
`lines`, which is written round and round; then its elements are joined from the oldest one on.
-/

namespace SimpleSshd.Service

abbrev Line := List Char

/-- `lines.length`. -/
def LINES : Nat := 50

/-! ## Reading -/

/-- What is left of the file behind the line that `readLine` returns: a line ends with a line feed, a
carriage return, or both of them. -/
def afterLine (content : List Char) : List Char :=
  match content.dropWhile fun c => c ≠ '\n' ∧ c ≠ '\r' with
  | '\r' :: '\n' :: rest => rest
  | _ :: rest => rest
  | [] => []

theorem afterLine_lt {content : List Char} {l : Line} (h : readLine content = some l) :
    (afterLine content).length < content.length := by
  have hne : content ≠ [] := by
    rintro rfl
    cases h
  have hlen : (content.dropWhile fun c => c ≠ '\n' ∧ c ≠ '\r').length ≤ content.length :=
    (List.dropWhile_suffix _).length_le
  have hpos := List.length_pos_iff.mpr hne
  unfold afterLine
  split
  · rename_i rest hrest
    rw [hrest] at hlen
    simp only [List.length_cons] at hlen
    omega
  · rename_i c rest _ hrest
    rw [hrest] at hlen
    exact hlen
  · exact hpos

/-- The array `lines`, with `null` as nothing, and the local variables. -/
structure Tail where
  lines : List (Option Line) := List.replicate LINES none
  curr_line : Nat := 0
  wrapped : Bool := false
  deriving DecidableEq, Repr

/-- The body of the loop that reads the file. -/
def Tail.store (v : Tail) (l : Line) : Tail :=
  let lines := v.lines.set v.curr_line (some l)
  let curr_line := v.curr_line + 1
  if curr_line ≥ lines.length then { lines, curr_line := 0, wrapped := true }
  else { v with lines, curr_line }

/-- The loop. After `limit` lines `readLine` throws; without a limit it never does. -/
def read_loop (content : List Char) (limit : Option Nat) (v : Tail) : Tail :=
  if limit = some 0 then v
  else
    match h : readLine content with
    | none => v
    | some l => read_loop (afterLine content) (limit.map (· - 1)) (v.store l)
termination_by content.length
decreasing_by exact afterLine_lt h

/-! ## Printing -/

/-- A string as the operator `+` joins it. -/
def shown : Option Line → List Char
  | none => "null".toList
  | some l => l

/-- The loop that joins the lines, up to `fuel` times. -/
def print_loop (lines : List (Option Line)) (curr_line : Nat) : Nat → Nat → List Char →
    Option (List Char)
  | 0, _, _ => none
  | fuel + 1, i, output =>
    let output := output ++ shown (lines[i]?.join) ++ ['\n']
    let i := (i + 1) % lines.length
    if i ≠ curr_line then print_loop lines curr_line fuel i output else some output

/-- The file, if it exists and can be opened, and where reading it fails. -/
structure LogFile where
  content : List Char
  limit : Option Nat := none
  deriving DecidableEq, Repr

/-- The text that `update_log_prime` shows. -/
def update_log_prime (file : Option LogFile) : Option (List Char) :=
  let v : Tail :=
    match file with
    | none => {}
    | some f => read_loop f.content f.limit {}
  print_loop v.lines v.curr_line LINES (if v.wrapped then v.curr_line else 0) []

end SimpleSshd.Service
