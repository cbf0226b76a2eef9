import SimpleSshd.Dropbear.Auth
import SimpleSshd.Dropbear.AuthKeys
import Mathlib.Data.List.TakeWhile
import Mathlib.Logic.Function.Basic

/-!
# `dbutil.c`: the environment of a command

Before a command is executed, the variables that the user configured are set. `install_environment`
reads them from the text `conf_env`, one on each line, with a pointer `s` that four loops move on. Here
the pointer is the part of the text from there on; what is read behind its end is the NUL.
-/

namespace SimpleSshd.Dropbear

/-- The environment of the process. -/
abbrev Environ := Bytes → Option Bytes

def EQUALS : UInt8 := 0x3d
def SSHD_LIBDIR : Bytes := ascii "SSHD_LIBDIR"

/-- `setenv`, which overwrites and is taken not to fail. -/
def setenv (env : Environ) (n v : Bytes) : Environ := Function.update env n (some v)

/-- `*s`. -/
def peek (s : Bytes) : UInt8 := s.headD 0

/-- The loop over the name goes on. -/
def isName (c : UInt8) : Bool := c ≠ 0 ∧ c ≠ EQUALS ∧ c ≠ CR ∧ c ≠ LF

/-- The loop over the value goes on. -/
def isValue (c : UInt8) : Bool := c ≠ 0 ∧ c ≠ CR ∧ c ≠ LF

/-- The loop over the ends of lines goes on. -/
def isLineEnd (c : UInt8) : Bool := c = CR ∨ c = LF

/-- What one round of the loop finds, and where `s` is then. -/
structure EnvLine where
  name : Bytes
  val : Bytes
  rest : Bytes

def env_line (s : Bytes) : EnvLine :=
  let name := s.takeWhile isName
  let s := s.dropWhile isName
  if peek s = EQUALS then
    let s := s.tail
    { name, val := s.takeWhile isValue, rest := (s.dropWhile isValue).dropWhile isLineEnd }
  else { name, val := [], rest := s.dropWhile isLineEnd }

/-- A round moves on: the first character belongs to the name, is the `=`, or ends the line. -/
theorem env_line_lt {s : Bytes} (h : peek s ≠ 0) : (env_line s).rest.length < s.length := by
  have hlen : (s.dropWhile isName).length ≤ s.length := (List.dropWhile_suffix _).length_le
  unfold env_line
  simp only
  split_ifs with hequals
  · have hrest := ((List.dropWhile_suffix isLineEnd).trans
      (List.dropWhile_suffix (l := (s.dropWhile isName).tail) isValue)).length_le
    have hne : 0 < (s.dropWhile isName).length := by
      rw [List.length_pos_iff]
      intro hnil
      rw [hnil] at hequals
      cases hequals
    simp only [List.length_tail] at hrest ⊢
    omega
  · cases s with
    | nil => exact absurd rfl h
    | cons c s =>
      by_cases hname : isName c = true
      · rw [List.dropWhile_cons_of_pos hname]
        have hrest := ((List.dropWhile_suffix isLineEnd).trans
          (List.dropWhile_suffix (l := s) isName)).length_le
        exact Nat.lt_succ_of_le hrest
      · rw [List.dropWhile_cons_of_neg hname] at hequals ⊢
        have hend : isLineEnd c = true := by
          by_contra hnot
          simp_all [isName, isLineEnd, peek]
        rw [List.dropWhile_cons_of_pos hend]
        exact Nat.lt_succ_of_le (List.dropWhile_suffix _).length_le

/-- The loop of `install_environment`. -/
def install_loop (s : Bytes) (env : Environ) : Environ :=
  if peek s = 0 then env
  else
    let line := env_line s
    install_loop line.rest (if line.name.length ≠ 0 then setenv env line.name line.val else env)
termination_by s.length
decreasing_by exact env_line_lt ‹_›

/-- `install_environment`, with nothing for a `conf_env` that is `NULL`. -/
def install_environment (conf_env : Option Bytes) (conf_lib : Bytes) (env : Environ) : Environ :=
  match conf_env with
  | none => env
  | some s => setenv (install_loop s env) SSHD_LIBDIR conf_lib

end SimpleSshd.Dropbear
