import SimpleSshd.Dropbear.Auth

/-!
# `interface.c`: the command line of the daemon

The service starts the daemon through the native library, which forks and calls `dropbear_main` in the
child. The child's arguments are a few fixed ones and the extra options of the user, a text that
`split_cmd` cuts into arguments. It collects an argument in the array `curr`, which is emitted when the
argument ends, and also when there is no room left in it.

A C string is the bytes before its NUL. What is read behind them is the NUL.
-/

namespace SimpleSshd.Jni

open Dropbear (Bytes ascii cstr)

/-- `sizeof curr`. -/
def CURR_SIZE : Nat := 1000

def QUOTE : UInt8 := 0x22
def BACKSLASH : UInt8 := 0x5c

def isspace (c : UInt8) : Bool := c = 0x20 ∨ (0x09 ≤ c ∧ c ≤ 0x0d)

/-- What a character behind a backslash stands for. -/
def unescape (c : UInt8) : UInt8 :=
  if c = 0x6e then 0x0a -- n
  else if c = 0x72 then 0x0d -- r
  else if c = 0x62 then 0x08 -- b
  else if c = 0x74 then 0x09 -- t
  else c

/-- The loop of `split_cmd`, with the rest of the input, `curr`, `in_quotes`, and `argv` so far. -/
def split_loop (max_argc : Nat) : Bytes → Bytes → Bool → List Bytes → List Bytes
  | [], curr, _, argv =>
    if curr.length ≠ 0 ∧ argv.length + 2 < max_argc then argv ++ [cstr curr] else argv
  | c :: input, curr, in_quotes, argv =>
    if curr.length + 10 ≥ CURR_SIZE ∨ (!in_quotes && isspace c) then
      if curr.length ≠ 0 then
        if argv.length + 2 ≥ max_argc then argv
        else split_loop max_argc input [] in_quotes (argv ++ [cstr curr])
      else split_loop max_argc input curr in_quotes argv
    else if c = QUOTE then split_loop max_argc input curr (!in_quotes) argv
    else if c = BACKSLASH then
      match input with
      -- the NUL is stored, and then read once more
      | [] => split_loop max_argc [] (curr ++ [0]) in_quotes argv
      | d :: input => split_loop max_argc input (curr ++ [unescape d]) in_quotes argv
    else split_loop max_argc input (curr ++ [c]) in_quotes argv

/-- `split_cmd`: what it returns, and what is in `argv` then. Nothing stands for `NULL`. -/
def split_cmd (input : Option Bytes) (max_argc : Nat) : Nat × List (Option Bytes) :=
  match input with
  | none => (0, [none])
  | some input =>
    let argv := split_loop max_argc input [] false []
    (argv.length, argv.map some ++ [none])

def from_java_string (s : Option Bytes) : Bytes := s.getD []

/-- The number of elements of `argv`. -/
def ARGV_SIZE : Nat := 100

/-- The arguments in front of the extra options. -/
def fixedArgs (port : Int) : List Bytes :=
  [ascii "sshd", ascii "-R", ascii "-F"] ++
    (if port ≠ 0 then [ascii "-p", ascii (toString port)] else [])

/-- What the child of `start_sshd` calls `dropbear_main` with: `argc` and `argv`. -/
def start_sshd_args (port : Int) (jextra : Option Bytes) : Nat × List (Option Bytes) :=
  let argv := fixedArgs port
  let (argc, extra) := split_cmd (some (from_java_string jextra)) (ARGV_SIZE - argv.length)
  (argv.length + argc, argv.map some ++ extra)

end SimpleSshd.Jni
