import Mathlib.Data.Finset.Erase
import Mathlib.Data.Finset.Insert
import SimpleSshd.Lib.Runs

/-!
# `buffersu`: the relay between `rsync`'s standard streams and a child process

`buffersu` copies fd 0 to the child's stdin and the child's stdout to fd 1, with a queue of blocks in
between for each direction. A state records the heap, both queues, the `fd_set`s, the point of the
loop that runs next and, for the world outside, the child and the pipe its stdout is. An event is a
system call of the loop together with what the kernel answered, a stretch of code between two of
them, the delivery of a signal or something the child does. The code is split wherever a signal
handler could change what it reads next, so handlers run at any instant.
-/

namespace SimpleSshd.BufferSu

def MAX_BUFSZ : Nat := 1024 * 1024

def BLKSZ : Nat := 1024

abbrev Bytes := List UInt8

abbrev Addr := Nat

/-! ### Blocks and the heap -/

/-- The data of a `struct block`. -/
structure Span where
  buf : Vector UInt8 BLKSZ
  ofs : Nat
  len : Nat
  deriving DecidableEq

/-- The bytes of a block that are still to be written. -/
def Span.unread (c : Span) : Bytes := (c.buf.toList.drop c.ofs).take c.len

/-- `struct block`; `none` is the null pointer. -/
structure Block extends Span where
  next : Option Addr
  prev : Option Addr
  deriving DecidableEq

/-- `struct buf`. -/
structure Buf where
  head : Option Addr := none
  tail : Option Addr := none
  deriving DecidableEq

/-- The blocks allocated at present; no address from `brk` on is in use. -/
structure Heap where
  cells : Addr → Option Block
  brk : Nat
  above : ∀ a, brk ≤ a → cells a = none

namespace Heap

def empty : Heap := ⟨fun _ => none, 0, fun _ _ => rfl⟩

/-- `malloc` returned `a`, and the new block is filled with `c`. -/
def alloc (h : Heap) (a : Addr) (c : Block) : Heap where
  cells := Function.update h.cells a (some c)
  brk := max h.brk (a + 1)
  above := by
    intro b hb
    have hba : b ≠ a := by omega
    rw [Function.update_of_ne hba]
    exact h.above b (by omega)

def free (h : Heap) (a : Addr) : Heap where
  cells := Function.update h.cells a none
  brk := h.brk
  above := by
    intro b hb
    by_cases hba : b = a
    · rw [hba, Function.update_self]
    · rw [Function.update_of_ne hba]
      exact h.above b hb

end Heap

/-- Why the program is no longer in its loop. -/
inductive Exit
  /-- `die()` at the head of the loop, because `child_dead` is set. -/
  | child_dead
  /-- `die()` in `buf_read`. -/
  | read_error
  /-- `die()` in the handler of `SIGPIPE`. -/
  | sigpipe
  /-- A null or dangling pointer was followed. -/
  | fault
  /-- The `for` loop of `buf_length` went round in circles. -/
  | hang
  deriving DecidableEq, Repr

def Heap.load (h : Heap) (a : Addr) : Except Exit Block :=
  match h.cells a with
  | some c => pure c
  | none => throw .fault

def Heap.store (h : Heap) (a : Addr) (c : Block) : Except Exit Heap :=
  match h.cells a with
  | some _ => pure (h.alloc a c)
  | none => throw .fault

/-! ### The queue operations -/

/-- The `for` loop of `buf_length`. It visits every block at most once, so `h.brk` rounds are
enough. -/
def buf_length.loop (h : Heap) : Nat → Option Addr → Nat → Except Exit Nat
  | _, none, ret => pure ret
  | 0, some _, _ => throw .hang
  | k + 1, some p, ret => do
    let c ← h.load p
    buf_length.loop h k c.next (ret + c.len)

def buf_length (h : Heap) (b : Buf) : Except Exit Nat := buf_length.loop h h.brk b.head 0

def buf_waiting (b : Buf) : Bool := b.head.isSome

/-- What `read(fd, t, BLKSZ)` returned and, after data, what `malloc` returned. -/
inductive ReadResult
  /-- `n` bytes; the rest of `t` is whatever the stack held. -/
  | data (n : Nat) (t : Vector UInt8 BLKSZ) (p : Option Addr)
  | eof
  | error
  deriving DecidableEq

/-- The bytes a call of `read` delivered. -/
def ReadResult.bytes : ReadResult → Bytes
  | .data n t _ => t.toList.take n
  | .eof => []
  | .error => []

def buf_read (h : Heap) (b : Buf) : ReadResult → Except Exit (Heap × Buf × Nat)
  | .error => throw .read_error
  | .eof => pure (h, b, 0)
  -- `memcpy` to the null pointer
  | .data _ _ none => throw .fault
  | .data n t (some p) => do
    let h := h.alloc p { buf := t, ofs := 0, len := n, next := none, prev := b.tail }
    let h ← match b.tail with
      | none => pure h
      | some q => do
        let c ← h.load q
        h.store q { c with next := some p }
    pure (h, { head := if b.head.isSome then b.head else some p, tail := some p }, n)

/-- What `buf_write` passes to `write`. -/
def offered (h : Heap) (b : Buf) : Bytes :=
  match b.head.bind h.cells with
  | some c => c.unread
  | none => []

/-- `buf_write` after `write` returned `n`; 0 stands for a call that failed. -/
def buf_write (h : Heap) (b : Buf) (n : Nat) : Except Exit (Heap × Buf) :=
  match b.head with
  | none => pure (h, b)
  | some p => do
    let c ← h.load p
    if n = 0 then pure (h, b)
    else do
      let c := { c with ofs := c.ofs + n, len := c.len - n }
      let h ← h.store p c
      if c.len = 0 then
        match c.next with
        | some q => do
          let d ← h.load q
          let h ← h.store q { d with prev := none }
          pure (h.free p, { b with head := some q })
        | none => pure (h.free p, { head := none, tail := none })
      else pure (h, b)

/-! ### The loop -/

/-- The descriptors `main` works with: its standard streams and the four ends of its two pipes. -/
inductive Fd
  | stdin
  | stdout
  /-- `p0[0]`, the child's end of its stdin. -/
  | p0_0
  /-- `p0[1]`. -/
  | child_stdin
  /-- `p1[0]`. -/
  | child_stdout
  /-- `p1[1]`, the child's end of its stdout. -/
  | p1_1
  deriving DecidableEq, Repr

def allFds : Finset Fd :=
  {Fd.stdin, Fd.stdout, Fd.p0_0, Fd.child_stdin, Fd.child_stdout, Fd.p1_1}

/-- What runs next. -/
inductive Pc
  /-- The head of the loop: `ifds` is filled. -/
  | top
  /-- `if (buf_waiting(&buf1))` with its `else if (child_dead)`. -/
  | out_stdout
  /-- `if (!child_dead && buf_waiting(&buf0))`. -/
  | out_child
  | select
  /-- `if (FD_ISSET(0, &ifds))`. -/
  | read_stdin
  /-- `if (FD_ISSET(child_stdout, &ifds))`. -/
  | read_child
  /-- `if (FD_ISSET(1, &ofds))`. -/
  | write_stdout
  /-- `if (!child_dead && FD_ISSET(child_stdin, &ofds))`. -/
  | test_child
  /-- `buf_write(&buf0, child_stdin)`. -/
  | write_child
  | stopped (why : Exit)
  deriving DecidableEq, Repr

structure State where
  heap : Heap
  buf0 : Buf
  buf1 : Buf
  child_dead : Bool
  ifds : Finset Fd
  ofds : Finset Fd
  pc : Pc
  /-- The descriptors this process has open. -/
  fds : Finset Fd
  /-- What the child has written to its stdout and nobody has read yet. -/
  pipe : Bytes
  /-- The child still has its stdout open. -/
  child_writes : Bool
  child_exited : Bool

inductive Event
  /-- Code without a system call. -/
  | tau
  /-- `select` with the sets passed to it and the sets it left; `none` if it returned -1. -/
  | select (ifds ofds : Finset Fd) (ready : Option (Finset Fd × Finset Fd))
  | read (fd : Fd) (r : ReadResult)
  /-- `write`, with the bytes it accepted; none at all if it failed. -/
  | write (fd : Fd) (accepted : Bytes)
  | sigchld
  | sigpipe
  | child_write (bs : Bytes)
  /-- The child closes its stdout. -/
  | child_close
  | child_exit

/-- The state in which `main` enters the loop, after `close(p0[0])` and `close(p1[1])`. -/
def start : State where
  heap := .empty
  buf0 := {}
  buf1 := {}
  child_dead := false
  ifds := ∅
  ofds := ∅
  pc := .top
  fds := (allFds.erase .p0_0).erase .p1_1
  pipe := []
  child_writes := true
  child_exited := false

namespace State

def stop (s : State) (why : Exit) : State := { s with pc := .stopped why }

def running (s : State) : Bool :=
  match s.pc with
  | .stopped _ => false
  | _ => true

/-- The loop from one system call or test of `child_dead` to the next. Where the code goes on to a
system call, that call is the next event. -/
def tau (s : State) : Option State :=
  match s.pc with
  | .top =>
    match buf_length s.heap s.buf0, buf_length s.heap s.buf1 with
    | .ok n0, .ok n1 =>
      let ifds : Finset Fd := if n0 < MAX_BUFSZ then {.stdin} else ∅
      let ifds := if n1 < MAX_BUFSZ then insert .child_stdout ifds else ifds
      some { s with ifds := ifds, ofds := ∅, pc := .out_stdout }
    | .error x, _ => some (s.stop x)
    | _, .error x => some (s.stop x)
  | .out_stdout =>
    if buf_waiting s.buf1 then some { s with ofds := insert .stdout s.ofds, pc := .out_child }
    else if s.child_dead then some (s.stop .child_dead)
    else some { s with pc := .out_child }
  | .out_child =>
    if !s.child_dead && buf_waiting s.buf0 then
      some { s with ofds := insert .child_stdin s.ofds, pc := .select }
    else some { s with pc := .select }
  | .select => none
  | .read_stdin => if .stdin ∈ s.ifds then none else some { s with pc := .read_child }
  | .read_child => if .child_stdout ∈ s.ifds then none else some { s with pc := .write_stdout }
  | .write_stdout =>
    if .stdout ∈ s.ofds ∧ buf_waiting s.buf1 then none else some { s with pc := .test_child }
  | .test_child =>
    if !s.child_dead && decide (.child_stdin ∈ s.ofds) then some { s with pc := .write_child }
    else some { s with pc := .top }
  | .write_child => if buf_waiting s.buf0 then none else some { s with pc := .top }
  | .stopped _ => none

/-- What `read` may return, with a block of `malloc` that is not in use. -/
def admits (h : Heap) : ReadResult → Prop
  | .data n _ (some p) => 0 < n ∧ n ≤ BLKSZ ∧ h.cells p = none
  | .data n _ none => 0 < n ∧ n ≤ BLKSZ
  | .eof => True
  | .error => True

instance (h : Heap) (r : ReadResult) : Decidable (admits h r) :=
  match r with
  | .data n _ (some p) => inferInstanceAs (Decidable (0 < n ∧ n ≤ BLKSZ ∧ h.cells p = none))
  | .data n _ none => inferInstanceAs (Decidable (0 < n ∧ n ≤ BLKSZ))
  | .eof => inferInstanceAs (Decidable True)
  | .error => inferInstanceAs (Decidable True)

/-- Reading the child's stdout delivers what is in the pipe, and EOF once it is empty and the child
has closed its end. -/
def pipeAdmits (s : State) : ReadResult → Prop
  | .eof => s.pipe = [] ∧ s.child_writes = false
  | .error => True
  | .data n t _ => t.toList.take n <+: s.pipe

instance (s : State) (r : ReadResult) : Decidable (s.pipeAdmits r) :=
  match r with
  | .eof => inferInstanceAs (Decidable (s.pipe = [] ∧ s.child_writes = false))
  | .error => inferInstanceAs (Decidable True)
  | .data n t _ => inferInstanceAs (Decidable (t.toList.take n <+: s.pipe))

/-- `buf_read(&buf0, 0)`; what it returns is not looked at. -/
def readStdin (s : State) (r : ReadResult) : State :=
  match buf_read s.heap s.buf0 r with
  | .ok (h, b, _) => { s with heap := h, buf0 := b, pc := .read_child }
  | .error x => s.stop x

/-- `if (!buf_read(&buf1, child_stdout)) child_dead = 1`. -/
def readChild (s : State) (r : ReadResult) : State :=
  match buf_read s.heap s.buf1 r with
  | .ok (h, b, n) =>
    { s with
      heap := h, buf1 := b, pc := .write_stdout, pipe := s.pipe.drop r.bytes.length
      child_dead := s.child_dead || n == 0 }
  | .error x => s.stop x

def writeStdout (s : State) (n : Nat) : State :=
  match buf_write s.heap s.buf1 n with
  | .ok (h, b) => { s with heap := h, buf1 := b, pc := .test_child }
  | .error x => s.stop x

def writeChild (s : State) (n : Nat) : State :=
  match buf_write s.heap s.buf0 n with
  | .ok (h, b) => { s with heap := h, buf0 := b, pc := .top }
  | .error x => s.stop x

end State

/-- One step of the system. After an answer of -1 the sets are still the ones passed to `select`. -/
def step (s : State) : Event → Option State
  | .tau => s.tau
  | .select ifds ofds ready =>
    if s.pc = .select ∧ ifds = s.ifds ∧ ofds = s.ofds then
      match ready with
      | none => some { s with pc := .read_stdin }
      | some (i, o) =>
        if i ⊆ ifds ∧ o ⊆ ofds then some { s with ifds := i, ofds := o, pc := .read_stdin } else none
    else none
  | .read .stdin r =>
    if s.pc = .read_stdin ∧ .stdin ∈ s.ifds ∧ State.admits s.heap r then some (s.readStdin r)
    else none
  | .read .child_stdout r =>
    if s.pc = .read_child ∧ .child_stdout ∈ s.ifds ∧ State.admits s.heap r ∧ s.pipeAdmits r then
      some (s.readChild r)
    else none
  | .write .stdout bs =>
    if s.pc = .write_stdout ∧ .stdout ∈ s.ofds ∧ buf_waiting s.buf1 ∧
        bs <+: offered s.heap s.buf1 then
      some (s.writeStdout bs.length)
    else none
  | .write .child_stdin bs =>
    if s.pc = .write_child ∧ buf_waiting s.buf0 ∧ bs <+: offered s.heap s.buf0 then
      some (s.writeChild bs.length)
    else none
  | .read _ _ => none
  | .write _ _ => none
  | .sigchld => if s.running then some { s with child_dead := true } else none
  | .sigpipe => if s.running then some (s.stop .sigpipe) else none
  | .child_write bs =>
    if s.running ∧ s.child_writes then some { s with pipe := s.pipe ++ bs } else none
  | .child_close => if s.running then some { s with child_writes := false } else none
  | .child_exit =>
    if s.running then some { s with child_writes := false, child_exited := true } else none

/-! ### What a run did -/

/-- The bytes read from `fd`. -/
def bytesRead (fd : Fd) (es : List Event) : Bytes :=
  es.flatMap fun
    | .read fd' r => if fd' = fd then r.bytes else []
    | _ => []

/-- The bytes written to `fd`. -/
def bytesWritten (fd : Fd) (es : List Event) : Bytes :=
  es.flatMap fun
    | .write fd' bs => if fd' = fd then bs else []
    | _ => []

/-- The bytes the child wrote to its stdout. -/
def childOutput (es : List Event) : Bytes :=
  es.flatMap fun
    | .child_write bs => bs
    | _ => []

/-- The answer of the last `select`, `none` before the first one. -/
def lastSelect (es : List Event) : Option (Option (Finset Fd × Finset Fd)) :=
  es.foldl (fun last e => match e with
    | .select _ _ ready => some ready
    | _ => last) none

/-- A call that the last `select` reported ready, if it is a call of `read` or `write` at all. -/
def Reported (last : Option (Option (Finset Fd × Finset Fd))) : Event → Prop
  | .read fd _ => ∃ i o, last = some (some (i, o)) ∧ fd ∈ i
  | .write fd _ => ∃ i o, last = some (some (i, o)) ∧ fd ∈ o
  | _ => True

end SimpleSshd.BufferSu
