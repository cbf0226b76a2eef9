import SimpleSshd.BufferSu.BufferSu

/-!
# Proofs: what one event can do

`Moves` lists everything an event can do to a state. Every invariant of the loop is proved by cases
on it; `step` is not unfolded again.
-/

namespace SimpleSshd.BufferSu

variable {s t : State} {e : Event}

/-- The descriptors put into `ifds` when the queues hold `n0` and `n1` bytes. -/
def polled (n0 n1 : Nat) : Finset Fd :=
  let ifds : Finset Fd := if n0 < MAX_BUFSZ then {.stdin} else ∅
  if n1 < MAX_BUFSZ then insert .child_stdout ifds else ifds

theorem stdin_mem_polled {n0 n1 : Nat} : Fd.stdin ∈ polled n0 n1 ↔ n0 < MAX_BUFSZ := by
  unfold polled
  by_cases h0 : n0 < MAX_BUFSZ <;> by_cases h1 : n1 < MAX_BUFSZ <;> simp [h0, h1]

theorem child_stdout_mem_polled {n0 n1 : Nat} :
    Fd.child_stdout ∈ polled n0 n1 ↔ n1 < MAX_BUFSZ := by
  unfold polled
  by_cases h0 : n0 < MAX_BUFSZ <;> by_cases h1 : n1 < MAX_BUFSZ <;> simp [h0, h1]

/-- The code goes on to `pc` without a system call and without changing a variable. -/
inductive Skips (s : State) : Pc → Prop
  | out_child (hpc : s.pc = .out_child) (h : s.child_dead = true ∨ buf_waiting s.buf0 = false) :
      Skips s .select
  | read_stdin (hpc : s.pc = .read_stdin) (h : .stdin ∉ s.ifds) : Skips s .read_child
  | read_child (hpc : s.pc = .read_child) (h : .child_stdout ∉ s.ifds) : Skips s .write_stdout
  | write_stdout (hpc : s.pc = .write_stdout) (h : ¬ (.stdout ∈ s.ofds ∧ buf_waiting s.buf1)) :
      Skips s .test_child
  | test_child (hpc : s.pc = .test_child) (hdead : s.child_dead = false)
      (h : .child_stdin ∈ s.ofds) : Skips s .write_child
  | test_top (hpc : s.pc = .test_child) : Skips s .top
  | write_child (hpc : s.pc = .write_child) : Skips s .top

inductive Moves (s : State) : Event → State → Prop
  | fill {n0 n1 : Nat} (hpc : s.pc = .top) (h0 : buf_length s.heap s.buf0 = .ok n0)
      (h1 : buf_length s.heap s.buf1 = .ok n1) :
      Moves s .tau { s with ifds := polled n0 n1, ofds := ∅, pc := .out_stdout }
  | broken {x : Exit} (hpc : s.pc = .top)
      (h : buf_length s.heap s.buf0 = .error x ∨ buf_length s.heap s.buf1 = .error x) :
      Moves s .tau (s.stop x)
  | await_stdout (hpc : s.pc = .out_stdout) (h : buf_waiting s.buf1 = true) :
      Moves s .tau { s with ofds := insert .stdout s.ofds, pc := .out_child }
  | die (hpc : s.pc = .out_stdout) (h : buf_waiting s.buf1 = false) (hdead : s.child_dead = true) :
      Moves s .tau (s.stop .child_dead)
  | idle_stdout (hpc : s.pc = .out_stdout) (h : buf_waiting s.buf1 = false)
      (hdead : s.child_dead = false) : Moves s .tau { s with pc := .out_child }
  | await_child (hpc : s.pc = .out_child) (h : buf_waiting s.buf0 = true)
      (hdead : s.child_dead = false) :
      Moves s .tau { s with ofds := insert .child_stdin s.ofds, pc := .select }
  | skip {pc : Pc} (h : Skips s pc) : Moves s .tau { s with pc := pc }
  | select_failed (hpc : s.pc = .select) :
      Moves s (.select s.ifds s.ofds none) { s with pc := .read_stdin }
  | selected {i o : Finset Fd} (hpc : s.pc = .select) (hi : i ⊆ s.ifds) (ho : o ⊆ s.ofds) :
      Moves s (.select s.ifds s.ofds (some (i, o)))
        { s with ifds := i, ofds := o, pc := .read_stdin }
  | read_stdin {r : ReadResult} (hpc : s.pc = .read_stdin) (hset : .stdin ∈ s.ifds)
      (hr : State.admits s.heap r) : Moves s (.read .stdin r) (s.readStdin r)
  | read_child {r : ReadResult} (hpc : s.pc = .read_child) (hset : .child_stdout ∈ s.ifds)
      (hr : State.admits s.heap r) (hpipe : s.pipeAdmits r) :
      Moves s (.read .child_stdout r) (s.readChild r)
  | write_stdout {bs : Bytes} (hpc : s.pc = .write_stdout) (hset : .stdout ∈ s.ofds)
      (hwait : buf_waiting s.buf1 = true) (hbs : bs <+: offered s.heap s.buf1) :
      Moves s (.write .stdout bs) (s.writeStdout bs.length)
  | write_child {bs : Bytes} (hpc : s.pc = .write_child) (hwait : buf_waiting s.buf0 = true)
      (hbs : bs <+: offered s.heap s.buf0) :
      Moves s (.write .child_stdin bs) (s.writeChild bs.length)
  | sigchld (h : s.running = true) : Moves s .sigchld { s with child_dead := true }
  | sigpipe (h : s.running = true) : Moves s .sigpipe (s.stop .sigpipe)
  | child_write {bs : Bytes} (h : s.running = true) (hopen : s.child_writes = true) :
      Moves s (.child_write bs) { s with pipe := s.pipe ++ bs }
  | child_close (h : s.running = true) : Moves s .child_close { s with child_writes := false }
  | child_exit (h : s.running = true) :
      Moves s .child_exit { s with child_writes := false, child_exited := true }

theorem tau_top (hpc : s.pc = .top) (h : s.tau = some t) : Moves s .tau t := by
  simp only [State.tau, hpc] at h
  cases h0 : buf_length s.heap s.buf0 with
  | error x =>
    rw [h0] at h
    exact Option.some.inj h ▸ .broken hpc (.inl h0)
  | ok n0 =>
    cases h1 : buf_length s.heap s.buf1 with
    | error x =>
      rw [h0, h1] at h
      exact Option.some.inj h ▸ .broken hpc (.inr h1)
    | ok n1 =>
      rw [h0, h1] at h
      exact Option.some.inj h ▸ .fill hpc h0 h1

theorem tau_moves (h : s.tau = some t) : Moves s .tau t := by
  cases hpc : s.pc with
  | top => exact tau_top hpc h
  | out_stdout =>
    simp only [State.tau, hpc] at h
    cases hwait : buf_waiting s.buf1 with
    | true =>
      rw [hwait, if_pos rfl] at h
      exact Option.some.inj h ▸ .await_stdout hpc hwait
    | false =>
      rw [hwait, if_neg Bool.false_ne_true] at h
      by_cases hdead : s.child_dead = true
      · rw [if_pos hdead] at h
        exact Option.some.inj h ▸ .die hpc hwait hdead
      · rw [if_neg hdead] at h
        exact Option.some.inj h ▸ .idle_stdout hpc hwait (Bool.eq_false_iff.mpr hdead)
  | out_child =>
    simp only [State.tau, hpc] at h
    by_cases hboth : (!s.child_dead && buf_waiting s.buf0) = true
    · rw [if_pos hboth] at h
      simp only [Bool.and_eq_true, Bool.not_eq_true'] at hboth
      exact Option.some.inj h ▸ .await_child hpc hboth.2 hboth.1
    · rw [if_neg hboth] at h
      refine Option.some.inj h ▸ .skip (.out_child hpc ?_)
      cases hdead : s.child_dead with
      | true => exact .inl rfl
      | false => exact .inr (by simpa [hdead] using hboth)
  | select => simp [State.tau, hpc] at h
  | read_stdin =>
    simp only [State.tau, hpc, Option.ite_none_left_eq_some] at h
    exact Option.some.inj h.2 ▸ .skip (.read_stdin hpc h.1)
  | read_child =>
    simp only [State.tau, hpc, Option.ite_none_left_eq_some] at h
    exact Option.some.inj h.2 ▸ .skip (.read_child hpc h.1)
  | write_stdout =>
    simp only [State.tau, hpc, Option.ite_none_left_eq_some] at h
    exact Option.some.inj h.2 ▸ .skip (.write_stdout hpc h.1)
  | test_child =>
    simp only [State.tau, hpc] at h
    by_cases hboth : (!s.child_dead && decide (.child_stdin ∈ s.ofds)) = true
    · rw [if_pos hboth] at h
      simp only [Bool.and_eq_true, Bool.not_eq_true', decide_eq_true_eq] at hboth
      exact Option.some.inj h ▸ .skip (.test_child hpc hboth.1 hboth.2)
    · rw [if_neg hboth] at h
      exact Option.some.inj h ▸ .skip (.test_top hpc)
  | write_child =>
    simp only [State.tau, hpc, Option.ite_none_left_eq_some] at h
    exact Option.some.inj h.2 ▸ .skip (.write_child hpc)
  | stopped why => simp [State.tau, hpc] at h

/-- **Inversion of `step`.** -/
theorem step_moves (h : step s e = some t) : Moves s e t := by
  cases e with
  | tau => exact tau_moves h
  | select ifds ofds ready =>
    simp only [step, Option.ite_none_right_eq_some] at h
    obtain ⟨⟨hpc, rfl, rfl⟩, h⟩ := h
    cases ready with
    | none => exact Option.some.inj h ▸ .select_failed hpc
    | some io =>
      simp only [Option.ite_none_right_eq_some, Option.some.injEq] at h
      obtain ⟨⟨hi, ho⟩, rfl⟩ := h
      exact .selected hpc hi ho
  | read fd r =>
    cases fd with
    | stdin =>
      simp only [step, Option.ite_none_right_eq_some, Option.some.injEq] at h
      obtain ⟨⟨hpc, hset, hr⟩, rfl⟩ := h
      exact .read_stdin hpc hset hr
    | child_stdout =>
      simp only [step, Option.ite_none_right_eq_some, Option.some.injEq] at h
      obtain ⟨⟨hpc, hset, hr, hpipe⟩, rfl⟩ := h
      exact .read_child hpc hset hr hpipe
    | _ => simp [step] at h
  | write fd bs =>
    cases fd with
    | stdout =>
      simp only [step, Option.ite_none_right_eq_some, Option.some.injEq] at h
      obtain ⟨⟨hpc, hset, hwait, hbs⟩, rfl⟩ := h
      exact .write_stdout hpc hset hwait hbs
    | child_stdin =>
      simp only [step, Option.ite_none_right_eq_some, Option.some.injEq] at h
      obtain ⟨⟨hpc, hwait, hbs⟩, rfl⟩ := h
      exact .write_child hpc hwait hbs
    | _ => simp [step] at h
  | sigchld =>
    simp only [step, Option.ite_none_right_eq_some, Option.some.injEq] at h
    exact h.2 ▸ .sigchld h.1
  | sigpipe =>
    simp only [step, Option.ite_none_right_eq_some, Option.some.injEq] at h
    exact h.2 ▸ .sigpipe h.1
  | child_write bs =>
    simp only [step, Option.ite_none_right_eq_some, Option.some.injEq] at h
    exact h.2 ▸ .child_write h.1.1 h.1.2
  | child_close =>
    simp only [step, Option.ite_none_right_eq_some, Option.some.injEq] at h
    exact h.2 ▸ .child_close h.1
  | child_exit =>
    simp only [step, Option.ite_none_right_eq_some, Option.some.injEq] at h
    exact h.2 ▸ .child_exit h.1

end SimpleSshd.BufferSu
