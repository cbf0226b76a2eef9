import SimpleSshd.BufferSu.Proofs.RelayProofs

/-!
# Proofs: which descriptors the loop polls and which it calls

After `select` has returned -1 the loop goes on with the sets it passed in, so it calls `read` and
`write` on descriptors that nobody reported ready. It also ignores the end of fd 0: the descriptor
stays in `ifds`, and the child's stdin stays open.
-/

namespace SimpleSshd.BufferSu

open Runs

variable {s t : State} {e : Event} {es : List Event}

/-! ### Calls and reports -/

/-- Every call of `read` and `write` was reported ready by the `select` before it. -/
def OnlyReported (es : List Event) : Prop :=
  ∀ before e after, es = before ++ e :: after → Reported (lastSelect before) e

/-- No `select` returned -1. -/
def NoFailedSelect (es : List Event) : Prop := ∀ ifds ofds, Event.select ifds ofds none ∉ es

theorem onlyReported_snoc :
    OnlyReported (es ++ [e]) ↔ OnlyReported es ∧ Reported (lastSelect es) e := by
  constructor
  · intro h
    refine ⟨fun before e' after heq => ?_, h es e [] rfl⟩
    exact h before e' (after ++ [e]) (by rw [heq]; simp)
  · rintro ⟨hes, he⟩ before e' after heq
    rcases List.eq_nil_or_concat after with rfl | ⟨init, x, rfl⟩
    · obtain ⟨rfl, hx⟩ := List.append_inj' heq rfl
      obtain rfl : e = e' := by simpa using hx
      exact he
    · have heq' : es ++ [e] = (before ++ e' :: init) ++ [x] := by rw [heq]; simp
      exact hes before e' init (List.append_inj' heq' rfl).1

theorem lastSelect_snoc_select (i o : Finset Fd) (ready : Option (Finset Fd × Finset Fd)) :
    lastSelect (es ++ [.select i o ready]) = some ready := by
  simp [lastSelect]

/-- Events other than `select`. -/
def Event.silent : Event → Bool
  | .select _ _ _ => false
  | _ => true

theorem lastSelect_snoc (h : e.silent = true) : lastSelect (es ++ [e]) = lastSelect es := by
  cases e with
  | select => exact absurd h nofun
  | _ => simp [lastSelect]

theorem noFailedSelect_snoc (h : e.silent = true) :
    NoFailedSelect (es ++ [e]) ↔ NoFailedSelect es := by
  have hne : ∀ i o, Event.select i o none ≠ e := by
    rintro i o rfl
    exact absurd h nofun
  simp [NoFailedSelect, hne]

/-- Between `select` and the next loop head. -/
def Pc.acts : Pc → Bool
  | .read_stdin | .read_child | .write_stdout | .test_child | .write_child => true
  | _ => false

/-- While no `select` has failed, the sets the loop acts on are the ones reported. -/
structure ReadyInv (es : List Event) (s : State) : Prop where
  child : s.pc = .write_child → .child_stdin ∈ s.ofds
  reported : NoFailedSelect es → OnlyReported es
  sets : NoFailedSelect es → s.pc.acts = true → lastSelect es = some (some (s.ifds, s.ofds))

/-- Code and calls after `select`, and everything outside the loop's control. -/
theorem ReadyInv.next (hinv : ReadyInv es s) (he : e.silent = true)
    (hrep : NoFailedSelect es → Reported (lastSelect es) e)
    (hacts : t.pc.acts = true → s.pc.acts = true ∧ t.ifds = s.ifds ∧ t.ofds = s.ofds)
    (hchild : t.pc = .write_child → .child_stdin ∈ t.ofds) : ReadyInv (es ++ [e]) t := by
  refine ⟨hchild, fun hno => ?_, fun hno ht => ?_⟩
  · rw [noFailedSelect_snoc he] at hno
    exact onlyReported_snoc.mpr ⟨hinv.reported hno, hrep hno⟩
  · rw [noFailedSelect_snoc he] at hno
    obtain ⟨hs, hi, ho⟩ := hacts ht
    rw [lastSelect_snoc he, hi, ho]
    exact hinv.sets hno hs

theorem ReadyInv.stop (hinv : ReadyInv es s) (he : e.silent = true) (why : Exit)
    (hrep : NoFailedSelect es → Reported (lastSelect es) e) :
    ReadyInv (es ++ [e]) (s.stop why) :=
  hinv.next he hrep nofun nofun

theorem Skips.acts {pc : Pc} (h : Skips s pc) (hacts : pc.acts = true) : s.pc.acts = true := by
  cases h with
  | out_child => exact absurd hacts nofun
  | test_top => exact absurd hacts nofun
  | write_child => exact absurd hacts nofun
  | read_stdin hpc => rw [hpc]; rfl
  | read_child hpc => rw [hpc]; rfl
  | write_stdout hpc => rw [hpc]; rfl
  | test_child hpc => rw [hpc]; rfl

theorem ReadyInv.step (hinv : ReadyInv es s) (h : Moves s e t) : ReadyInv (es ++ [e]) t := by
  cases h with
  | fill => exact hinv.next rfl (fun _ => trivial) nofun nofun
  | broken => exact hinv.stop rfl _ fun _ => trivial
  | await_stdout => exact hinv.next rfl (fun _ => trivial) nofun nofun
  | die => exact hinv.stop rfl _ fun _ => trivial
  | idle_stdout => exact hinv.next rfl (fun _ => trivial) nofun nofun
  | await_child => exact hinv.next rfl (fun _ => trivial) nofun nofun
  | skip h =>
    refine hinv.next rfl (fun _ => trivial) (fun hacts => ⟨h.acts hacts, rfl, rfl⟩) ?_
    intro hpc
    cases h with
    | test_child _ _ hset => exact hset
    | _ => exact absurd hpc nofun
  | select_failed hpc =>
    have hfail : ¬ NoFailedSelect (es ++ [.select s.ifds s.ofds none]) :=
      fun hno => hno s.ifds s.ofds (by simp)
    exact ⟨nofun, fun hno => absurd hno hfail, fun hno => absurd hno hfail⟩
  | selected hpc hi ho =>
    refine ⟨nofun, fun hno => ?_, fun _ _ => lastSelect_snoc_select _ _ _⟩
    refine onlyReported_snoc.mpr ⟨hinv.reported fun i o hmem => ?_, trivial⟩
    exact hno i o (List.mem_append_left _ hmem)
  | @read_stdin r hpc hset =>
    have hrep : NoFailedSelect es → Reported (lastSelect es) (.read .stdin r) :=
      fun hno => ⟨s.ifds, s.ofds, hinv.sets hno (by rw [hpc]; rfl), hset⟩
    unfold State.readStdin
    split
    · exact hinv.next rfl hrep (fun _ => ⟨by rw [hpc]; rfl, rfl, rfl⟩) nofun
    · exact hinv.stop rfl _ hrep
  | @read_child r hpc hset =>
    have hrep : NoFailedSelect es → Reported (lastSelect es) (.read .child_stdout r) :=
      fun hno => ⟨s.ifds, s.ofds, hinv.sets hno (by rw [hpc]; rfl), hset⟩
    unfold State.readChild
    split
    · exact hinv.next rfl hrep (fun _ => ⟨by rw [hpc]; rfl, rfl, rfl⟩) nofun
    · exact hinv.stop rfl _ hrep
  | @write_stdout bs hpc hset =>
    have hrep : NoFailedSelect es → Reported (lastSelect es) (.write .stdout bs) :=
      fun hno => ⟨s.ifds, s.ofds, hinv.sets hno (by rw [hpc]; rfl), hset⟩
    unfold State.writeStdout
    split
    · exact hinv.next rfl hrep (fun _ => ⟨by rw [hpc]; rfl, rfl, rfl⟩) nofun
    · exact hinv.stop rfl _ hrep
  | @write_child bs hpc =>
    have hrep : NoFailedSelect es → Reported (lastSelect es) (.write .child_stdin bs) :=
      fun hno => ⟨s.ifds, s.ofds, hinv.sets hno (by rw [hpc]; rfl), hinv.child hpc⟩
    unfold State.writeChild
    split
    · exact hinv.next rfl hrep nofun nofun
    · exact hinv.stop rfl _ hrep
  | sigchld => exact hinv.next rfl (fun _ => trivial) (fun h => ⟨h, rfl, rfl⟩) hinv.child
  | sigpipe => exact hinv.stop rfl _ fun _ => trivial
  | child_write => exact hinv.next rfl (fun _ => trivial) (fun h => ⟨h, rfl, rfl⟩) hinv.child
  | child_close => exact hinv.next rfl (fun _ => trivial) (fun h => ⟨h, rfl, rfl⟩) hinv.child
  | child_exit => exact hinv.next rfl (fun _ => trivial) (fun h => ⟨h, rfl, rfl⟩) hinv.child

/-! ### After a failed `select` some call follows -/

/-- Something is polled in every round: the child's stdout, or fd 1 because output is queued. -/
def PolledInv (s : State) : Prop :=
  match s.pc with
  | .out_stdout => .child_stdout ∈ s.ifds ∨ buf_waiting s.buf1 = true
  | .out_child | .select => .child_stdout ∈ s.ifds ∨ (.stdout ∈ s.ofds ∧ buf_waiting s.buf1 = true)
  | _ => True

/-- The loop is on its way to a call, or has been stopped before it got there. -/
def Pending (s : State) : Prop :=
  match s.pc with
  | .read_stdin | .read_child =>
    .child_stdout ∈ s.ifds ∨ (.stdout ∈ s.ofds ∧ buf_waiting s.buf1 = true)
  | .write_stdout => .stdout ∈ s.ofds ∧ buf_waiting s.buf1 = true
  | .stopped _ => True
  | _ => False

theorem buf_length_idle {h : Heap} {b : Buf} (hb : buf_waiting b = false) :
    buf_length h b = .ok 0 := by
  have hhead : b.head = none := by simpa [buf_waiting] using hb
  rw [buf_length, hhead]
  unfold buf_length.loop
  cases h.brk <;> rfl

theorem PolledInv.step (hinv : PolledInv s) (h : Moves s e t) : PolledInv t := by
  cases h with
  | @fill n0 n1 hpc h0 h1 =>
    show Fd.child_stdout ∈ polled n0 n1 ∨ buf_waiting s.buf1 = true
    cases hwait : buf_waiting s.buf1 with
    | true => exact .inr rfl
    | false =>
      rw [buf_length_idle hwait] at h1
      obtain rfl := Except.ok.inj h1
      exact .inl (child_stdout_mem_polled.mpr (by decide))
  | await_stdout hpc h =>
    simp only [PolledInv, hpc] at hinv ⊢
    exact .inr ⟨Finset.mem_insert_self _ _, h⟩
  | idle_stdout hpc h hdead =>
    simp only [PolledInv, hpc] at hinv ⊢
    rw [h] at hinv
    exact .inl (hinv.resolve_right nofun)
  | await_child hpc h hdead =>
    simp only [PolledInv, hpc] at hinv ⊢
    exact hinv.imp_right fun ho => ⟨Finset.mem_insert_of_mem ho.1, ho.2⟩
  | skip h =>
    cases h with
    | out_child hpc => simpa only [PolledInv, hpc] using hinv
    | _ => trivial
  | read_stdin =>
    unfold State.readStdin
    split <;> trivial
  | read_child =>
    unfold State.readChild
    split <;> trivial
  | write_stdout =>
    unfold State.writeStdout
    split <;> trivial
  | write_child =>
    unfold State.writeChild
    split <;> trivial
  | sigchld => exact hinv
  | child_write => exact hinv
  | child_close => exact hinv
  | child_exit => exact hinv
  | _ => trivial

/-- After a failed `select` an unreported call has been made or is still to come. -/
def BlockInv (es : List Event) (s : State) : Prop :=
  NoFailedSelect es ∨ ¬ OnlyReported es ∨ lastSelect es = some none ∧ Pending s

/-- A call is never one that a failed `select` reported. -/
theorem not_reported (hlast : lastSelect es = some none)
    (hcall : (∃ fd r, e = .read fd r) ∨ ∃ fd bs, e = .write fd bs) :
    ¬ OnlyReported (es ++ [e]) := by
  intro h
  have hrep := (onlyReported_snoc.mp h).2
  rw [hlast] at hrep
  rcases hcall with ⟨fd, r, rfl⟩ | ⟨fd, bs, rfl⟩
  · obtain ⟨i, o, heq, _⟩ := hrep
    exact absurd heq nofun
  · obtain ⟨i, o, heq, _⟩ := hrep
    exact absurd heq nofun

/-- A step that is neither a call nor `select`. -/
theorem BlockInv.silent (hinv : BlockInv es s) (he : e.silent = true)
    (hpending : Pending s → Pending t) : BlockInv (es ++ [e]) t := by
  rcases hinv with hno | hbad | ⟨hlast, hp⟩
  · exact .inl ((noFailedSelect_snoc he).mpr hno)
  · exact .inr (.inl fun h => hbad (onlyReported_snoc.mp h).1)
  · exact .inr (.inr ⟨(lastSelect_snoc he).trans hlast, hpending hp⟩)

/-- A call of `read` or `write`. -/
theorem BlockInv.call (hinv : BlockInv es s) (he : e.silent = true)
    (hcall : (∃ fd r, e = .read fd r) ∨ ∃ fd bs, e = .write fd bs) : BlockInv (es ++ [e]) t := by
  rcases hinv with hno | hbad | ⟨hlast, _⟩
  · exact .inl ((noFailedSelect_snoc he).mpr hno)
  · exact .inr (.inl fun h => hbad (onlyReported_snoc.mp h).1)
  · exact .inr (.inl (not_reported hlast hcall))

theorem Skips.pending {pc : Pc} (h : Skips s pc) (hp : Pending s) : Pending { s with pc := pc } := by
  cases h with
  | out_child hpc => simp [Pending, hpc] at hp
  | read_stdin hpc => simpa only [Pending, hpc] using hp
  | read_child hpc hset =>
    simp only [Pending, hpc] at hp ⊢
    exact hp.resolve_left hset
  | write_stdout hpc hset =>
    simp only [Pending, hpc] at hp
    exact absurd hp hset
  | test_child hpc => simp [Pending, hpc] at hp
  | test_top hpc => simp [Pending, hpc] at hp
  | write_child hpc => simp [Pending, hpc] at hp

theorem BlockInv.step (hinv : BlockInv es s) (hpolled : PolledInv s) (h : Moves s e t) :
    BlockInv (es ++ [e]) t := by
  cases h with
  | fill hpc => exact hinv.silent rfl fun hp => by simp [Pending, hpc] at hp
  | broken => exact hinv.silent rfl fun _ => trivial
  | await_stdout hpc => exact hinv.silent rfl fun hp => by simp [Pending, hpc] at hp
  | die => exact hinv.silent rfl fun _ => trivial
  | idle_stdout hpc => exact hinv.silent rfl fun hp => by simp [Pending, hpc] at hp
  | await_child hpc => exact hinv.silent rfl fun hp => by simp [Pending, hpc] at hp
  | skip h => exact hinv.silent rfl h.pending
  | select_failed hpc =>
    refine .inr (.inr ⟨lastSelect_snoc_select _ _ _, ?_⟩)
    simpa only [PolledInv, Pending, hpc] using hpolled
  | selected hpc hi ho =>
    rcases hinv with hno | hbad | ⟨_, hp⟩
    · left
      intro i o hmem
      rcases List.mem_append.mp hmem with hmem | hmem
      · exact hno i o hmem
      · simp at hmem
    · exact .inr (.inl fun h => hbad (onlyReported_snoc.mp h).1)
    · simp [Pending, hpc] at hp
  | read_stdin => exact hinv.call rfl (.inl ⟨_, _, rfl⟩)
  | read_child => exact hinv.call rfl (.inl ⟨_, _, rfl⟩)
  | write_stdout => exact hinv.call rfl (.inr ⟨_, _, rfl⟩)
  | write_child => exact hinv.call rfl (.inr ⟨_, _, rfl⟩)
  | sigchld => exact hinv.silent rfl id
  | sigpipe => exact hinv.silent rfl fun _ => trivial
  | child_write => exact hinv.silent rfl id
  | child_close => exact hinv.silent rfl id
  | child_exit => exact hinv.silent rfl id

/-- **Run lemma.** -/
theorem pollingInv_of_run (h : Run (ofFun step) start es s) :
    ReadyInv es s ∧ PolledInv s ∧ BlockInv es s := by
  have hstep : ∀ ⦃es s e t⦄, ReadyInv es s ∧ PolledInv s ∧ BlockInv es s → ofFun step s e t →
      ReadyInv (es ++ [e]) t ∧ PolledInv t ∧ BlockInv (es ++ [e]) t := by
    intro es s e t ⟨hready, hpolled, hblock⟩ hst
    have hmove := step_moves hst
    exact ⟨hready.step hmove, hpolled.step hmove, hblock.step hpolled hmove⟩
  have hinit : ReadyInv [] start ∧ PolledInv start ∧ BlockInv [] start :=
    ⟨⟨nofun, fun _ => by simp [OnlyReported], nofun⟩, trivial, .inl fun _ _ => by simp⟩
  have hend := h.trace_invariant hstep hinit
  exact hend

/-- **Calls and reports**: if no `select` returns -1, every call of `read` and `write` was reported
ready; and after any number of complete rounds it is so only if no `select` returned -1. -/
theorem calls_reported_iff (h : Run (ofFun step) start es s) :
    (NoFailedSelect es → OnlyReported es) ∧
      (s.pc = .top → (OnlyReported es ↔ NoFailedSelect es)) := by
  obtain ⟨hready, _, hblock⟩ := pollingInv_of_run h
  refine ⟨hready.reported, fun hpc => ⟨fun honly => ?_, hready.reported⟩⟩
  rcases hblock with hno | hbad | ⟨_, hp⟩
  · exact hno
  · exact absurd honly hbad
  · simp [Pending, hpc] at hp

theorem calls_reported_rounds : ∃ s, Run (ofFun step) start twoRounds s ∧
    NoFailedSelect twoRounds ∧ OnlyReported twoRounds := by
  have hexec : (exec step start twoRounds).any (fun _ => true) = true := by
    decide +kernel
  obtain ⟨s, hs, _⟩ := (Option.any_eq_true _ _).mp hexec
  have hno : NoFailedSelect twoRounds := by
    intro i o
    simp [twoRounds]
  exact ⟨s, run_of_exec hs, hno, (calls_reported_iff (run_of_exec hs)).1 hno⟩

/-- `SIGCHLD` interrupts the first `select`. -/
def interrupted : List Event :=
  [.tau, .tau, .tau, .sigchld, .select {.child_stdout, .stdin} ∅ none, .read .stdin .eof]

/-- **Unreported call**: after the interrupted `select` the loop calls `read` on fd 0. -/
theorem call_not_reported :
    ∃ s, Run (ofFun step) start interrupted s ∧ ¬ OnlyReported interrupted := by
  have hexec : (exec step start interrupted).any (fun _ => true) = true := by
    decide +kernel
  obtain ⟨s, hs, _⟩ := (Option.any_eq_true _ _).mp hexec
  refine ⟨s, run_of_exec hs, fun honly => ?_⟩
  obtain ⟨i, o, heq, _⟩ := honly [.tau, .tau, .tau, .sigchld,
    .select {.child_stdout, .stdin} ∅ none] (.read .stdin .eof) [] rfl
  exact absurd heq nofun

/-! ### The end of fd 0 -/

/-- No descriptor is closed in the loop. -/
theorem Moves.fds (h : Moves s e t) : t.fds = s.fds := by
  cases h with
  | read_stdin =>
    unfold State.readStdin
    split <;> rfl
  | read_child =>
    unfold State.readChild
    split <;> rfl
  | write_stdout =>
    unfold State.writeStdout
    split <;> rfl
  | write_child =>
    unfold State.writeChild
    split <;> rfl
  | _ => rfl

/-- Up to `select`, fd 0 is in `ifds` if there is room for what it delivers. -/
def StdinPolled (s : State) : Prop :=
  match s.pc with
  | .out_stdout | .out_child | .select =>
    ∀ n, buf_length s.heap s.buf0 = .ok n → n < MAX_BUFSZ → .stdin ∈ s.ifds
  | _ => True

theorem StdinPolled.step (hinv : StdinPolled s) (h : Moves s e t) : StdinPolled t := by
  cases h with
  | @fill n0 n1 hpc h0 h1 =>
    intro n hn hlt
    rw [h0] at hn
    obtain rfl := Except.ok.inj hn
    exact stdin_mem_polled.mpr hlt
  | await_stdout hpc => simpa only [StdinPolled, hpc] using hinv
  | idle_stdout hpc => simpa only [StdinPolled, hpc] using hinv
  | await_child hpc => simpa only [StdinPolled, hpc] using hinv
  | skip h =>
    cases h with
    | out_child hpc => simpa only [StdinPolled, hpc] using hinv
    | _ => trivial
  | read_stdin =>
    unfold State.readStdin
    split <;> trivial
  | read_child =>
    unfold State.readChild
    split <;> trivial
  | write_stdout =>
    unfold State.writeStdout
    split <;> trivial
  | write_child =>
    unfold State.writeChild
    split <;> trivial
  | sigchld => exact hinv
  | child_write => exact hinv
  | child_close => exact hinv
  | child_exit => exact hinv
  | _ => trivial

theorem stdinPolled_of_run (h : Run (ofFun step) start es s) :
    s.fds = start.fds ∧ StdinPolled s := by
  have hstep : ∀ ⦃s e t⦄, s.fds = start.fds ∧ StdinPolled s → ofFun step s e t →
      t.fds = start.fds ∧ StdinPolled t :=
    fun _ _ _ hinv hst =>
      ⟨(step_moves hst).fds.trans hinv.1, hinv.2.step (step_moves hst)⟩
  have hend := h.invariant hstep ⟨rfl, trivial⟩
  exact hend

/-- A `read` of fd 0 has returned EOF, and all its bytes have been written to the child. -/
def InputEnded (es : List Event) : Prop :=
  .read .stdin .eof ∈ es ∧ bytesWritten .child_stdin es = bytesRead .stdin es

/-- **End of input is not passed on**: whenever `select` is called after the end of the input, the
child's stdin is still open and fd 0 is polled again. -/
theorem eof_never_propagated (h : Run (ofFun step) start es s) (hpc : s.pc = .select)
    (hended : InputEnded es) : .child_stdin ∈ s.fds ∧ .stdin ∈ s.ifds := by
  obtain ⟨hfds, hpolled⟩ := stdinPolled_of_run h
  refine ⟨by rw [hfds]; decide, ?_⟩
  obtain ⟨hfault, _⟩ | ⟨l0, l1, hr⟩ := relayInv_of_run h
  · rw [hpc] at hfault
    exact absurd hfault nofun
  have hflow := hr.inward.conserved
  rw [hended.2, List.append_right_eq_self] at hflow
  have hlen := buf_length_spec hr.inward.queue
  rw [hflow] at hlen
  simp only [StdinPolled, hpc] at hpolled
  exact hpolled 0 hlen (by decide)

/-- Two bytes of fd 0 are relayed, then fd 0 ends. -/
def endOfInput : List Event :=
  [.tau, .tau, .tau, .select {.child_stdout, .stdin} ∅ (some ({.stdin}, ∅)),
    .read .stdin (.data 2 (Vector.replicate BLKSZ 1) (some 0)), .tau, .tau, .tau,
    .tau, .tau, .tau,
    .select {.child_stdout, .stdin} {.child_stdin} (some ({.stdin}, {.child_stdin})),
    .read .stdin .eof, .tau, .tau, .tau, .write .child_stdin [1, 1], .tau, .tau, .tau]

theorem eof_never_propagated_relay : ∃ s, Run (ofFun step) start endOfInput s ∧ s.pc = .select ∧
    InputEnded endOfInput ∧ .child_stdin ∈ s.fds ∧ .stdin ∈ s.ifds := by
  have hexec : (exec step start endOfInput).any (fun s => decide (s.pc = .select)) = true := by
    decide +kernel
  obtain ⟨s, hs, hpc⟩ := (Option.any_eq_true _ _).mp hexec
  have hended : InputEnded endOfInput := ⟨by simp [endOfInput], by decide +kernel⟩
  exact ⟨s, run_of_exec hs, of_decide_eq_true hpc, hended,
    eof_never_propagated (run_of_exec hs) (of_decide_eq_true hpc) hended⟩

/-- Fd 0 is at its end from the start. -/
def emptyInput : List Event :=
  [.tau, .tau, .tau, .select {.child_stdout, .stdin} ∅ (some ({.stdin}, ∅)),
    .read .stdin .eof, .tau, .tau, .tau, .tau, .tau, .tau]

/-- **Spinning on EOF**: nothing was ever read, and the next `select` polls fd 0 again. -/
theorem eof_polled_again : ∃ s, Run (ofFun step) start emptyInput s ∧ s.pc = .select ∧
    InputEnded emptyInput ∧ ¬ (.child_stdin ∉ s.fds ∧ .stdin ∉ s.ifds) := by
  have hexec : (exec step start emptyInput).any (fun s =>
      decide (s.pc = .select) && decide (.stdin ∈ s.ifds)) = true := by
    decide +kernel
  obtain ⟨s, hs, htest⟩ := (Option.any_eq_true _ _).mp hexec
  obtain ⟨hpc, hset⟩ := Bool.and_eq_true_iff.mp htest
  refine ⟨s, run_of_exec hs, of_decide_eq_true hpc, ⟨by simp [emptyInput], rfl⟩, ?_⟩
  exact fun h => h.2 (of_decide_eq_true hset)

end SimpleSshd.BufferSu
