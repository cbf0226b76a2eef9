import SimpleSshd.BufferSu.Proofs.RelayProofs

/-!
# Proofs: what the child's last output needs to get through

The loop ends when `child_dead` is set and nothing is queued for fd 1. `child_dead` is set by the end
of the child's output, and then everything has been read, but also by `SIGCHLD`, and then the pipe
may still hold bytes that nobody will read.
-/

namespace SimpleSshd.BufferSu

open Runs

variable {s t : State} {e : Event} {es : List Event}

/-! ### Where `die()` at the head of the loop is called from -/

theorem buf_read_error {h : Heap} {b : Buf} {r : ReadResult} {l : List (Addr × Span)}
    (hl : Holds h b l) (hr : State.admits h r) {x : Exit} (hx : buf_read h b r = .error x) :
    x = .read_error ∨ x = .fault := by
  cases r with
  | error => exact .inl (Except.error.inj hx).symm
  | eof => exact absurd hx nofun
  | data n y p =>
    cases p with
    | none => exact .inr (Except.error.inj hx).symm
    | some a =>
      obtain ⟨h', b', hok, _, _⟩ := buf_read_spec (t := y) hl hr.1 hr.2.1 hr.2.2
      rw [hok] at hx
      exact absurd hx nofun

theorem stop_ne_child_dead {why : Exit} (h : why = .read_error ∨ why = .fault) :
    (s.stop why).pc ≠ .stopped .child_dead := by
  rcases h with rfl | rfl <;> simp [State.stop]

/-- The loop ends with `child_dead` only at its head, with nothing queued for fd 1. -/
theorem Moves.dies {l0 l1 : List (Addr × Span)} (h : Moves s e t) (hr : Relaying es s l0 l1)
    (ht : t.pc = .stopped .child_dead) :
    buf_waiting s.buf1 = false ∧ s.child_dead = true ∧ t = s.stop .child_dead ∧ e = .tau := by
  have hrun := h.running
  cases h with
  | die hpc h hdead => exact ⟨h, hdead, rfl, rfl⟩
  | broken hpc h =>
    rw [buf_length_spec hr.inward.queue, buf_length_spec hr.outward.queue] at h
    rcases h with h | h <;> cases h
  | skip h => cases h <;> cases ht
  | read_stdin hpc hset hadm =>
    unfold State.readStdin at ht
    cases hres : buf_read s.heap s.buf0 _ with
    | ok _ => rw [hres] at ht; cases ht
    | error x =>
      rw [hres] at ht
      exact absurd ht (stop_ne_child_dead (buf_read_error hr.inward.queue hadm hres))
  | read_child hpc hset hadm hpipe =>
    unfold State.readChild at ht
    cases hres : buf_read s.heap s.buf1 _ with
    | ok _ => rw [hres] at ht; cases ht
    | error x =>
      rw [hres] at ht
      exact absurd ht (stop_ne_child_dead (buf_read_error hr.outward.queue hadm hres))
  | write_stdout hpc hset hwait hbs =>
    obtain ⟨h', b', l', hok, _⟩ := hr.outward.write hwait hbs
    rw [State.writeStdout, hok] at ht
    cases ht
  | write_child hpc hwait hbs =>
    obtain ⟨h', b', l', hok, _⟩ := hr.inward.write hwait hbs
    rw [State.writeChild, hok] at ht
    cases ht
  | sigchld => simp [State.running, show s.pc = _ from ht] at hrun
  | child_write => simp [State.running, show s.pc = _ from ht] at hrun
  | child_close => simp [State.running, show s.pc = _ from ht] at hrun
  | child_exit => simp [State.running, show s.pc = _ from ht] at hrun
  | _ => cases ht

/-! ### The pipe -/

theorem childOutput_snoc : childOutput (es ++ [e]) = childOutput es ++ childOutput [e] :=
  List.flatMap_append

/-- What was read of the child's output and what the pipe holds is what the child wrote. -/
def PipeInv (es : List Event) (s : State) : Prop :=
  s.pc = .stopped .fault ∨ bytesRead .child_stdout es ++ s.pipe = childOutput es

theorem PipeInv.idle (hinv : bytesRead .child_stdout es ++ s.pipe = childOutput es)
    (hread : bytesRead .child_stdout [e] = []) (hout : childOutput [e] = [])
    (hpipe : t.pipe = s.pipe) : PipeInv (es ++ [e]) t := by
  right
  rw [bytesRead_snoc, childOutput_snoc, hread, hout, hpipe, List.append_nil, List.append_nil, hinv]

theorem readStdin_pipe (r : ReadResult) : (s.readStdin r).pipe = s.pipe := by
  unfold State.readStdin
  split <;> rfl

theorem writeStdout_pipe (n : Nat) : (s.writeStdout n).pipe = s.pipe := by
  unfold State.writeStdout
  split <;> rfl

theorem writeChild_pipe (n : Nat) : (s.writeChild n).pipe = s.pipe := by
  unfold State.writeChild
  split <;> rfl

theorem PipeInv.readChild {l : List (Addr × Span)} {r : ReadResult}
    (hinv : bytesRead .child_stdout es ++ s.pipe = childOutput es) (hq : Holds s.heap s.buf1 l)
    (hadm : State.admits s.heap r) (hpipe : s.pipeAdmits r) :
    PipeInv (es ++ [.read .child_stdout r]) (s.readChild r) := by
  cases r with
  | error => exact .idle hinv rfl rfl rfl
  | eof => exact .idle hinv rfl rfl rfl
  | data n x p =>
    cases p with
    | none => exact .inl rfl
    | some a =>
      obtain ⟨h', b', hok, _, _⟩ := buf_read_spec (t := x) hq hadm.1 hadm.2.1 hadm.2.2
      obtain ⟨rest, hrest⟩ := hpipe
      right
      rw [State.readChild, hok, bytesRead_snoc, bytesRead_read, childOutput_snoc, List.append_assoc]
      have hsplit : x.toList.take n ++ s.pipe.drop (x.toList.take n).length = s.pipe := by
        rw [← hrest, List.drop_left]
      show bytesRead .child_stdout es ++ (x.toList.take n ++ s.pipe.drop (x.toList.take n).length) = _
      rw [hsplit, hinv]
      exact (List.append_nil _).symm

/-- **Step lemma.** -/
theorem PipeInv.step (hinv : PipeInv es s) (hrelay : RelayInv es s) (h : Moves s e t) :
    PipeInv (es ++ [e]) t := by
  rcases hinv with hpc | hinv
  · exact absurd hpc (h.not_stopped _)
  obtain ⟨hpc, _⟩ | ⟨l0, l1, hr⟩ := hrelay
  · exact absurd hpc (h.not_stopped _)
  cases h with
  | read_stdin => exact .idle hinv rfl rfl (readStdin_pipe _)
  | read_child hpc hset hadm hpipe => exact .readChild hinv hr.outward.queue hadm hpipe
  | write_stdout => exact .idle hinv rfl rfl (writeStdout_pipe _)
  | write_child => exact .idle hinv rfl rfl (writeChild_pipe _)
  | child_write =>
    right
    rw [bytesRead_snoc, childOutput_snoc, ← hinv]
    simp [bytesRead, childOutput]
  | _ => exact .idle hinv rfl rfl rfl

/-- **Run lemma.** -/
theorem pipeInv_of_run (h : Run (ofFun step) start es s) : RelayInv es s ∧ PipeInv es s := by
  have hstep : ∀ ⦃es s e t⦄, RelayInv es s ∧ PipeInv es s → ofFun step s e t →
      RelayInv (es ++ [e]) t ∧ PipeInv (es ++ [e]) t :=
    fun _ _ _ _ hinv hst =>
      ⟨hinv.1.step (step_moves hst), hinv.2.step hinv.1 (step_moves hst)⟩
  have hend := h.trace_invariant hstep ⟨RelayInv.init, .inr rfl⟩
  exact hend

/-- Nothing happens once the loop has ended. -/
theorem run_stopped {why : Exit} (h : Run (ofFun step) s es t) (hpc : s.pc = .stopped why) :
    es = [] ∧ t = s := by
  cases h with
  | nil => exact ⟨rfl, rfl⟩
  | cons hst _ => exact absurd hpc ((step_moves hst).not_stopped _)

/-- The step in which the loop ends at its head. -/
theorem exit_step (h : Run (ofFun step) start es s) (hpc : s.pc = .stopped .child_dead) :
    ∃ before u l0 l1, es = before ++ [.tau] ∧ Run (ofFun step) start before u ∧
      Relaying before u l0 l1 ∧ buf_waiting u.buf1 = false ∧ u.child_dead = true ∧
      u.running = true ∧ s = u.stop .child_dead := by
  obtain ⟨before, e, after, u, v, rfl, hbefore, hnot, hst, hv, hafter⟩ :=
    h.exists_step (fun s => s.pc = .stopped .child_dead) nofun hpc
  obtain ⟨rfl, rfl⟩ := run_stopped hafter hv
  have hmove := step_moves hst
  obtain ⟨hfault, _⟩ | ⟨l0, l1, hr⟩ := relayInv_of_run hbefore
  · exact absurd hfault (hmove.not_stopped _)
  obtain ⟨hwait, hdead, rfl, rfl⟩ := hmove.dies hr hv
  exact ⟨before, u, l0, l1, rfl, hbefore, hr, hwait, hdead, hmove.running, rfl⟩

/-- When the loop has ended at its head, exactly what is left in the pipe was not relayed. -/
theorem output_at_exit (h : Run (ofFun step) start es s) (hpc : s.pc = .stopped .child_dead) :
    bytesWritten .stdout es ++ s.pipe = childOutput es := by
  obtain ⟨before, u, l0, l1, rfl, hbefore, hr, hwait, _, hrun, rfl⟩ := exit_step h hpc
  obtain hfault | hpipe := (pipeInv_of_run hbefore).2
  · simp [State.running, hfault] at hrun
  have hempty : l1 = [] := by
    by_contra hne
    rw [(buf_waiting_iff hr.outward.queue).mpr hne] at hwait
    cases hwait
  have hflow := hr.outward.conserved
  rw [hempty, contents_nil, List.append_nil] at hflow
  rw [bytesWritten_snoc, childOutput_snoc, hflow, ← hpipe]
  simp [bytesWritten, childOutput, State.stop]

/-! ### When nothing is lost -/

/-- `SIGCHLD` comes only after the child's output has ended and all of it has been read. -/
def SigchldDrained (s : State) : Event → Prop
  | .sigchld => s.child_writes = false ∧ s.pipe = []
  | _ => True

instance (s : State) (e : Event) : Decidable (SigchldDrained s e) :=
  match e with
  | .sigchld => inferInstanceAs (Decidable (s.child_writes = false ∧ s.pipe = []))
  | .tau | .select _ _ _ | .read _ _ | .write _ _ | .sigpipe => isTrue trivial
  | .child_write _ | .child_close | .child_exit => isTrue trivial

/-- Once `child_dead` is set there is nothing left to read. -/
def DeadInv (s : State) : Prop := s.child_dead = true → s.child_writes = false ∧ s.pipe = []

theorem DeadInv.readChild (hinv : DeadInv s) {l : List (Addr × Span)} {r : ReadResult}
    (hq : Holds s.heap s.buf1 l) (hadm : State.admits s.heap r) (hpipe : s.pipeAdmits r) :
    DeadInv (s.readChild r) := by
  cases r with
  | error => exact hinv
  | eof =>
    intro _
    obtain ⟨hempty, hclosed⟩ := hpipe
    exact ⟨hclosed, by show s.pipe.drop 0 = []; rw [hempty, List.drop_nil]⟩
  | data n x p =>
    cases p with
    | none => exact hinv
    | some a =>
      obtain ⟨h', b', hok, _, _⟩ := buf_read_spec (t := x) hq hadm.1 hadm.2.1 hadm.2.2
      rw [State.readChild, hok]
      intro hdead
      have hn : (n == 0) = false := by simpa using Nat.ne_of_gt hadm.1
      obtain ⟨hclosed, hempty⟩ := hinv (by simpa [hn] using hdead)
      exact ⟨hclosed, by show s.pipe.drop _ = []; rw [hempty, List.drop_nil]⟩

theorem DeadInv.step (hinv : DeadInv s) (hrelay : RelayInv es s) (h : Moves s e t)
    (hok : SigchldDrained s e) : DeadInv t := by
  obtain ⟨hpc, _⟩ | ⟨l0, l1, hr⟩ := hrelay
  · exact absurd hpc (h.not_stopped _)
  cases h with
  | read_stdin =>
    unfold State.readStdin
    split <;> exact hinv
  | read_child hpc hset hadm hpipe => exact hinv.readChild hr.outward.queue hadm hpipe
  | write_stdout =>
    unfold State.writeStdout
    split <;> exact hinv
  | write_child =>
    unfold State.writeChild
    split <;> exact hinv
  | sigchld => exact fun _ => hok
  | child_write hrun hopen =>
    intro hdead
    rw [(hinv hdead).1] at hopen
    exact absurd hopen nofun
  | child_close => exact fun hdead => ⟨rfl, (hinv hdead).2⟩
  | child_exit => exact fun hdead => ⟨rfl, (hinv hdead).2⟩
  | _ => exact hinv

theorem deadInv_of_run (h : Run (guarded (ofFun step) SigchldDrained) start es s) :
    RelayInv es s ∧ DeadInv s := by
  have hstep : ∀ ⦃es s e t⦄, RelayInv es s ∧ DeadInv s →
      guarded (ofFun step) SigchldDrained s e t → RelayInv (es ++ [e]) t ∧ DeadInv t :=
    fun _ _ _ _ hinv hst =>
      ⟨hinv.1.step (step_moves hst.2), hinv.2.step hinv.1 (step_moves hst.2) hst.1⟩
  have hend := h.trace_invariant hstep ⟨RelayInv.init, nofun⟩
  exact hend

/-- **Output at exit**: when the loop has ended because of `child_dead`, all the child's output was
written to fd 1 if and only if its pipe is empty. It is if `SIGCHLD` was only ever delivered after
everything had been read. -/
theorem no_output_lost_iff (h : Run (ofFun step) start es s) (hpc : s.pc = .stopped .child_dead) :
    (bytesWritten .stdout es = childOutput es ↔ s.pipe = []) ∧
      (Run (guarded (ofFun step) SigchldDrained) start es s →
        bytesWritten .stdout es = childOutput es) := by
  have hout := output_at_exit h hpc
  have hiff : bytesWritten .stdout es = childOutput es ↔ s.pipe = [] := by
    rw [← hout]
    exact List.self_eq_append_right
  refine ⟨hiff, fun hguarded => hiff.mpr ?_⟩
  obtain ⟨_, hdead⟩ := deadInv_of_run hguarded
  obtain ⟨before, u, l0, l1, rfl, _, _, _, hchild, _, rfl⟩ := exit_step h hpc
  exact (hdead hchild).2

/-- The child writes 3 bytes, the loop reads and writes them, and the child exits. -/
def drainedExit : List Event :=
  [.child_write [2, 2, 2], .child_exit, .tau, .tau, .tau,
    .select {.child_stdout, .stdin} ∅ (some ({.child_stdout}, ∅)), .tau,
    .read .child_stdout (.data 3 (Vector.replicate BLKSZ 2) (some 0)), .sigchld, .tau, .tau,
    .tau, .tau, .tau,
    .select {.child_stdout, .stdin} {.stdout} (some (∅, {.stdout})), .tau, .tau,
    .write .stdout [2, 2, 2], .tau, .tau, .tau]

theorem no_output_lost_drained : ∃ s, Run (ofFun step) start drainedExit s ∧
    s.pc = .stopped .child_dead ∧ Run (guarded (ofFun step) SigchldDrained) start drainedExit s ∧
    bytesWritten .stdout drainedExit = childOutput drainedExit := by
  have hexec : (exec (fun s e => if SigchldDrained s e then step s e else none) start
      drainedExit).any (fun s => decide (s.pc = .stopped .child_dead)) = true := by
    decide +kernel
  obtain ⟨s, hs, htest⟩ := (Option.any_eq_true _ _).mp hexec
  have hguarded := run_guarded_of_exec hs
  have hpc := of_decide_eq_true htest
  exact ⟨s, hguarded.unguard, hpc, hguarded, (no_output_lost_iff hguarded.unguard hpc).2 hguarded⟩

/-- The child writes a byte and exits before the loop has looked at its output once. -/
def earlyExit : List Event := [.child_write [2], .child_exit, .sigchld, .tau, .tau]

/-- **Lost output**: `SIGCHLD` arrives while the pipe holds a byte, and the loop ends without
reading it. -/
theorem output_lost : ∃ s, Run (ofFun step) start earlyExit s ∧ s.child_exited = true ∧
    s.pc = .stopped .child_dead ∧ bytesWritten .stdout earlyExit ≠ childOutput earlyExit := by
  have hexec : (exec step start earlyExit).any (fun s =>
      s.child_exited && decide (s.pc = .stopped .child_dead)) = true := by
    decide +kernel
  obtain ⟨s, hs, htest⟩ := (Option.any_eq_true _ _).mp hexec
  obtain ⟨hexited, hpc⟩ := Bool.and_eq_true_iff.mp htest
  exact ⟨s, run_of_exec hs, hexited, of_decide_eq_true hpc, by decide⟩

end SimpleSshd.BufferSu
