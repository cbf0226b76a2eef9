import SimpleSshd.Dropbear.Proofs.CloseProofs

/-!
# Proofs: closing one direction of a session

On pipes the three descriptors of a session differ, so closing `writefd` leaves `readfd` open: what a
command writes is read to its end, whatever the client does with its own direction. On a terminal
`readfd` and `writefd` are the same descriptor, and closing one closes both.
-/

namespace SimpleSshd.Dropbear

variable {opts : Opts} {c₀ c c' : Channel} {es : List ChannelEvent} {e : ChannelEvent}

/-- A descriptor that is read from is none of the others. -/
structure Apart (c : Channel) (isextended : Bool) : Prop where
  write : c.sourceFd isextended ≠ c.writefd
  other : c.sourceFd isextended ≠ c.sourceFd !isextended

theorem SameOrClosed.ne_of_ne {fd other fd' : Int} (h : SameOrClosed fd fd') (hne : other ≠ fd)
    (hpos : 0 ≤ other) : other ≠ fd' := by
  rcases h with rfl | rfl
  · exact hne
  · intro heq
    rw [heq] at hpos
    exact absurd hpos (Int.not_le.mpr FD_CLOSED_neg)

/-- **Pipes are apart**, as long as they are open. -/
theorem Known.apart (hk : Known c) (htype : c.type = .svrchansess)
    (hpipes : ∀ p ∈ c.trace.started.getLast?, p.pty = false) {isextended : Bool}
    (hopen : 0 ≤ c.sourceFd isextended) : Apart c isextended := by
  have hcheck : c.type.check_close = true := by
    rw [htype]
    rfl
  have hsome : c.trace.started ≠ [] := by
    intro hnone
    have hsetups := hk.processes.setups hcheck
    rw [hnone] at hsetups
    obtain ⟨-, hread, herr⟩ := hk.wiring.unset hsetups
    cases isextended with
    | false => exact absurd hopen (Int.not_le.mpr hread)
    | true => exact absurd hopen (Int.not_le.mpr herr)
  have hlast := List.getLast?_eq_some_getLast hsome
  have hmem := List.getLast_mem hsome
  obtain ⟨hwrite, hread, herr⟩ := hk.processes.owns _ hlast
  have hdistinct := hk.processes.pipes _ hmem (hpipes _ hlast)
  cases isextended with
  | false =>
    have heq : c.sourceFd false = _ := hread.eq_of_nonneg hopen
    refine ⟨hwrite.ne_of_ne ?_ hopen, herr.ne_of_ne ?_ hopen⟩
    · rw [heq]
      exact hdistinct.read_ne_write
    · rw [heq]
      exact hdistinct.read_ne_err
  | true =>
    have heq : c.sourceFd true = _ := herr.eq_of_nonneg hopen
    refine ⟨hwrite.ne_of_ne ?_ hopen, hread.ne_of_ne ?_ hopen⟩
    · rw [heq]
      exact hdistinct.err_ne_write
    · rw [heq]
      exact hdistinct.read_ne_err.symm

theorem close_chan_fd_sourceFd (c : Channel) (fd : Int) (how : How) (isextended : Bool) :
    (close_chan_fd c fd how).sourceFd isextended = c.sourceFd isextended ∨
      (close_chan_fd c fd how).sourceFd isextended = FD_CLOSED ∧ fd = c.sourceFd isextended := by
  cases isextended with
  | false => exact (close_chan_fd_readfd c fd how).imp_right fun h => ⟨h.1, h.2.1⟩
  | true => exact (close_chan_fd_errfd c fd how).imp_right fun h => ⟨h.1, h.2.1⟩

/-- The input descriptor is closed on its own. -/
theorem Apart.close_writefd {isextended : Bool} (h : Apart c isextended) (how : How) :
    (close_chan_fd c c.writefd how).sourceFd isextended = c.sourceFd isextended := by
  rcases close_chan_fd_sourceFd c c.writefd how isextended with hsame | ⟨-, heq⟩
  · exact hsame
  · exact absurd heq.symm h.write

/-- So is the other output descriptor. -/
theorem Apart.close_other {isextended : Bool} (h : Apart c isextended) (how : How) :
    (close_chan_fd c (c.sourceFd !isextended) how).sourceFd isextended = c.sourceFd isextended := by
  rcases close_chan_fd_sourceFd c (c.sourceFd !isextended) how isextended with hsame | ⟨-, heq⟩
  · exact hsame
  · exact absurd heq.symm h.other

/-- Since the state `c₀` the output descriptor was left alone, or it was read to its end, or the peer
closed the channel, or another process was started. -/
structure ReadKept (c₀ c : Channel) (calls : List ReadCall) : Prop where
  reads : c.trace.reads = c₀.trace.reads ++ calls
  started : c₀.trace.started <+: c.trace.started
  type : c.type = c₀.type
  kept : c.readfd = c₀.readfd ∨ (∃ call ∈ calls, call.isextended = false ∧ call.ends = true) ∨
    c.recv_close = true ∨ c.trace.started ≠ c₀.trace.started

theorem ReadKept.refl (c : Channel) : ReadKept c c [] where
  reads := (List.append_nil _).symm
  started := List.prefix_refl _
  type := rfl
  kept := .inl rfl

/-- An act that does not read. -/
theorem ReadKept.step {calls : List ReadCall} (h : ReadKept c₀ c calls) (htype : c'.type = c.type)
    (hreads : c'.trace.reads = c.trace.reads) (hstarted : c.trace.started <+: c'.trace.started)
    (hrecv : c.recv_close = true → c'.recv_close = true)
    (hkept : c.readfd = c₀.readfd → c.trace.started = c₀.trace.started →
      c'.readfd = c.readfd ∨ c'.recv_close = true ∨ c'.trace.started ≠ c.trace.started) :
    ReadKept c₀ c' calls := by
  refine ⟨hreads.trans h.reads, h.started.trans hstarted, htype.trans h.type, ?_⟩
  by_cases hsame : c'.trace.started = c₀.trace.started
  · -- then no process was started in between
    have hold : c.trace.started = c₀.trace.started := by
      refine (h.started.eq_of_length_le ?_).symm
      rw [← hsame]
      exact hstarted.length_le
    rcases h.kept with hfd | hcall | hclose | hnew
    · rcases hkept hfd hold with hfd' | hclose | hnew
      · exact .inl (hfd'.trans hfd)
      · exact .inr (.inr (.inl hclose))
      · exact absurd (hsame.trans hold.symm) hnew
    · exact .inr (.inl hcall)
    · exact .inr (.inr (.inl (hrecv hclose)))
    · exact absurd hold hnew
  · exact .inr (.inr (.inr hsame))

/-- An act that reads: the descriptor is closed only if it was read to its end. -/
theorem ReadKept.read {calls : List ReadCall} (h : ReadKept c₀ c calls) (isextended : Bool)
    (answer : ReadAnswer)
    (hapart : c.readfd = c₀.readfd → c.trace.started = c₀.trace.started → Apart c false) :
    ReadKept c₀ (c.didRead (c.readCall isextended answer))
      (calls ++ [c.readCall isextended answer]) := by
  refine ⟨?_, h.started, h.type, ?_⟩
  · show c.trace.reads ++ [_] = _
    rw [h.reads, List.append_assoc]
  · rcases h.kept with hfd | ⟨call, hcall, hends⟩ | hclose | hnew
    · by_cases hsame : c.trace.started = c₀.trace.started
      · by_cases hends : (c.readCall isextended answer).ends = true
        · cases isextended with
          | false => exact .inr (.inl ⟨_, List.mem_append_right _ (List.mem_singleton_self _), rfl, hends⟩)
          | true =>
            refine .inl (Eq.trans ?_ hfd)
            show (c.afterCall _).readfd = c.readfd
            rw [Channel.afterCall, if_pos hends]
            exact (hapart hfd hsame).close_other .SHUT_RD
        · refine .inl (Eq.trans ?_ hfd)
          show (c.afterCall _).readfd = c.readfd
          rw [Channel.afterCall, if_neg hends]
      · exact .inr (.inr (.inr hsame))
    · exact .inr (.inl ⟨call, List.mem_append_left _ hcall, hends⟩)
    · exact .inr (.inr (.inl hclose))
    · exact .inr (.inr (.inr hnew))

theorem startedOn_ne (c : Channel) (chansess : ChanSess) (pid : Nat) (pty : Bool)
    (writefd readfd errfd : Int) :
    (c.startedOn chansess pid pty writefd readfd errfd).trace.started ≠ c.trace.started := by
  simp [Channel.startedOn]

theorem ChannelAct.readKept {kind : ActKind} (h : ChannelAct opts kind c c') (hk : Known c)
    {calls : List ReadCall} (hkept : ReadKept c₀ c calls) (htype : c₀.type = .svrchansess)
    (hpipes : ∀ p ∈ c₀.trace.started.getLast?, p.pty = false) (hopen : 0 ≤ c₀.readfd) :
    ∃ calls', ReadKept c₀ c' calls' := by
  have hcheck : c.type.check_close = true := by
    rw [hkept.type, htype]
    rfl
  have hapart : c.readfd = c₀.readfd → c.trace.started = c₀.trace.started → Apart c false := by
    intro hfd hsame
    refine hk.apart (hkept.type.trans htype) ?_ ?_
    · rw [hsame]
      exact hpipes
    · show 0 ≤ c.readfd
      rw [hfd]
      exact hopen
  cases h with
  | read isextended answer hclose hfd hmax => exact ⟨_, hkept.read isextended answer hapart⟩
  | writeError hfd =>
    refine ⟨calls, hkept.step rfl rfl (List.prefix_refl _) id fun hfd hsame => .inl ?_⟩
    have hapart' : Apart { c with trace := { c.trace with writeFailed := true } } false :=
      ⟨(hapart hfd hsame).write, (hapart hfd hsame).other⟩
    exact hapart'.close_writefd .SHUT_WR
  | writeErrorExtended hfd hmuch =>
    refine ⟨calls, hkept.step rfl rfl (List.prefix_refl _) id fun hfd hsame => .inl ?_⟩
    have hapart' : Apart { c with trace := { c.trace with writeFailed := true } } false :=
      ⟨(hapart hfd hsame).write, (hapart hfd hsame).other⟩
    exact hapart'.close_writefd .SHUT_WR
  | closedInput hidle hwhy =>
    refine ⟨calls, hkept.step rfl rfl (List.prefix_refl _) id fun hfd hsame => .inl ?_⟩
    exact (hapart hfd hsame).close_writefd .SHUT_WR
  | sentClose hclose hallowed hread hwrite =>
    -- the descriptor was closed before
    rw [Channel.readClosed, Bool.and_eq_true, beq_iff_eq] at hread
    exact ⟨calls, hkept.step rfl rfl (List.prefix_refl _) id fun _ _ => .inl hread.1.symm⟩
  | closedRemoved hidle hrecv hclose hallowed hdone =>
    exact ⟨calls, hkept.step rfl rfl (List.prefix_refl _) id fun _ _ => .inr (.inl hrecv)⟩
  | removed hidle hrecv hclose hdone =>
    exact ⟨calls, hkept.step rfl rfl (List.prefix_refl _) id fun _ _ => .inr (.inl hrecv)⟩
  | recvClose => exact ⟨calls, hkept.step rfl rfl (List.prefix_refl _) (fun _ => rfl) fun _ _ => .inl rfl⟩
  | refused hawait =>
    rw [hk.wiring.awaiting hawait] at hcheck
    cases hcheck
  | connected sock hpending =>
    rw [(hk.wiring.pending hpending).check_close] at hcheck
    cases hcheck
  | connectFailed hpending =>
    rw [(hk.wiring.pending hpending).check_close] at hcheck
    cases hcheck
  | started =>
    exact ⟨calls, hkept.step rfl rfl (List.prefix_append _ _) id fun _ _ =>
      .inr (.inr (startedOn_ne c _ _ _ _ _ _))⟩
  | startedPty =>
    exact ⟨calls, hkept.step rfl rfl (List.prefix_append _ _) id fun _ _ =>
      .inr (.inr (startedOn_ne c _ _ _ _ _ _))⟩
  | _ => exact ⟨calls, hkept.step rfl rfl (List.prefix_refl _) id fun _ _ => .inl rfl⟩

/-- **The output of a command on pipes is not cut off**: whatever happens, `readfd` stays open unless
it was read to its end, the peer closed the channel or another process took its place. -/
theorem output_not_cut_off (h : ChannelRun opts es c) (htype : c.type = .svrchansess)
    (hpipes : ∀ p ∈ c.trace.started.getLast?, p.pty = false) (hopen : 0 ≤ c.readfd)
    (hstep : ChannelStep opts c e c') :
    ∃ calls, c'.trace.reads = c.trace.reads ++ calls ∧
      (c'.readfd = c.readfd ∨
        (∃ call ∈ calls, call.isextended = false ∧ call.ends = true) ∨
        c'.recv_close = true ∨ c'.trace.started ≠ c.trace.started) := by
  obtain ⟨horder, hk⟩ := h.known
  have hact : ∀ ⦃kind c₁ c₂⦄, Known c₁ ∧ (∃ calls, ReadKept c c₁ calls) →
      ChannelAct opts kind c₁ c₂ → Known c₂ ∧ ∃ calls, ReadKept c c₂ calls := by
    rintro kind c₁ c₂ ⟨hk₁, calls, hkept⟩ hact
    exact ⟨hact.known hk₁, hact.readKept hk₁ hkept htype hpipes hopen⟩
  obtain ⟨-, calls, hkept⟩ :=
    ChannelActs.invariant hact (EventActs.acts (hstep.handled horder).1) ⟨hk, [], ReadKept.refl c⟩
  exact ⟨calls, hkept.reads, hkept.kept⟩

/-- A command on pipes. -/
def execOnPipes : List ChannelEvent :=
  [.request (requestOf "exec" (stringOf (ascii "sort"))) plainEnv]

theorem output_not_cut_off_execOnPipes : ∃ c c', ChannelRun tinyOpts execOnPipes c ∧
    ChannelStep tinyOpts c (.eof noFlush) c' ∧ c'.writefd = FD_CLOSED ∧ c'.recv_close = false ∧
      ∃ calls, c'.trace.reads = c.trace.reads ++ calls ∧
        (c'.readfd = c.readfd ∨
          (∃ call ∈ calls, call.isextended = false ∧ call.ends = true) ∨
          c'.recv_close = true ∨ c'.trace.started ≠ c.trace.started) := by
  have hexec : (runSession tinyOpts 100 100 execOnPipes).any (fun c =>
      decide (c.type = .svrchansess) && (c.trace.started.getLast?.all fun p => !p.pty) &&
        decide (0 ≤ c.readfd) && (stepChannel tinyOpts c (.eof noFlush)).any fun c' =>
          decide (c'.writefd = FD_CLOSED ∧ c'.recv_close = false)) = true := by
    decide +kernel
  obtain ⟨c, hc, htest⟩ := (Option.any_eq_true _ _).mp hexec
  simp only [Bool.and_eq_true, decide_eq_true_eq, Option.all_eq_true, Bool.not_eq_true'] at htest
  obtain ⟨⟨⟨htype, hpipes⟩, hopen⟩, hnext⟩ := htest
  obtain ⟨c', hc', hclosed⟩ := (Option.any_eq_true _ _).mp hnext
  obtain ⟨hwrite, hrecv⟩ := of_decide_eq_true hclosed
  have hrun := channelRun_of_runSession hc
  have hstep := stepChannel_eq_some hc'
  exact ⟨c, c', hrun, hstep, hwrite, hrecv, output_not_cut_off hrun htype hpipes hopen hstep⟩

/-- A shell on a terminal. -/
def shellOnPty : List ChannelEvent :=
  let size := Framing.be32 80 ++ Framing.be32 24 ++ Framing.be32 0 ++ Framing.be32 0
  [.request (requestOf "pty-req" (stringOf (ascii "vt100") ++ size ++ stringOf [])) plainEnv,
    .request (requestOf "shell" []) plainEnv]

/-- **On a terminal the client's end of input closes the output**: nothing was read from the terminal,
the process has not exited and the channel was not closed. -/
theorem pty_output_cut_off : ∃ c c', ChannelRun tinyOpts shellOnPty c ∧
    ChannelStep tinyOpts c (.eof noFlush) c' ∧ c.readfd = 9 ∧ c'.readfd = FD_CLOSED ∧
      c'.trace.reads = [] ∧ c'.exit = none ∧ c'.recv_close = false ∧
      c'.sent.getLast? = some (.CHANNEL_EOF 0) := by
  have hexec : (runSession tinyOpts 100 100 shellOnPty).any (fun c =>
      decide (c.readfd = 9) && (stepChannel tinyOpts c (.eof noFlush)).any fun c' =>
        decide (c'.readfd = FD_CLOSED ∧ c'.trace.reads = [] ∧ c'.exit = none ∧
          c'.recv_close = false ∧ c'.sent.getLast? = some (.CHANNEL_EOF 0))) = true := by
    decide +kernel
  obtain ⟨c, hc, htest⟩ := (Option.any_eq_true _ _).mp hexec
  obtain ⟨hread, hnext⟩ := Bool.and_eq_true_iff.mp htest
  obtain ⟨c', hc', hclosed⟩ := (Option.any_eq_true _ _).mp hnext
  exact ⟨c, c', channelRun_of_runSession hc, stepChannel_eq_some hc', of_decide_eq_true hread,
    of_decide_eq_true hclosed⟩

end SimpleSshd.Dropbear
