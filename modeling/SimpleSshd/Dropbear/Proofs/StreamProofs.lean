import SimpleSshd.Dropbear.Proofs.WiringProofs

/-!
# Proofs: data from the peer arrives at the local side

`Stream` says where the data is: what was written, then what is in the ring, then what is being handled
is what the peer has sent since the descriptor was opened. While the channel is set up only once, every
act keeps it so. When the descriptor is closed, everything has been written or one of the reasons in
`Excused` applies.
-/

namespace SimpleSshd.Dropbear

open Fallible

variable {opts : Opts} {c c' : Channel} {contents : Bytes} {es : List ChannelEvent}

/-! ## Reasons to give up -/

/-- Why data may be left over when `writefd` is closed: writing failed, reading failed or hit the end
of the file, the child has exited, or the peer refused the channel. -/
structure Excused (c : Channel) : Prop where
  why : c.trace.writeFailed = true ∨
    (∃ call ∈ c.trace.reads, call.isextended = false ∧ call.answer.failed call.maxlen = true) ∨
    c.exited = true ∨ c.trace.refused = true

namespace ChannelAct

variable {kind : ActKind}

theorem writeFailed_mono (h : ChannelAct opts kind c c') (hfailed : c.trace.writeFailed = true) :
    c'.trace.writeFailed = true := by
  cases h with
  | writeError _ => rfl
  | writeErrorExtended _ _ => rfl
  | _ => exact hfailed

theorem reads_mono (h : ChannelAct opts kind c c') : c.trace.reads <+: c'.trace.reads := by
  cases h with
  | read isextended answer _ _ _ => exact List.prefix_append _ _
  | _ => exact List.prefix_refl _

theorem refused_mono (h : ChannelAct opts kind c c') (hrefused : c.trace.refused = true) :
    c'.trace.refused = true := by
  cases h with
  | refused _ => rfl
  | _ => exact hrefused

theorem excused (h : ChannelAct opts kind c c') (hexc : Excused c) : Excused c' := by
  obtain ⟨hfailed | ⟨call, hcall, hwhat⟩ | hexited | hrefused⟩ := hexc
  · exact ⟨.inl (h.writeFailed_mono hfailed)⟩
  · exact ⟨.inr (.inl ⟨call, h.reads_mono.subset hcall, hwhat⟩)⟩
  · exact ⟨.inr (.inr (.inl (h.exited_mono hexited)))⟩
  · exact ⟨.inr (.inr (.inr (h.refused_mono hrefused)))⟩

end ChannelAct

/-! ## Where the data is -/

structure Stream (opts : Opts) (c : Channel) : Prop where
  unset : c.trace.setups = 0 → c.trace.written = [] ∧ c.trace.received = [] ∧
    c.trace.inflight = [] ∧ c.writebuf.Holds opts.recv_window []
  opened : c.trace.setups = 1 → 0 ≤ c.writefd → ∀ contents,
    c.writebuf.Holds opts.recv_window contents →
      c.trace.written ++ contents ++ c.trace.inflight = c.trace.received
  ended : c.trace.setups = 1 → c.writefd < 0 → c.trace.written = c.trace.received ∨ Excused c

theorem Fresh.stream (h : Fresh opts c) : Stream opts c := by
  have hempty : c.writebuf.Holds opts.recv_window [] ∧ c.trace.written = [] ∧
      c.trace.received = [] ∧ c.trace.inflight = [] := by
    cases h with
    | session _ _ _ _ _ hring => exact ⟨hring, rfl, rfl, rfl⟩
    | connecting _ _ _ _ _ hring => exact ⟨hring, rfl, rfl, rfl⟩
    | prohibited _ _ _ _ _ _ hring => exact ⟨hring, rfl, rfl, rfl⟩
    | outgoing _ _ _ hring => exact ⟨hring, rfl, rfl, rfl⟩
  obtain ⟨hring, hwritten, hreceived, hinflight⟩ := hempty
  refine ⟨fun _ => ⟨hwritten, hreceived, hinflight, hring⟩, fun _ _ contents hholds => ?_, fun _ _ => ?_⟩
  · have hnil : contents = [] := hholds.contents_eq.symm.trans hring.contents_eq
    rw [hwritten, hreceived, hinflight, hnil]
    rfl
  · exact .inl (hwritten.trans hreceived.symm)

/-- No data waits for a descriptor that is open. -/
theorem eq_nil_of_not_write_pending (hring : c.writebuf.Holds opts.recv_window contents)
    (hdone : write_pending c = false) (hopen : 0 ≤ c.writefd) : contents = [] := by
  have hused := hring.used_eq
  have hzero : cbuf_getused c.writebuf = 0 := by
    unfold write_pending at hdone
    simp only [hopen, decide_true, Bool.true_and, decide_eq_false_iff_not] at hdone
    omega
  exact List.eq_nil_of_length_eq_zero (hused.symm.trans hzero)

/-- An act that moves no data and leaves `writefd` alone, or closes it for a reason. -/
theorem Stream.closing (h : Stream opts c) (hsound : Sound opts c)
    (hsetups : c'.trace.setups = c.trace.setups) (hring : c'.writebuf = c.writebuf)
    (htrace : c'.trace.written = c.trace.written ∧ c'.trace.received = c.trace.received ∧
      c'.trace.inflight = c.trace.inflight)
    (hexc : Excused c → Excused c') (hsame : SameOrClosed c.writefd c'.writefd)
    (hwhy : c.trace.setups = 1 → c'.writefd ≠ c.writefd →
      Excused c' ∨ write_pending c = false ∧ c.trace.inflight = []) : Stream opts c' := by
  obtain ⟨hwritten, hreceived, hinflight⟩ := htrace
  refine ⟨fun hzero => ?_, fun honce hopen contents hholds => ?_, fun honce hclosed => ?_⟩
  · rw [hwritten, hreceived, hinflight, hring]
    exact h.unset (hsetups ▸ hzero)
  · rw [hsetups] at honce
    rw [hsame.eq_of_nonneg hopen] at hopen
    rw [hring] at hholds
    rw [hwritten, hreceived, hinflight]
    exact h.opened honce hopen contents hholds
  · rw [hsetups] at honce
    rw [hwritten, hreceived]
    by_cases hopen : 0 ≤ c.writefd
    · -- the act has closed it
      have hne : c'.writefd ≠ c.writefd := fun heq => absurd hopen (Int.not_le.mpr (heq ▸ hclosed))
      rcases hwhy honce hne with hexc' | ⟨hdone, hidle⟩
      · exact .inr hexc'
      · obtain ⟨contents, hacc⟩ := hsound
        have heq := h.opened honce hopen contents hacc.ring
        have hnil := eq_nil_of_not_write_pending hacc.ring hdone hopen
        rw [hidle, hnil, List.append_nil, List.append_nil] at heq
        exact .inl heq
    · rcases h.ended honce (Int.not_le.mp hopen) with heq | hold
      · exact .inl heq
      · exact .inr (hexc hold)

/-- An act that sets the channel up: if it is the first, there was no data before. -/
theorem Stream.setUp (h : Stream opts c) (hsetups : c'.trace.setups = c.trace.setups + 1)
    (hring : c'.writebuf = c.writebuf)
    (htrace : c'.trace.written = c.trace.written ∧ c'.trace.received = c.trace.received ∧
      c'.trace.inflight = c.trace.inflight) : Stream opts c' := by
  obtain ⟨hwritten, hreceived, hinflight⟩ := htrace
  have hfirst : c'.trace.setups = 1 → c'.trace.written = [] ∧ c'.trace.received = [] ∧
      c'.trace.inflight = [] ∧ c'.writebuf.Holds opts.recv_window [] := by
    intro honce
    rw [hwritten, hreceived, hinflight, hring]
    exact h.unset (by omega)
  refine ⟨fun hzero => ?_, fun honce _ contents hholds => ?_, fun honce _ => ?_⟩
  · omega
  · obtain ⟨hw, hr, hi, hempty⟩ := hfirst honce
    have hnil : contents = [] := hholds.contents_eq.symm.trans hempty.contents_eq
    rw [hw, hr, hi, hnil]
    rfl
  · obtain ⟨hw, hr, -, -⟩ := hfirst honce
    exact .inl (hw.trans hr.symm)

namespace ChannelAct

variable {kind : ActKind}

/-- **Why `writefd` is closed**, on a channel that was set up once. -/
theorem writefd_closed (h : ChannelAct opts kind c c') (hw : Wiring c) (honce : c.trace.setups = 1)
    (hne : c'.writefd ≠ c.writefd) (hsetups : c'.trace.setups = c.trace.setups) :
    Excused c' ∨ write_pending c = false ∧ c.trace.inflight = [] := by
  have hexited : c.exited = true → Excused c' := fun hex => ⟨.inr (.inr (.inl (h.exited_mono hex)))⟩
  cases h with
  | writeError _ => exact .inl ⟨.inl rfl⟩
  | writeErrorExtended _ _ => exact .inl ⟨.inl rfl⟩
  | refused _ => exact .inl ⟨.inr (.inr (.inr rfl))⟩
  | removed hidle hrecv hclose hdone => exact .inr ⟨hdone, hidle⟩
  | closedRemoved hidle hrecv hclose hallowed hdone => exact .inr ⟨hdone, hidle⟩
  | sentClose hclose hallowed hread hwrite => exact absurd hwrite.symm hne
  | connectFailed hpending =>
    have hzero := (hw.pending hpending).setups
    omega
  | closedInput hidle hwhy =>
    rcases hwhy with ⟨_, hdone⟩ | ⟨hcheck, hallowed⟩
    · exact .inr ⟨hdone, hidle⟩
    · refine .inl (hexited ?_)
      simp only [Channel.closeAllowed, hcheck, Bool.not_true, Bool.false_or, Bool.or_eq_true] at hallowed
      rcases hallowed with hsent | hex
      · exact hw.closed hcheck hsent
      · exact hex
  | read isextended answer hclose hfd hmax =>
    refine .inl ?_
    by_cases hflush : c.flushing = true
    · exact hexited (hw.flushing hflush)
    · obtain ⟨call, hcall⟩ : ∃ call, call = c.readCall isextended answer := ⟨_, rfl⟩
      have hends : call.ends = true := by
        by_contra hends
        refine hne ?_
        show (c.afterCall (c.readCall isextended answer)).writefd = c.writefd
        rw [← hcall, Channel.afterCall, if_neg hends]
      have hfailed : call.answer.failed call.maxlen = true := by
        have hnot : call.flushing = false := by
          rw [hcall]
          exact Bool.eq_false_iff.mpr hflush
        rw [ReadCall.ends, hnot, Bool.false_and, Bool.false_and, Bool.or_false] at hends
        exact hends
      have hsource : c.sourceFd isextended = c.writefd := by
        have hwrite : (close_chan_fd c (c.sourceFd call.isextended) .SHUT_RD).writefd ≠ c.writefd := by
          have hafter : (c.afterCall (c.readCall isextended answer)).writefd ≠ c.writefd := hne
          rw [← hcall, Channel.afterCall, if_pos hends] at hafter
          exact hafter
        rcases close_chan_fd_writefd c (c.sourceFd call.isextended) .SHUT_RD with heq | ⟨-, hfd', -⟩
        · exact absurd heq hwrite
        · rw [hcall] at hfd'
          exact hfd'
      cases isextended with
      | false =>
        refine ⟨.inr (.inl ⟨call, ?_, ?_, hfailed⟩)⟩
        · rw [hcall]
          exact List.mem_append_right _ (List.mem_singleton.mpr rfl)
        · rw [hcall]
          rfl
      | true => exact absurd hsource (hw.apart honce hfd)
  | connected _ _ => exact absurd hsetups (Nat.succ_ne_self _)
  | started _ _ _ _ _ _ _ _ _ _ _ => exact absurd hsetups (Nat.succ_ne_self _)
  | startedPty _ _ _ _ _ _ _ _ _ _ _ => exact absurd hsetups (Nat.succ_ne_self _)
  | _ => exact absurd rfl hne

/-- An act that moves no data. -/
theorem stream_of_same (h : ChannelAct opts kind c c') (hw : Wiring c) (hsound : Sound opts c)
    (hs : Stream opts c) (hring : c'.writebuf = c.writebuf)
    (htrace : c'.trace.written = c.trace.written ∧ c'.trace.received = c.trace.received ∧
      c'.trace.inflight = c.trace.inflight) : Stream opts c' := by
  rcases h.descriptors with hset | ⟨hsame, hwrite, -, -⟩
  · exact hs.setUp hset hring htrace
  · exact hs.closing hsound hsame hring htrace h.excused hwrite
      fun honce hne => h.writefd_closed hw honce hne hsame

theorem stream (h : ChannelAct opts kind c c') (hw : Wiring c) (hsound : Sound opts c)
    (hs : Stream opts c) : Stream opts c' := by
  have hact := h
  cases h with
  | wrote writebuf accepted hopen hring =>
    refine ⟨fun hzero => ?_, fun honce hopen' contents hholds => ?_, fun _ hclosed => ?_⟩
    · exact absurd hopen (Int.not_le.mpr (hw.unset hzero).1)
    · obtain ⟨old, hacc⟩ := hsound
      obtain ⟨hfirst, hrest⟩ := hring old hacc.ring
      have hdrop : contents = old.drop accepted.length :=
        hholds.contents_eq.symm.trans hrest.contents_eq
      have hsplit : accepted ++ contents = old := by
        rw [hdrop]
        exact List.prefix_iff_eq_append.mp hfirst
      have heq := hs.opened honce hopen old hacc.ring
      show c.trace.written ++ accepted ++ contents ++ c.trace.inflight = c.trace.received
      rw [List.append_assoc c.trace.written, hsplit]
      exact heq
    · exact absurd hopen (Int.not_le.mpr hclosed)
  | dropped payload hclosed =>
    have hreceived : (c.arrived payload).trace.received = c.trace.received := by
      simp only [Channel.arrived, if_neg (Int.not_le.mpr hclosed), List.append_nil]
    exact hact.stream_of_same hw hsound hs rfl ⟨rfl, hreceived, rfl⟩
  | charged payload hidle hopen hwindow hlen =>
    refine ⟨fun hzero => ?_, fun honce _ contents hholds => ?_, fun _ hclosed => ?_⟩
    · exact absurd hopen (Int.not_le.mpr (hw.unset hzero).1)
    · have heq := hs.opened honce hopen contents hholds
      rw [hidle, List.append_nil] at heq
      show c.trace.written ++ contents ++ messageData payload = (c.arrived payload).trace.received
      rw [heq, Channel.arrived, if_pos hopen]
    · exact absurd hopen (Int.not_le.mpr hclosed)
  | kept writebuf hopen hring =>
    refine ⟨fun hzero => ?_, fun honce _ contents hholds => ?_, fun _ hclosed => ?_⟩
    · exact absurd hopen (Int.not_le.mpr (hw.unset hzero).1)
    · obtain ⟨old, hacc⟩ := hsound
      have hwindow := hacc.window
      have hnew := hring old hacc.ring (by omega)
      have hcontents : contents = old ++ c.trace.inflight :=
        hholds.contents_eq.symm.trans hnew.contents_eq
      have heq := hs.opened honce hopen old hacc.ring
      show c.trace.written ++ contents ++ [] = c.trace.received
      rw [hcontents, List.append_nil, ← List.append_assoc]
      exact heq
    · exact absurd hopen (Int.not_le.mpr hclosed)
  | lost hfailed hclosed =>
    refine ⟨fun hzero => ?_, fun _ hopen => ?_, fun _ _ => .inr ⟨.inl hfailed⟩⟩
    · obtain ⟨hwritten, hreceived, -, hring⟩ := hs.unset hzero
      exact ⟨hwritten, hreceived, rfl, hring⟩
    · exact absurd hopen (Int.not_le.mpr hclosed)
  | _ => exact hact.stream_of_same hw hsound hs rfl ⟨rfl, rfl, rfl⟩

end ChannelAct

theorem ChannelRun.stream (h : ChannelRun opts es c) :
    Orderly opts c ∧ Wiring c ∧ Stream opts c := by
  have hact : ∀ ⦃kind c c'⦄, Sound opts c → Wiring c ∧ Stream opts c → ChannelAct opts kind c c' →
      Wiring c' ∧ Stream opts c' := fun _ _ _ hsound hinv hact =>
    ⟨hact.wiring hinv.1, hact.stream hinv.1 hsound hinv.2⟩
  have hall := h.invariant (fun _ hfresh => ⟨hfresh.wiring, hfresh.stream⟩) hact
  exact hall

/-- **Data arrives in order**: on a channel that was set up once, what was written and what is in the
ring is what was received; and when the descriptor is closed, everything was written, or writing or
reading failed, or the child exited, or the peer refused the channel. -/
theorem received_data_written (h : ChannelRun opts es c) (honce : c.trace.setups = 1) :
    (0 ≤ c.writefd → c.trace.written ++ c.writebuf.contents = c.trace.received) ∧
      (c.writefd < 0 → c.trace.written = c.trace.received ∨ Excused c) := by
  obtain ⟨⟨⟨contents, hacc⟩, hidle⟩, -, hs⟩ := h.stream
  refine ⟨fun hopen => ?_, fun hclosed => hs.ended honce hclosed⟩
  have heq := hs.opened honce hopen contents hacc.ring
  rw [hidle, List.append_nil] at heq
  rw [hacc.ring.contents_eq]
  exact heq

theorem received_data_written_partialWrites : ∃ c, ChannelRun tinyOpts partialWrites c ∧
    c.trace.written = ascii "he" ∧ c.trace.written ++ c.writebuf.contents = c.trace.received := by
  have hexec : (runSession tinyOpts 100 100 partialWrites).any (fun c =>
      c.trace.setups == 1 && decide (0 ≤ c.writefd) && c.trace.written == ascii "he") = true := by
    decide +kernel
  obtain ⟨c, hc, htest⟩ := (Option.any_eq_true _ _).mp hexec
  simp only [Bool.and_eq_true, beq_iff_eq, decide_eq_true_eq] at htest
  obtain ⟨⟨honce, hopen⟩, hwritten⟩ := htest
  have hrun := channelRun_of_runSession hc
  exact ⟨c, hrun, hwritten, (received_data_written hrun honce).1 hopen⟩

/-- The peer sends data on a channel it was asked to open, says that there is no more, and refuses the
channel before the data could be written. -/
def refusedAfterData : List ChannelEvent :=
  [.data (dataMessageOf (ascii "abc")) .EAGAIN, .eof noFlush, .openFailure]

/-- **A refused channel is given up with its data**: nothing has failed, and no child has exited. -/
theorem refused_channel_drops_data : ∃ c, ChannelRun tinyOpts refusedAfterData c ∧
    c.trace.setups = 1 ∧ c.recv_eof = true ∧ c.writefd < 0 ∧ c.trace.received = ascii "abc" ∧
      c.trace.written = [] ∧ c.trace.writeFailed = false ∧ c.trace.reads = [] ∧
      c.exited = false := by
  have hexec : (runForwarded tinyOpts 5 refusedAfterData).any (fun c =>
      decide (c.trace.setups = 1 ∧ c.recv_eof = true ∧ c.writefd < 0 ∧
        c.trace.received = ascii "abc" ∧ c.trace.written = [] ∧ c.trace.writeFailed = false ∧
        c.trace.reads = [] ∧ c.exited = false)) = true := by
    decide +kernel
  obtain ⟨c, hc, htest⟩ := (Option.any_eq_true _ _).mp hexec
  exact ⟨c, channelRun_of_runForwarded hc, of_decide_eq_true htest⟩

end SimpleSshd.Dropbear
