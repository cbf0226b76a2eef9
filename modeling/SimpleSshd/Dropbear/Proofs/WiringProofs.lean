import SimpleSshd.Dropbear.Proofs.ChannelEventsProofs

/-!
# Proofs: the descriptors of a channel

An act sets a channel up or it leaves each descriptor alone or closes it. `Wiring` says which
descriptors a channel has when, and when it can be flushing or closing; every act keeps it.
-/

namespace SimpleSshd.Dropbear

open Fallible

variable {opts : Opts} {c c' : Channel} {contents : Bytes} {es : List ChannelEvent}

/-! ## Descriptors -/

/-- A descriptor that was closed, or was not touched. -/
def SameOrClosed (fd fd' : Int) : Prop := fd' = fd ∨ fd' = FD_CLOSED

theorem SameOrClosed.trans {fd fd' fd'' : Int} (h : SameOrClosed fd fd')
    (h' : SameOrClosed fd' fd'') : SameOrClosed fd fd'' := by
  rcases h' with rfl | rfl
  · exact h
  · exact .inr rfl

theorem SameOrClosed.neg {fd fd' : Int} (h : SameOrClosed fd fd') (hneg : fd < 0) : fd' < 0 := by
  rcases h with rfl | rfl
  · exact hneg
  · exact FD_CLOSED_neg

theorem SameOrClosed.eq_of_nonneg {fd fd' : Int} (h : SameOrClosed fd fd') (hpos : 0 ≤ fd') :
    fd' = fd := by
  rcases h with heq | rfl
  · exact heq
  · exact absurd hpos (Int.not_le.mpr FD_CLOSED_neg)

theorem sameOrClosed_close_chan_fd (c : Channel) (fd : Int) (how : How) :
    SameOrClosed c.writefd (close_chan_fd c fd how).writefd ∧
      SameOrClosed c.readfd (close_chan_fd c fd how).readfd ∧
      SameOrClosed c.errfd (close_chan_fd c fd how).errfd := by
  refine ⟨?_, ?_, ?_⟩
  · rcases close_chan_fd_writefd c fd how with h | h
    · exact .inl h
    · exact .inr h.1
  · rcases close_chan_fd_readfd c fd how with h | h
    · exact .inl h
    · exact .inr h.1
  · rcases close_chan_fd_errfd c fd how with h | h
    · exact .inl h
    · exact .inr h.1

theorem sameOrClosed_afterCall (c : Channel) (call : ReadCall) :
    SameOrClosed c.writefd (c.afterCall call).writefd ∧
      SameOrClosed c.readfd (c.afterCall call).readfd ∧
      SameOrClosed c.errfd (c.afterCall call).errfd := by
  unfold Channel.afterCall
  split
  · exact sameOrClosed_close_chan_fd c _ _
  · exact ⟨.inl rfl, .inl rfl, .inl rfl⟩

/-- **Descriptors are set up or closed**: an act that does not set a channel up leaves each descriptor
alone or closes it. -/
theorem ChannelAct.descriptors {kind : ActKind} (h : ChannelAct opts kind c c') :
    c'.trace.setups = c.trace.setups + 1 ∨
      c'.trace.setups = c.trace.setups ∧ SameOrClosed c.writefd c'.writefd ∧
        SameOrClosed c.readfd c'.readfd ∧ SameOrClosed c.errfd c'.errfd := by
  cases h with
  | connected sock hpending => exact .inl rfl
  | started old requested env spawn chansess hold htype hfree hspawn hchansess hterm => exact .inl rfl
  | startedPty old requested env spawn chansess hold htype hfree hspawn hchansess hmaster =>
    exact .inl rfl
  | refused hopen => exact .inr ⟨rfl, .inr rfl, .inr rfl, .inr rfl⟩
  | connectFailed hpending => exact .inr ⟨rfl, .inr rfl, .inr rfl, .inr rfl⟩
  | removed hidle hrecv hclose hdone => exact .inr ⟨rfl, .inr rfl, .inr rfl, .inr rfl⟩
  | sentClose hclose hallowed hread hwrite => exact .inr ⟨rfl, .inr rfl, .inr rfl, .inr rfl⟩
  | closedRemoved hidle hrecv hclose hallowed hdone =>
    exact .inr ⟨rfl, .inr rfl, .inr rfl, .inr rfl⟩
  | read isextended answer hclose hfd hmax =>
    exact .inr ⟨rfl, sameOrClosed_afterCall c (c.readCall isextended answer)⟩
  | writeError hopen => exact .inr ⟨rfl, sameOrClosed_close_chan_fd _ _ _⟩
  | writeErrorExtended hopen hmuch => exact .inr ⟨rfl, sameOrClosed_close_chan_fd _ _ _⟩
  | closedInput hidle hwhy => exact .inr ⟨rfl, sameOrClosed_close_chan_fd _ _ _⟩
  | _ => exact .inr ⟨rfl, .inl rfl, .inl rfl, .inl rfl⟩

theorem ChanType.sepfds_of_check_close {type : ChanType}
    (h : type.check_close = false) : type.sepfds = true := by
  cases type with
  | svrchansess => cases h
  | svr_chan_tcpdirect => rfl
  | svr_chan_tcpremote => rfl

/-! ## When a channel is what -/

/-- A connection is being made: there is no descriptor, and nothing was ended. -/
structure Connecting (c : Channel) : Prop where
  check_close : c.type.check_close = false
  setups : c.trace.setups = 0
  readfd : c.readfd = FD_UNINIT
  sent_eof : c.sent_eof = false

structure Wiring (c : Channel) : Prop where
  /-- Only a session whose child has exited is flushed. -/
  flushing : c.flushing = true → c.exited = true
  /-- Nor is a session closed before. -/
  closed : c.type.check_close = true → c.sent_close = true → c.exited = true
  /-- A channel that is closed has also ended its output. -/
  finished : c.sent_close = true → c.sent_eof = true
  pending : c.conn_pending = true → Connecting c
  /-- Only the channels that the server opens wait for a reply. -/
  awaiting : c.await_open = true → c.type.check_close = false
  unset : c.trace.setups = 0 → c.writefd < 0 ∧ c.readfd < 0 ∧ c.errfd < 0
  /-- Only sessions have a descriptor for `stderr`. -/
  single : c.type.check_close = false → c.errfd < 0
  /-- It is not the one that is written to. -/
  apart : c.trace.setups = 1 → 0 ≤ c.errfd → c.errfd ≠ c.writefd

theorem Fresh.wiring (h : Fresh opts c) : Wiring c where
  flushing hflush := by cases h <;> cases hflush
  closed _ hsent := by cases h <;> cases hsent
  finished hsent := by cases h <;> cases hsent
  awaiting hawait := by
    cases h with
    | outgoing => rfl
    | session => cases hawait
    | connecting => cases hawait
    | prohibited => cases hawait
  single _ := by cases h <;> exact FD_CLOSED_neg
  pending hpending := by
    cases h with
    | connecting => exact ⟨rfl, rfl, rfl, rfl⟩
    | session => cases hpending
    | prohibited => cases hpending
    | outgoing => cases hpending
  unset hunset := by
    cases h with
    | outgoing => cases hunset
    | session => exact ⟨FD_UNINIT_neg, FD_UNINIT_neg, FD_CLOSED_neg⟩
    | connecting => exact ⟨FD_UNINIT_neg, FD_UNINIT_neg, FD_CLOSED_neg⟩
    | prohibited => exact ⟨FD_CLOSED_neg, FD_CLOSED_neg, FD_CLOSED_neg⟩
  apart honce herrfd := by
    cases h with
    | outgoing => exact absurd herrfd (Int.not_le.mpr FD_CLOSED_neg)
    | session => cases honce
    | connecting => cases honce
    | prohibited => cases honce

namespace ChannelAct

variable {kind : ActKind}

theorem flushing_exited (h : ChannelAct opts kind c c') (hold : c.flushing = true → c.exited = true)
    (hflush : c'.flushing = true) : c'.exited = true := by
  refine h.exited_mono ?_
  cases h with
  | flushing hclose hexited => exact hexited
  | _ => exact hold hflush

theorem closed_exited (h : ChannelAct opts kind c c')
    (hold : c.type.check_close = true → c.sent_close = true → c.exited = true)
    (hcheck : c'.type.check_close = true) (hsent : c'.sent_close = true) : c'.exited = true := by
  have hcheck' : c.type.check_close = true := h.type_eq ▸ hcheck
  refine h.exited_mono ?_
  cases h with
  | sentClose hclose hallowed hread hwrite =>
    rw [Channel.closeAllowed, hcheck', hclose] at hallowed
    exact hallowed
  | closedRemoved hidle hrecv hclose hallowed hdone =>
    rw [Channel.closeAllowed, hcheck', hclose] at hallowed
    exact hallowed
  | _ => exact hold hcheck' hsent

theorem finished_eof (h : ChannelAct opts kind c c')
    (hold : c.sent_close = true → c.sent_eof = true) (hsent : c'.sent_close = true) :
    c'.sent_eof = true := by
  cases h with
  | sentClose => rfl
  | closedRemoved => rfl
  | sentEof => rfl
  | _ => exact hold hsent

theorem awaiting_type (h : ChannelAct opts kind c c')
    (hold : c.await_open = true → c.type.check_close = false) (hawait : c'.await_open = true) :
    c'.type.check_close = false := by
  cases h with
  | confirmed => cases hawait
  | refused => cases hawait
  | _ => exact hold hawait

theorem single_errfd (h : ChannelAct opts kind c c')
    (hold : c.type.check_close = false → c.errfd < 0) (hcheck : c'.type.check_close = false) :
    c'.errfd < 0 := by
  have hcheck' : c.type.check_close = false := h.type_eq ▸ hcheck
  rcases h.descriptors with hset | ⟨-, -, -, herr⟩
  · cases h with
    | connected => exact hold hcheck
    | started old requested env spawn chansess _ htype _ _ _ _ =>
      rw [htype] at hcheck'
      cases hcheck'
    | startedPty old requested env spawn chansess _ htype _ _ _ _ =>
      rw [htype] at hcheck'
      cases hcheck'
    | _ => exact absurd hset (Nat.ne_of_lt (Nat.lt_succ_self _))
  · exact herr.neg (hold hcheck')

/-- A connection is made or given up, or nothing about it changes. -/
theorem connecting (h : ChannelAct opts kind c c') (hw : Wiring c)
    (hpending : c'.conn_pending = true) : Connecting c' := by
  have hunset : Connecting c → ¬ 0 ≤ c.writefd ∧ ∀ isextended, ¬ 0 ≤ c.sourceFd isextended := by
    intro hc
    obtain ⟨hwrite, hread, herr⟩ := hw.unset hc.setups
    refine ⟨Int.not_le.mpr hwrite, fun isextended => Int.not_le.mpr ?_⟩
    cases isextended with
    | true => exact herr
    | false => exact hread
  have hopen : Connecting c → ¬ c.readClosed = true := by
    intro hc hread
    rw [Channel.readClosed, hc.readfd] at hread
    cases hread
  cases h with
  | connected => cases hpending
  | connectFailed => cases hpending
  | refused => cases hpending
  | removed => cases hpending
  | closedRemoved => cases hpending
  | started old requested env spawn chansess _ htype _ _ _ _ =>
    -- a session makes no connections
    have hcheck := (hw.pending hpending).check_close
    rw [htype] at hcheck
    cases hcheck
  | startedPty old requested env spawn chansess _ htype _ _ _ _ =>
    have hcheck := (hw.pending hpending).check_close
    rw [htype] at hcheck
    cases hcheck
  | read isextended answer hclose hfd hmax =>
    exact absurd hfd ((hunset (hw.pending hpending)).2 isextended)
  | writeError hfd => exact absurd hfd (hunset (hw.pending hpending)).1
  | writeErrorExtended hfd hmuch => exact absurd hfd (hunset (hw.pending hpending)).1
  | sentEof heof hread => exact absurd hread (hopen (hw.pending hpending))
  | sentClose hclose hallowed hread hwrite => exact absurd hread (hopen (hw.pending hpending))
  | closedInput hidle hwhy =>
    have hc := hw.pending hpending
    refine ⟨hc.check_close, hc.setups, ?_, hc.sent_eof⟩
    rcases close_chan_fd_readfd c c.writefd .SHUT_WR with hsame | ⟨-, -, hsep | hhow⟩
    · exact hsame.trans hc.readfd
    · rw [ChanType.sepfds_of_check_close hc.check_close] at hsep
      cases hsep
    · cases hhow
  | _ =>
    have hc := hw.pending hpending
    exact ⟨hc.check_close, hc.setups, hc.readfd, hc.sent_eof⟩

theorem unset_closed (h : ChannelAct opts kind c c')
    (hold : c.trace.setups = 0 → c.writefd < 0 ∧ c.readfd < 0 ∧ c.errfd < 0)
    (hunset : c'.trace.setups = 0) : c'.writefd < 0 ∧ c'.readfd < 0 ∧ c'.errfd < 0 := by
  rcases h.descriptors with hset | ⟨hsame, hwrite, hread, herr⟩
  · omega
  · obtain ⟨hw, hr, he⟩ := hold (hsame ▸ hunset)
    exact ⟨hwrite.neg hw, hread.neg hr, herr.neg he⟩

theorem errfd_apart (h : ChannelAct opts kind c c') (hw : Wiring c) (honce : c'.trace.setups = 1)
    (herrfd : 0 ≤ c'.errfd) : c'.errfd ≠ c'.writefd := by
  rcases h.descriptors with hset | ⟨hsame, hwrite, -, herr⟩
  · have hzero : c.trace.setups = 0 := by omega
    have hclosed := (hw.unset hzero).2.2
    cases h with
    | started old requested env spawn chansess _ _ _ _ _ _ =>
      intro heq
      exact spawn.in_ne_err (Int.ofNat.inj heq.symm)
    | startedPty old requested env spawn chansess _ _ _ _ _ _ =>
      exact absurd herrfd (Int.not_le.mpr hclosed)
    | connected sock _ => exact absurd herrfd (Int.not_le.mpr hclosed)
    | _ => exact absurd hset (Nat.ne_of_lt (Nat.lt_succ_self _))
  · have heq := herr.eq_of_nonneg herrfd
    have hold := hw.apart (hsame ▸ honce) (heq ▸ herrfd)
    rcases hwrite with hw' | hw'
    · rw [heq, hw']
      exact hold
    · rw [hw']
      intro hbad
      rw [hbad] at herrfd
      exact absurd herrfd (Int.not_le.mpr FD_CLOSED_neg)

theorem wiring (h : ChannelAct opts kind c c') (hw : Wiring c) : Wiring c' where
  flushing := h.flushing_exited hw.flushing
  closed := h.closed_exited hw.closed
  finished := h.finished_eof hw.finished
  pending := h.connecting hw
  awaiting := h.awaiting_type hw.awaiting
  unset := h.unset_closed hw.unset
  single := h.single_errfd hw.single
  apart := h.errfd_apart hw

end ChannelAct

end SimpleSshd.Dropbear
