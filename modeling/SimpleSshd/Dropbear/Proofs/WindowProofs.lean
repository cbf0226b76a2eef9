import SimpleSshd.Dropbear.Proofs.ChannelEventsProofs

/-!
# Proofs: the receive window of a channel

The window is conserved: what the peer may still send, what waits in the ring and what was written but
not granted again is never more than the window the server announced, and exactly that as long as no
write has failed. So the assertions that guard the ring cannot fail, and a peer that keeps to the
window is never told that it did not.
-/

namespace SimpleSshd.Dropbear

open Fallible

variable {opts : Opts} {c : Channel} {es : List ChannelEvent}

/-- The ways to fail that are guarded by the accounting of the window: the assertions of the ring and
of `writechannel`, a ring without room, a block that is too small, and copying without end. -/
def Abort.ofWindow : Abort → Bool
  | .assertion .writelenUsed => true
  | .assertion .writelenWritepos => true
  | .assertion .writelenReadpos => true
  | .assertion .incrwriteUsed => true
  | .assertion .incrreadUsed => true
  | .assertion .writechannelWindow => true
  | .assertion .writechannelAvail => true
  | .assertion .recvDataLimit => true
  | .exit (.dropbear_exit msg) => msg = "Bad cbuf write"
  | .exit .fault => true
  | .hang => true
  | _ => false

/-- What `common_recv_msg_channel_data` says if there is more data than the peer may send. -/
def Abort.ofExcess : Abort → Bool
  | .exit (.dropbear_exit msg) => msg = "Oversized packet"
  | .assertion .recvDataWindow => true
  | .assertion .recvDataLimit => true
  | _ => false

theorem PeerExit.not_ofWindow {a : Abort} (h : PeerExit a) : a.ofWindow = false := by
  obtain ⟨_, msg, hmsg, rfl⟩ := h
  have hall : ∀ m ∈ peerErrors, (Abort.exit (.dropbear_exit m)).ofWindow = false := by decide
  exact hall msg hmsg

theorem PeerExit.not_ofExcess {a : Abort} (h : PeerExit a) : a.ofExcess = false := by
  obtain ⟨_, msg, hmsg, rfl⟩ := h
  have hall : ∀ m ∈ peerErrors, (Abort.exit (.dropbear_exit m)).ofExcess = false := by decide
  exact hall msg hmsg

theorem SendAbort.eq {a : Abort} (h : SendAbort opts c a) : a = .assertion .sendDataClosed := by
  cases h
  rfl

/-- No event ends the process in a way that the accounting guards. -/
theorem EventAbort.not_ofWindow {e : ChannelEvent} {a : Abort} (h : EventAbort opts c e a) :
    a.ofWindow = false := by
  cases h with
  | peer hpeer => exact hpeer.not_ofWindow
  | send hsend =>
    rw [hsend.eq]
    rfl
  | oversized hlarge => decide
  | window hlarge => rfl
  | chansess htype hnone => rfl

/-- While the peer keeps to what it was granted, the window has room for its data. -/
theorem Accounted.dataLength_le {contents : Bytes} {payload : Buffer} (hacc : Accounted opts c contents)
    (h : c.trace.claimed + dataLength payload ≤ opts.recv_window + c.granted) :
    dataLength payload ≤ c.recvwindow := by
  have hcredit := hacc.credit
  have hclaimed := hacc.claimed
  omega

/-- So its data is neither too much for the ring nor for the window. -/
theorem EventAbort.not_ofExcess {payload : Buffer} {answer : WriteAnswer} {a : Abort}
    (hsound : Sound opts c) (h : EventAbort opts c (.data payload answer) a)
    (hclaim : c.trace.claimed + dataLength payload ≤ opts.recv_window + c.granted) :
    a.ofExcess = false := by
  obtain ⟨contents, hacc⟩ := hsound
  have hle := hacc.dataLength_le hclaim
  have hwindow := hacc.window
  cases h with
  | peer hpeer => exact hpeer.not_ofExcess
  | send hsend =>
    rw [hsend.eq]
    rfl
  | oversized hlarge =>
    rw [cbuf_getavail_holds hacc.ring] at hlarge
    omega
  | window hlarge => omega

/-- **The receive window is conserved**, for every channel and whatever happens on it. -/
theorem receive_window_conserved (h : ChannelRun opts es c) :
    c.recvwindow + cbuf_getused c.writebuf + c.recvdonelen ≤ opts.recv_window ∧
      (c.trace.writeFailed = false →
        c.recvwindow + cbuf_getused c.writebuf + c.recvdonelen = opts.recv_window) ∧
      -- the peer's view of its credit: nothing has wrapped around
      c.recvwindow + c.trace.received.length = opts.recv_window + c.granted ∧
      (∀ e a, e.Possible c → channelStep opts c e = .error a → a.ofWindow = false) ∧
      (∀ payload answer a,
        c.trace.claimed + dataLength payload ≤ opts.recv_window + c.granted →
        channelStep opts c (.data payload answer) = .error a → a.ofExcess = false) := by
  obtain ⟨hsound, hidle⟩ := h.orderly
  have hsound' := hsound
  obtain ⟨contents, hacc⟩ := hsound'
  have hused : cbuf_getused c.writebuf = contents.length := hacc.ring.used_eq
  have hwindow := hacc.window
  rw [hidle, List.length_nil] at hwindow
  refine ⟨by omega, ?_, hacc.credit, ?_, ?_⟩
  · intro hfailed
    have hexact := hacc.exact hfailed
    rw [hidle, List.length_nil] at hexact
    omega
  · intro e a hpossible hstep
    exact ((channelStep_meets hsound hidle hpossible).of_error hstep).not_ofWindow
  · intro payload answer a hclaim hstep
    have hpossible : (ChannelEvent.data payload answer).Possible c := trivial
    have habort := (channelStep_meets hsound hidle hpossible).of_error hstep
    exact habort.not_ofExcess hsound hclaim

theorem receive_window_conserved_partialWrites : ∃ c, ChannelRun tinyOpts partialWrites c ∧
    c.granted = 2 ∧ cbuf_getused c.writebuf = 3 ∧
      c.recvwindow + c.trace.received.length = tinyOpts.recv_window + c.granted := by
  have hexec : (runSession tinyOpts 100 100 partialWrites).any
      (fun c => c.granted == 2 && cbuf_getused c.writebuf == 3) = true := by
    decide +kernel
  obtain ⟨c, hc, htest⟩ := (Option.any_eq_true _ _).mp hexec
  have hrun := channelRun_of_runSession hc
  obtain ⟨hgranted, hused⟩ := Bool.and_eq_true_iff.mp htest
  exact ⟨c, hrun, beq_iff_eq.mp hgranted, beq_iff_eq.mp hused, (receive_window_conserved hrun).2.2.1⟩

end SimpleSshd.Dropbear
