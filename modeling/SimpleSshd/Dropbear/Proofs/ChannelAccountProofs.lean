import SimpleSshd.Dropbear.Proofs.ChannelActsProofs
import Mathlib.Algebra.BigOperators.Group.List.Basic

/-!
# Proofs: the window and the ring are accounted for

What the peer may still send, what waits in the ring and what was written but not yet granted again
add up to the window, and every act of a channel keeps it so. That decides whether the assertions of
`writechannel` hold and whether there is room in the ring for the data of a message.
-/

namespace SimpleSshd.Dropbear

open Fallible
open Wire (add32 sub32 add32_of_lt sub32_of_le)

variable {opts : Opts} {c c' : Channel} {contents : Bytes}

/-! ## Accounting for the window -/

/-- What the peer may still send, what waits in the ring or is being handled, and what was written but
not yet granted again add up to the window. -/
structure Accounted (opts : Opts) (c : Channel) (contents : Bytes) : Prop where
  ring : c.writebuf.Holds opts.recv_window contents
  window : c.recvwindow + contents.length + c.recvdonelen + c.trace.inflight.length ≤
    opts.recv_window
  exact : c.trace.writeFailed = false →
    c.recvwindow + contents.length + c.recvdonelen + c.trace.inflight.length = opts.recv_window
  credit : c.recvwindow + c.trace.received.length = opts.recv_window + c.granted
  claimed : c.trace.received.length ≤ c.trace.claimed

theorem granted_submit (c : Channel) (m : ChannelMsg) :
    (c.submit m).granted = c.granted + m.credit := by
  simp [Channel.granted, Channel.submit]

theorem credit_dataMessage (isextended : Bool) (remotechan : Nat) (data : Bytes) :
    (dataMessage isextended remotechan data).credit = 0 := by
  cases isextended with
  | true => rfl
  | false => rfl

theorem ChannelMsg.credit_of_isExit {m : ChannelMsg} (h : m.isExit = true) : m.credit = 0 := by
  cases m with
  | exitstatus _ _ => rfl
  | exitsignal _ _ _ => rfl
  | _ => cases h

/-- Messages that give no credit. -/
theorem granted_of_sent {msgs : List ChannelMsg} (hsent : c'.sent = c.sent ++ msgs)
    (hcredit : ∀ m ∈ msgs, m.credit = 0) : c'.granted = c.granted := by
  have hzero : (msgs.map ChannelMsg.credit).sum = 0 :=
    List.sum_eq_zero fun n hn => by
      obtain ⟨m, hm, rfl⟩ := List.mem_map.mp hn
      exact hcredit m hm
  rw [Channel.granted, hsent, List.map_append, List.sum_append, hzero, Nat.add_zero]
  rfl

theorem ReadCall.credit_messages (call : ReadCall) (remotechan : Nat) :
    ∀ m ∈ call.messages remotechan, m.credit = 0 := by
  intro m hm
  unfold ReadCall.messages at hm
  split at hm
  · cases hm
  · rw [List.mem_singleton.mp hm]
    exact credit_dataMessage _ _ _

/-- An act that leaves all of these alone. -/
theorem Accounted.congr (h : Accounted opts c contents) (hring : c'.writebuf = c.writebuf)
    (hwindow : c'.recvwindow = c.recvwindow) (hdone : c'.recvdonelen = c.recvdonelen)
    (hgranted : c'.granted = c.granted) (hinflight : c'.trace.inflight = c.trace.inflight)
    (hreceived : c'.trace.received = c.trace.received) (hclaimed : c'.trace.claimed = c.trace.claimed)
    (hfailed : c'.trace.writeFailed = false → c.trace.writeFailed = false) :
    Accounted opts c' contents := by
  refine ⟨?_, ?_, ?_, ?_, ?_⟩
  · rw [hring]
    exact h.ring
  · rw [hwindow, hdone, hinflight]
    exact h.window
  · intro hf
    rw [hwindow, hdone, hinflight]
    exact h.exact (hfailed hf)
  · rw [hwindow, hreceived, hgranted]
    exact h.credit
  · rw [hreceived, hclaimed]
    exact h.claimed

/-- The same, if messages are sent that give no credit. -/
theorem Accounted.congr_sent (h : Accounted opts c contents) {msgs : List ChannelMsg}
    (hsent : c'.sent = c.sent ++ msgs) (hcredit : ∀ m ∈ msgs, m.credit = 0)
    (hring : c'.writebuf = c.writebuf) (hwindow : c'.recvwindow = c.recvwindow)
    (hdone : c'.recvdonelen = c.recvdonelen)
    (htrace : c'.trace.inflight = c.trace.inflight ∧ c'.trace.received = c.trace.received ∧
      c'.trace.claimed = c.trace.claimed ∧ c'.trace.writeFailed = c.trace.writeFailed) :
    Accounted opts c' contents := by
  obtain ⟨hinflight, hreceived, hclaimed, hfailed⟩ := htrace
  exact h.congr hring hwindow hdone (granted_of_sent hsent hcredit) hinflight hreceived hclaimed
    fun hf => hfailed ▸ hf

/-- The window is small, so none of its sums wraps around. -/
theorem Opts.recv_window_small (opts : Opts) : opts.recv_window ≤ 1048576 := opts.recv_window_le

theorem Accounted.extended (h : Accounted opts c contents) : Accounted opts c.extended contents := by
  have hsmall := opts.recv_window_small
  have hwindow := h.window
  have hadd : add32 c.recvwindow c.recvdonelen = c.recvwindow + c.recvdonelen :=
    add32_of_lt (by omega)
  have hgranted := granted_submit c (.CHANNEL_WINDOW_ADJUST c.remotechan c.recvdonelen)
  refine ⟨h.ring, ?_, ?_, ?_, h.claimed⟩
  · show add32 c.recvwindow c.recvdonelen + contents.length + 0 + c.trace.inflight.length ≤ _
    omega
  · intro hf
    have hexact := h.exact hf
    show add32 c.recvwindow c.recvdonelen + contents.length + 0 + c.trace.inflight.length = _
    omega
  · have hcredit := h.credit
    show add32 c.recvwindow c.recvdonelen + c.trace.received.length =
      opts.recv_window + (c.submit (.CHANNEL_WINDOW_ADJUST c.remotechan c.recvdonelen)).granted
    rw [hgranted, ChannelMsg.credit]
    omega

theorem Accounted.writeError (h : Accounted opts c contents) : Accounted opts c.writeError contents :=
  h.congr rfl rfl rfl rfl rfl rfl rfl fun hf => by cases hf

theorem Accounted.charged (h : Accounted opts c contents) {payload : Buffer}
    (hidle : c.trace.inflight = []) (hopen : 0 ≤ c.writefd)
    (hwindow : dataLength payload ≤ c.recvwindow)
    (hlen : (messageData payload).length = dataLength payload) :
    Accounted opts ((c.arrived payload).charge (dataLength payload) (messageData payload))
      contents := by
  have hsmall := opts.recv_window_small
  have hold := h.window
  have hsub : sub32 c.recvwindow (dataLength payload) = c.recvwindow - dataLength payload :=
    sub32_of_le hwindow (by omega)
  have hreceived : (c.arrived payload).trace.received.length =
      c.trace.received.length + dataLength payload := by
    simp only [Channel.arrived, if_pos hopen, List.length_append, hlen]
  refine ⟨h.ring, ?_, ?_, ?_, ?_⟩
  · show sub32 c.recvwindow (dataLength payload) + contents.length + c.recvdonelen +
      (messageData payload).length ≤ _
    omega
  · intro hf
    have hexact := h.exact hf
    rw [hidle, List.length_nil] at hexact
    show sub32 c.recvwindow (dataLength payload) + contents.length + c.recvdonelen +
      (messageData payload).length = _
    omega
  · have hcredit := h.credit
    show sub32 c.recvwindow (dataLength payload) + (c.arrived payload).trace.received.length =
      opts.recv_window + c.granted
    omega
  · have hclaimed := h.claimed
    show (c.arrived payload).trace.received.length ≤ c.trace.claimed + dataLength payload
    omega

theorem Accounted.wrote (h : Accounted opts c contents) {writebuf : Circbuffer} {accepted : Bytes}
    (hfirst : accepted <+: contents)
    (hring : writebuf.Holds opts.recv_window (contents.drop accepted.length)) :
    Accounted opts { c with
      writebuf := writebuf
      recvdonelen := add32 c.recvdonelen accepted.length
      trace := { c.trace with written := c.trace.written ++ accepted } }
      (contents.drop accepted.length) := by
  have hsmall := opts.recv_window_small
  have hwindow := h.window
  have hlen := hfirst.length_le
  have hdrop : (contents.drop accepted.length).length = contents.length - accepted.length :=
    List.length_drop
  have hadd : add32 c.recvdonelen accepted.length = c.recvdonelen + accepted.length :=
    add32_of_lt (by omega)
  refine ⟨hring, ?_, ?_, h.credit, h.claimed⟩
  · show c.recvwindow + (contents.drop accepted.length).length +
      add32 c.recvdonelen accepted.length + c.trace.inflight.length ≤ _
    omega
  · intro hf
    have hexact := h.exact hf
    show c.recvwindow + (contents.drop accepted.length).length +
      add32 c.recvdonelen accepted.length + c.trace.inflight.length = _
    omega

theorem Accounted.kept (h : Accounted opts c contents) {writebuf : Circbuffer}
    (hring : writebuf.Holds opts.recv_window (contents ++ c.trace.inflight)) :
    Accounted opts { c with writebuf := writebuf, trace := { c.trace with inflight := [] } }
      (contents ++ c.trace.inflight) := by
  have hwindow := h.window
  have happend : (contents ++ c.trace.inflight).length =
      contents.length + c.trace.inflight.length := List.length_append
  refine ⟨hring, ?_, ?_, h.credit, h.claimed⟩
  · show c.recvwindow + (contents ++ c.trace.inflight).length + c.recvdonelen + 0 ≤ _
    omega
  · intro hf
    have hexact := h.exact hf
    show c.recvwindow + (contents ++ c.trace.inflight).length + c.recvdonelen + 0 = _
    omega

/-- The window and the ring are accounted for. -/
def Sound (opts : Opts) (c : Channel) : Prop := ∃ contents, Accounted opts c contents

theorem ChannelAct.sound {kind : ActKind} (h : ChannelAct opts kind c c') (hsound : Sound opts c) :
    Sound opts c' := by
  obtain ⟨contents, hacc⟩ := hsound
  have hwindow := hacc.window
  have hclosing : ∀ m ∈ c.exitMessages ++ [.CHANNEL_CLOSE c.remotechan], m.credit = 0 := by
    intro m hm
    rcases List.mem_append.mp hm with hexit | hlast
    · exact ChannelMsg.credit_of_isExit (isExit_exitMessages c m hexit)
    · rw [List.mem_singleton.mp hlast]
      rfl
  cases h with
  | wrote writebuf accepted hopen hring =>
    obtain ⟨hfirst, hholds⟩ := hring contents hacc.ring
    exact ⟨_, hacc.wrote hfirst hholds⟩
  | writeError hopen => exact ⟨contents, hacc.writeError⟩
  | extended hopen hmuch => exact ⟨contents, hacc.extended⟩
  | writeErrorExtended hopen hmuch => exact ⟨contents, hacc.writeError.extended⟩
  | read isextended answer hclose hfd hmax =>
    exact ⟨contents, hacc.congr_sent rfl (ReadCall.credit_messages _ _) rfl rfl rfl
      ⟨rfl, rfl, rfl, rfl⟩⟩
  | sentClose hclose hallowed hread hwrite =>
    exact ⟨contents, hacc.congr_sent (List.append_assoc _ _ _) hclosing rfl rfl rfl
      ⟨rfl, rfl, rfl, rfl⟩⟩
  | closedRemoved hidle hrecv hclose hallowed hdone =>
    exact ⟨contents, hacc.congr_sent (List.append_assoc _ _ _) hclosing rfl rfl rfl
      ⟨rfl, rfl, rfl, rfl⟩⟩
  | connected sock hpending =>
    exact ⟨contents, hacc.congr_sent rfl (by simp [ChannelMsg.credit]) rfl rfl rfl
      ⟨rfl, rfl, rfl, rfl⟩⟩
  | connectFailed hpending =>
    exact ⟨contents, hacc.congr_sent rfl (by simp [ChannelMsg.credit]) rfl rfl rfl
      ⟨rfl, rfl, rfl, rfl⟩⟩
  | succeeded hclose =>
    exact ⟨contents, hacc.congr_sent rfl (by simp [ChannelMsg.credit]) rfl rfl rfl
      ⟨rfl, rfl, rfl, rfl⟩⟩
  | failed hclose =>
    exact ⟨contents, hacc.congr_sent rfl (by simp [ChannelMsg.credit]) rfl rfl rfl
      ⟨rfl, rfl, rfl, rfl⟩⟩
  | keptAlive hready =>
    exact ⟨contents, hacc.congr_sent rfl (by simp [ChannelMsg.credit]) rfl rfl rfl
      ⟨rfl, rfl, rfl, rfl⟩⟩
  | sentEof heof hread =>
    exact ⟨contents, hacc.congr_sent rfl (by simp [ChannelMsg.credit]) rfl rfl rfl
      ⟨rfl, rfl, rfl, rfl⟩⟩
  | dropped payload hclosed =>
    have hreceived : (c.arrived payload).trace.received = c.trace.received := by
      simp only [Channel.arrived, if_neg (Int.not_le.mpr hclosed), List.append_nil]
    refine ⟨contents, hacc.ring, hacc.window, hacc.exact, ?_, ?_⟩
    · rw [hreceived]
      exact hacc.credit
    · rw [hreceived]
      exact Nat.le_add_right_of_le hacc.claimed
  | charged payload hidle hopen hwindow hlen =>
    exact ⟨contents, hacc.charged hidle hopen hwindow hlen⟩
  | kept writebuf hopen hring => exact ⟨_, hacc.kept (hring contents hacc.ring (by omega))⟩
  | lost hfailed hclosed =>
    refine ⟨contents, hacc.ring, ?_, fun hf => ?_, hacc.credit, hacc.claimed⟩
    · show c.recvwindow + contents.length + c.recvdonelen + 0 ≤ _
      omega
    · -- a write has failed
      rw [show c.trace.writeFailed = false from hf] at hfailed
      cases hfailed
  | _ => exact ⟨contents, hacc.congr rfl rfl rfl rfl rfl rfl rfl id⟩

theorem ActsOf.sound {kind : ActKind} (h : ActsOf opts kind c c') (hsound : Sound opts c) :
    Sound opts c' :=
  ChannelActs.invariant (fun _ _ _ hinv hact => hact.sound hinv) (ActsOf.acts h) hsound

/-! ## Writing to the local side -/

/-- Closing `writefd` for writing leaves it closed, whatever the type of the channel. -/
theorem writeError_writefd (c : Channel) : c.writeError.writefd = FD_CLOSED := by
  unfold Channel.writeError close_chan_fd
  simp

/-- What a call of `writechannel` did. -/
structure Written (opts : Opts) (c : Channel) (res : Status) (c' : Channel) : Prop where
  acts : ActsOf opts .io c c'
  success : res = DROPBEAR_SUCCESS → c'.writefd = c.writefd
  failure : res = DROPBEAR_FAILURE → c'.writefd < 0 ∧ c'.trace.writeFailed = true

/-- The ring is written to the descriptor, which stays open, or the write fails. -/
theorem writechannel_fallback_cases (hacc : Accounted opts c contents) (hopen : 0 ≤ c.writefd)
    (answer : WriteAnswer) :
    (∃ c', writechannel_fallback c c.writefd answer = .ok (DROPBEAR_SUCCESS, 0, c') ∧
        ActsOf opts .io c c' ∧ c'.writefd = c.writefd) ∨
      writechannel_fallback c c.writefd answer = .ok (DROPBEAR_FAILURE, 0, c.writeError) := by
  have hload := load_holds hacc.ring
  cases answer with
  | wrote n =>
    obtain ⟨accepted, haccepted⟩ :
        ∃ accepted, accepted = (contents.take (cbuf_readptrs c.writebuf).len1).take n := ⟨_, rfl⟩
    have hlen : accepted.length ≤ (cbuf_readptrs c.writebuf).len1 := by
      rw [haccepted, List.length_take, List.length_take]
      omega
    obtain ⟨writebuf, hincr, hholds⟩ := cbuf_incrread_holds hacc.ring hlen
    refine .inl ⟨{ c with
      writebuf := writebuf
      recvdonelen := add32 c.recvdonelen accepted.length
      trace := { c.trace with written := c.trace.written ++ accepted } }, ?_, ?_, rfl⟩
    · simp only [writechannel_fallback, hload, ok_bind, Channel.wrote, ← haccepted, hincr]
      rfl
    · refine .single (.wrote writebuf accepted hopen fun other hother => ?_)
      -- the ring determines what it holds
      have hload' := load_holds hother
      obtain ⟨writebuf', hincr', hholds'⟩ := cbuf_incrread_holds hother hlen
      rw [hincr] at hincr'
      cases hincr'
      refine ⟨?_, hholds'⟩
      rw [hload] at hload'
      have hsame : contents.take (cbuf_readptrs c.writebuf).len1 =
          other.take (cbuf_readptrs c.writebuf).len1 := Except.ok.inj hload'
      rw [haccepted, hsame]
      exact (List.take_prefix _ _).trans (List.take_prefix _ _)
  | EINTR =>
    refine .inl ⟨c, ?_, .refl, rfl⟩
    simp only [writechannel_fallback, hload, ok_bind]
    rfl
  | EAGAIN =>
    refine .inl ⟨c, ?_, .refl, rfl⟩
    simp only [writechannel_fallback, hload, ok_bind]
    rfl
  | error =>
    refine .inr ?_
    simp only [writechannel_fallback, hload, ok_bind]
    rfl

/-- The assertions at the end of `writechannel`. -/
theorem Accounted.writechannel_asserts (hacc : Accounted opts c contents) :
    c.recvwindow ≤ opts.recv_window ∧ c.recvwindow ≤ cbuf_getavail c.writebuf := by
  have hwindow := hacc.window
  rw [cbuf_getavail_holds hacc.ring]
  omega

/-- The window is extended after a write that did not fail. -/
theorem extendWindow_acts (hopen : 0 ≤ c.writefd) : ActsOf opts .io c (c.extendWindow opts) := by
  rw [extendWindow_eq]
  split
  · rename_i hmuch
    exact .single (.extended hopen hmuch)
  · exact .refl

/-- And after one that did. -/
theorem writeError_acts (hopen : 0 ≤ c.writefd) :
    ActsOf opts .io c (c.writeError.extendWindow opts) := by
  rw [extendWindow_eq]
  split
  · rename_i hmuch
    exact .single (.writeErrorExtended hopen hmuch)
  · exact .single (.writeError hopen)

theorem extendWindow_fields (opts : Opts) (c : Channel) :
    (c.extendWindow opts).writefd = c.writefd ∧ (c.extendWindow opts).trace = c.trace := by
  rw [extendWindow_eq]
  split
  · exact ⟨rfl, rfl⟩
  · exact ⟨rfl, rfl⟩

/-- **The assertions of `writechannel` hold**, and none of the data passed along is consumed. -/
theorem writechannel_written (hsound : Sound opts c) (hopen : 0 ≤ c.writefd)
    (answer : WriteAnswer) :
    ∃ res c', writechannel opts c c.writefd answer = .ok (res, 0, c') ∧ Written opts c res c' := by
  have hfinish : ∀ {res c₁}, writechannel_fallback c c.writefd answer = .ok (res, 0, c₁) →
      ActsOf opts .io c (c₁.extendWindow opts) →
      writechannel opts c c.writefd answer = .ok (res, 0, c₁.extendWindow opts) := by
    intro res c₁ hfallback hacts
    obtain ⟨contents', hacc'⟩ := ActsOf.sound hacts hsound
    obtain ⟨hlimit, havail⟩ := hacc'.writechannel_asserts
    simp only [writechannel, hfallback, ok_bind, dropbear_assertion_true hlimit,
      dropbear_assertion_true havail]
    rfl
  have hsound' := hsound
  obtain ⟨contents, hacc⟩ := hsound'
  rcases writechannel_fallback_cases hacc hopen answer with ⟨c₁, hfallback, hacts, hfd⟩ | hfallback
  · have hacts' : ActsOf opts .io c (c₁.extendWindow opts) :=
      hacts.trans (extendWindow_acts (hfd ▸ hopen))
    refine ⟨DROPBEAR_SUCCESS, _, hfinish hfallback hacts', hacts', fun _ => ?_, fun hres => ?_⟩
    · exact (extendWindow_fields opts c₁).1.trans hfd
    · cases hres
  · have hacts' : ActsOf opts .io c (c.writeError.extendWindow opts) := writeError_acts hopen
    obtain ⟨hfd, htrace⟩ := extendWindow_fields opts c.writeError
    refine ⟨DROPBEAR_FAILURE, _, hfinish hfallback hacts', hacts', fun hres => ?_, fun _ => ?_⟩
    · cases hres
    · rw [hfd, htrace, writeError_writefd]
      exact ⟨FD_CLOSED_neg, rfl⟩

/-! ## Data from the peer -/

/-- **The copying loop ends**, and then the data is behind what the ring held. Every turn copies
something, because there is room. -/
theorem bufferData_holds {cbuf : Circbuffer} {payload : Buffer} {size len : Nat} (turns : Nat)
    (h : cbuf.Holds size contents) (hroom : contents.length + len ≤ size)
    (hrest : len ≤ payload.rest.length) (hturns : len ≤ turns) :
    ∃ cbuf', bufferData cbuf payload len turns = .ok cbuf' ∧
      cbuf'.Holds size (contents ++ payload.rest.take len) := by
  induction turns generalizing cbuf payload len contents with
  | zero =>
    obtain rfl : len = 0 := Nat.le_zero.mp hturns
    refine ⟨cbuf, rfl, ?_⟩
    rw [List.take_zero, List.append_nil]
    exact h
  | succ turns ih =>
    by_cases hlen : 0 < len
    · have hsmall := h.size_small
      have hpos : 0 < Ring.room size cbuf.readpos contents.length := Ring.room_pos (by omega)
      obtain ⟨buflen, hbuflen⟩ :
          ∃ buflen, buflen = min (Ring.room size cbuf.readpos contents.length) len := ⟨_, rfl⟩
      obtain ⟨bytes, hbytes⟩ : ∃ bytes, bytes = payload.rest.take buflen := ⟨_, rfl⟩
      have hbyteslen : bytes.length = buflen := by
        rw [hbytes, List.length_take]
        omega
      have hptr : buf_getptr payload buflen = .ok bytes := buf_getptr_ok.mpr ⟨by omega, hbytes⟩
      obtain ⟨cbuf₁, cbuf₂, hstore, hincr, hholds⟩ := cbuf_write_holds h
        (show bytes.length ≤ Ring.room size cbuf.readpos contents.length by omega)
      have hlenrest := payload.length_rest
      obtain ⟨payload', hadv⟩ : ∃ payload', Buffer.Advanced payload buflen payload' :=
        ⟨_, Buffer.advanced_moveTo (show payload.pos + buflen ≤ payload.len by omega)⟩
      have hmove : buf_incrpos payload (toInt32 buflen) = .ok payload' := by
        rw [toInt32_of_lt (by omega)]
        exact buf_incrpos_ok.mpr ⟨by omega, hadv⟩
      have hsub : sub32 len buflen = len - buflen := sub32_of_le (by omega) (by omega)
      have hrest' : payload'.rest = payload.rest.drop buflen := hadv.rest
      have hleft : len - buflen ≤ payload'.rest.length := by
        rw [hrest', List.length_drop]
        omega
      obtain ⟨cbuf', hloop, hholds'⟩ := ih hholds (by rw [List.length_append]; omega) hleft (by omega)
      refine ⟨cbuf', ?_, ?_⟩
      · rw [hbyteslen] at hincr
        rw [bufferData, if_pos hlen]
        simp only [cbuf_writelen_holds h, ← hbuflen, cbuf_writeptr_holds h
          (show buflen ≤ Ring.room size cbuf.readpos contents.length by omega), hptr, hstore, hincr,
          hmove, exits_ok, ok_bind, hsub]
        exact hloop
      · have htake : payload.rest.take len = bytes ++ payload'.rest.take (len - buflen) := by
          rw [hrest', hbytes, ← List.take_add, Nat.add_sub_cancel' (by omega)]
        rw [htake, ← List.append_assoc]
        exact hholds'
    · obtain rfl : len = 0 := by omega
      refine ⟨cbuf, rfl, ?_⟩
      rw [List.take_zero, List.append_nil]
      exact h

/-- The data goes to the ring, or is lost with the descriptor. -/
theorem keepData_acts {res : Status} {payload : Buffer} {datalen : Nat} (hsound : Sound opts c)
    (hinflight : c.trace.inflight = payload.rest.take datalen)
    (hrest : datalen ≤ payload.rest.length)
    (hsuccess : res = DROPBEAR_SUCCESS → 0 ≤ c.writefd)
    (hfailure : res = DROPBEAR_FAILURE → c.writefd < 0 ∧ c.trace.writeFailed = true) :
    ∃ c', c.keepData res payload datalen = .ok c' ∧ ChannelAct opts .data c c' ∧
      c'.trace.inflight = [] := by
  cases res with
  | DROPBEAR_SUCCESS =>
    obtain ⟨contents, hacc⟩ := hsound
    have hwindow := hacc.window
    have hlen : c.trace.inflight.length = datalen := by
      rw [hinflight, List.length_take]
      omega
    obtain ⟨writebuf, hloop, -⟩ := bufferData_holds datalen hacc.ring
      (show contents.length + datalen ≤ opts.recv_window by omega) hrest (Nat.le_refl _)
    refine ⟨_, by rw [Channel.keepData, hloop]; rfl, .kept writebuf (hsuccess rfl) ?_, rfl⟩
    intro other hother hroom
    obtain ⟨writebuf', hloop', hholds⟩ := bufferData_holds datalen hother
      (show other.length + datalen ≤ opts.recv_window by omega) hrest (Nat.le_refl _)
    rw [hloop] at hloop'
    cases hloop'
    rw [hinflight]
    exact hholds
  | DROPBEAR_FAILURE =>
    exact ⟨_, rfl, .lost (hfailure rfl).2 (hfailure rfl).1, rfl⟩

end SimpleSshd.Dropbear
