import SimpleSshd.Dropbear.Proofs.ChannelEventsProofs

/-!
# Proofs: data for the peer stays within its window

`transwindow` is what the peer may still be sent, and both streams of a channel draw on it. The
invariant `Transmit` says so in terms of what the peer has announced; the caps on the window and the
32-bit sum with an adjust can only make it smaller.

The cap is `TRANS_MAX_WINDOW` when the peer opens a channel and when it adjusts the window. The window
that it announces in a confirmation is taken as it is, and then the sum can wrap around.
-/

namespace SimpleSshd.Dropbear

open Fallible
open Wire (add32 sub32 sub32_of_le)

variable {opts : Opts} {c c' : Channel} {es : List ChannelEvent}

/-- How much data the channel has sent. -/
def Channel.transmitted (c : Channel) : Nat := (c.sent.map fun m => m.data.length).sum

structure Transmit (c : Channel) : Prop where
  small : c.transwindow < 2 ^ 32
  /-- Before the peer has confirmed the channel, nothing is sent. -/
  awaiting : c.await_open = true → c.transmaxpacket = 0 ∧ ∀ m ∈ c.sent, m.data = []
  budget : c.transmitted + c.transwindow ≤ c.trace.announced + c.trace.adjusted
  packets : ∀ m ∈ c.sent, m.data.length ≤ c.transmaxpacket

theorem transmitted_append {msgs : List ChannelMsg} (hsent : c'.sent = c.sent ++ msgs) :
    c'.transmitted = c.transmitted + (msgs.map fun m => m.data.length).sum := by
  rw [Channel.transmitted, hsent, List.map_append, List.sum_append]
  rfl

theorem transmitted_eq_zero (h : ∀ m ∈ c.sent, m.data = []) : c.transmitted = 0 := by
  refine List.sum_eq_zero fun n hn => ?_
  obtain ⟨m, hm, rfl⟩ := List.mem_map.mp hn
  rw [h m hm]
  rfl

/-- Messages without data. -/
theorem Transmit.append (h : Transmit c) {msgs : List ChannelMsg} (hsent : c'.sent = c.sent ++ msgs)
    (hdata : ∀ m ∈ msgs, m.data = []) (hwindow : c'.transwindow = c.transwindow)
    (hpacket : c'.transmaxpacket = c.transmaxpacket) (hawait : c'.await_open = c.await_open)
    (htrace : c'.trace.announced = c.trace.announced ∧ c'.trace.adjusted = c.trace.adjusted) :
    Transmit c' := by
  have hzero : (msgs.map fun m => m.data.length).sum = 0 := by
    refine List.sum_eq_zero fun n hn => ?_
    obtain ⟨m, hm, rfl⟩ := List.mem_map.mp hn
    rw [hdata m hm]
    rfl
  have htotal : c'.transmitted = c.transmitted := by
    rw [transmitted_append hsent, hzero, Nat.add_zero]
  refine ⟨?_, ?_, ?_, ?_⟩
  · rw [hwindow]
    exact h.small
  · intro hopen
    obtain ⟨hzero', hold⟩ := h.awaiting (hawait ▸ hopen)
    refine ⟨hpacket.trans hzero', fun m hm => ?_⟩
    rw [hsent] at hm
    rcases List.mem_append.mp hm with hm | hm
    · exact hold m hm
    · exact hdata m hm
  · rw [htotal, hwindow, htrace.1, htrace.2]
    exact h.budget
  · intro m hm
    rw [hpacket]
    rw [hsent] at hm
    rcases List.mem_append.mp hm with hm | hm
    · exact h.packets m hm
    · rw [hdata m hm]
      exact Nat.zero_le _

theorem length_dataMessage (isextended : Bool) (remotechan : Nat) (data : Bytes) :
    (dataMessage isextended remotechan data).data = data := by
  cases isextended with
  | true => rfl
  | false => rfl

theorem readCall_room (c : Channel) (isextended : Bool) (answer : ReadAnswer) :
    (c.readCall isextended answer).data.length ≤ c.transwindow ∧
      (c.readCall isextended answer).data.length ≤ c.transmaxpacket := by
  have hlen : (c.readCall isextended answer).data.length ≤ c.maxlen isextended :=
    length_data_le answer _
  unfold Channel.maxlen at hlen
  omega

theorem Transmit.transwindow_didRead (h : Transmit c) (isextended : Bool) (answer : ReadAnswer) :
    (c.didRead (c.readCall isextended answer)).transwindow =
      c.transwindow - (c.readCall isextended answer).data.length := by
  have hroom := (readCall_room c isextended answer).1
  generalize c.readCall isextended answer = call at hroom ⊢
  by_cases hnil : call.data = []
  · have hsame : (c.didRead call).transwindow = c.transwindow := if_pos hnil
    rw [hsame, hnil, List.length_nil, Nat.sub_zero]
  · have hsub : (c.didRead call).transwindow = sub32 c.transwindow call.data.length := if_neg hnil
    rw [hsub, sub32_of_le hroom h.small]

/-- The data of one call of `read`, which both limits leave room for. -/
theorem Transmit.didRead (h : Transmit c) {isextended : Bool} {answer : ReadAnswer}
    (hmax : c.maxlen isextended ≠ 0) : Transmit (c.didRead (c.readCall isextended answer)) := by
  have hroom := readCall_room c isextended answer
  have hwindow := h.transwindow_didRead isextended answer
  generalize c.readCall isextended answer = call at hroom hwindow ⊢
  -- a channel that was not confirmed has no room
  have hopen : c.await_open = false := by
    by_contra hnot
    have hzero := (h.awaiting (by simpa using hnot)).1
    refine hmax ?_
    unfold Channel.maxlen
    omega
  have hbudget := h.budget
  by_cases hnil : call.data = []
  · have hsent : (c.didRead call).sent = c.sent ++ [] := by
      show c.sent ++ call.messages c.remotechan = c.sent ++ []
      rw [ReadCall.messages, if_pos hnil]
    exact h.append hsent (fun _ hm => absurd hm List.not_mem_nil) (if_pos hnil) rfl rfl ⟨rfl, rfl⟩
  · have hsent : (c.didRead call).sent =
        c.sent ++ [dataMessage call.isextended c.remotechan call.data] := by
      show c.sent ++ call.messages c.remotechan = _
      rw [ReadCall.messages, if_neg hnil]
    have htotal := transmitted_append hsent
    rw [List.map_singleton, List.sum_singleton, length_dataMessage] at htotal
    refine ⟨?_, ?_, ?_, ?_⟩
    · have hsmall := h.small
      omega
    · intro hawait
      rw [show c.await_open = true from hawait] at hopen
      cases hopen
    · show (c.didRead call).transmitted + (c.didRead call).transwindow ≤
        c.trace.announced + c.trace.adjusted
      omega
    · intro m hm
      rw [hsent] at hm
      rcases List.mem_append.mp hm with hm | hm
      · exact h.packets m hm
      · rw [List.mem_singleton.mp hm, length_dataMessage]
        exact hroom.2

theorem ChannelMsg.data_of_isExit {m : ChannelMsg} (h : m.isExit = true) : m.data = [] := by
  cases m with
  | exitstatus _ _ => rfl
  | exitsignal _ _ _ => rfl
  | _ => cases h

/-- **Only reading sends data**: other acts send messages without any. -/
theorem ChannelAct.messages {kind : ActKind} (h : ChannelAct opts kind c c')
    (hreads : c'.trace.reads = c.trace.reads) :
    ∃ msgs, c'.sent = c.sent ++ msgs ∧ ∀ m ∈ msgs, m.data = [] := by
  have hone : ∀ {m : ChannelMsg}, c'.sent = c.sent ++ [m] → m.data = [] →
      ∃ msgs, c'.sent = c.sent ++ msgs ∧ ∀ m ∈ msgs, m.data = [] := by
    intro m hsent hm
    refine ⟨[m], hsent, fun m' hm' => ?_⟩
    rw [List.mem_singleton.mp hm']
    exact hm
  have hclosing : ∀ m ∈ c.exitMessages ++ [.CHANNEL_CLOSE c.remotechan], m.data = [] := by
    intro m hm
    rcases List.mem_append.mp hm with hexit | hlast
    · exact ChannelMsg.data_of_isExit (isExit_exitMessages c m hexit)
    · rw [List.mem_singleton.mp hlast]
      rfl
  cases h with
  | read isextended answer hclose hfd hmax => exact absurd hreads (by simp [Channel.didRead])
  | extended _ _ => exact hone rfl rfl
  | writeErrorExtended _ _ => exact hone rfl rfl
  | connected _ _ => exact hone rfl rfl
  | connectFailed _ => exact hone rfl rfl
  | succeeded _ => exact hone rfl rfl
  | failed _ => exact hone rfl rfl
  | keptAlive _ => exact hone rfl rfl
  | sentEof _ _ => exact hone rfl rfl
  | sentClose _ _ _ _ => exact ⟨_, List.append_assoc _ _ _, hclosing⟩
  | closedRemoved _ _ _ _ _ => exact ⟨_, List.append_assoc _ _ _, hclosing⟩
  | _ => exact ⟨[], (List.append_nil _).symm, fun m hm => absurd hm List.not_mem_nil⟩

theorem ChannelAct.transmit {kind : ActKind} (h : ChannelAct opts kind c c') (ht : Transmit c) :
    Transmit c' := by
  have hmessages := h.messages
  cases h with
  | read isextended answer hclose hfd hmax => exact ht.didRead hmax
  | adjusted _ announced =>
    have hbudget := ht.budget
    have hsum : min (add32 c.transwindow (min announced TRANS_MAX_WIN_INCR)) TRANS_MAX_WINDOW ≤
        c.transwindow + announced ∧
        min (add32 c.transwindow (min announced TRANS_MAX_WIN_INCR)) TRANS_MAX_WINDOW < 2 ^ 32 := by
      have hadd : add32 c.transwindow (min announced TRANS_MAX_WIN_INCR) ≤
          c.transwindow + min announced TRANS_MAX_WIN_INCR := Nat.mod_le _ _
      simp only [TRANS_MAX_WINDOW]
      omega
    refine ⟨hsum.2, ht.awaiting, ?_, ht.packets⟩
    show c.transmitted + min (add32 c.transwindow (min announced TRANS_MAX_WIN_INCR))
      TRANS_MAX_WINDOW ≤ c.trace.announced + (c.trace.adjusted + announced)
    omega
  | confirmed remotechan transwindow transmaxpacket hawait hsmall =>
    obtain ⟨-, hnone⟩ := ht.awaiting hawait
    have hzero := transmitted_eq_zero hnone
    refine ⟨hsmall, fun hfalse => (by cases hfalse), ?_, fun m hm => ?_⟩
    · show c.transmitted + transwindow ≤ transwindow + c.trace.adjusted
      omega
    · rw [hnone m hm]
      exact Nat.zero_le _
  | refused hawait =>
    exact ⟨ht.small, fun hfalse => (by cases hfalse), ht.budget, ht.packets⟩
  | _ =>
    obtain ⟨msgs, hsent, hdata⟩ := hmessages rfl
    exact ht.append hsent hdata rfl rfl rfl ⟨rfl, rfl⟩

theorem Fresh.transmit (h : Fresh opts c) : Transmit c := by
  have hnone : ∀ m ∈ c.sent, m.data = [] := by
    intro m hm
    cases h with
    | connecting => cases hm
    | session => rw [List.mem_singleton.mp hm]; rfl
    | prohibited => rw [List.mem_singleton.mp hm]; rfl
    | outgoing => rw [List.mem_singleton.mp hm]; rfl
  have hwindow : c.transwindow ≤ c.trace.announced ∧ c.transwindow < 2 ^ 32 := by
    have hcap : ∀ announced, min announced TRANS_MAX_WINDOW ≤ announced ∧
        min announced TRANS_MAX_WINDOW < 2 ^ 32 := by
      intro announced
      simp only [TRANS_MAX_WINDOW]
      omega
    cases h with
    | session => exact hcap _
    | connecting => exact hcap _
    | prohibited => exact hcap _
    | outgoing => exact ⟨Nat.le_refl 0, Nat.two_pow_pos 32⟩
  have hzero := transmitted_eq_zero hnone
  refine ⟨hwindow.2, fun hawait => ⟨?_, hnone⟩, by omega, fun m hm => ?_⟩
  · cases h with
    | outgoing => rfl
    | session => cases hawait
    | connecting => cases hawait
    | prohibited => cases hawait
  · rw [hnone m hm]
    exact Nat.zero_le _

theorem ChannelRun.transmit (h : ChannelRun opts es c) : Transmit c :=
  (h.invariant (fun _ hfresh => hfresh.transmit) fun _ _ _ _ ht hact => hact.transmit ht).2

/-- **The peer's window is respected**: all the data sent on a channel, from both streams, is no more
than the window the peer announced and all its adjusts; no message has more than the peer's maximum,
and building one never fails. -/
theorem transmitted_within_window (h : ChannelRun opts es c) :
    (c.sent.map fun m => m.data.length).sum ≤ c.trace.announced + c.trace.adjusted ∧
      (∀ m ∈ c.sent, m.data.length ≤ c.transmaxpacket) ∧
      (∀ isextended answer e, send_msg_channel_data c isextended answer ≠ .error (.exit e)) := by
  have ht := h.transmit
  refine ⟨Nat.le_trans (Nat.le_add_right _ _) ht.budget, ht.packets, ?_⟩
  intro isextended answer e
  by_cases hclose : c.sent_close = false
  · by_cases hfd : 0 ≤ c.sourceFd isextended
    · rw [send_msg_channel_data_eq isextended answer hclose hfd]
      intro hbad
      cases hbad
    · rw [send_msg_channel_data, dropbear_assertion_true hclose, ok_bind, dropbear_assertion,
        if_neg hfd]
      intro hbad
      cases hbad
  · rw [send_msg_channel_data, dropbear_assertion, if_neg hclose]
    intro hbad
    cases hbad

/-- The peer may be sent four bytes, three at a time, and then two more. -/
def smallWindow : List ChannelEvent :=
  let ready (out : String) : ChannelEvent :=
    .io { read := some (.bytes (ascii out)), err := some (.bytes (ascii "E")), write := none
          signal := false, flush := noFlush }
  [.request (requestOf "exec" (stringOf (ascii "ls"))) plainEnv, ready "abcde", ready "de",
    .windowAdjust (messageOf (Framing.be32 2)), ready "de"]

theorem transmitted_within_window_smallWindow : ∃ c, ChannelRun tinyOpts smallWindow c ∧
    (c.sent.map fun m => m.data.length).sum = 6 ∧ c.transwindow = 0 ∧
      (c.sent.map fun m => m.data.length).sum ≤ c.trace.announced + c.trace.adjusted := by
  have hexec : (runSession tinyOpts 4 3 smallWindow).any (fun c =>
      (c.sent.map fun m => m.data.length).sum == 6 && c.transwindow == 0) = true := by
    decide +kernel
  obtain ⟨c, hc, htest⟩ := (Option.any_eq_true _ _).mp hexec
  obtain ⟨htotal, hwindow⟩ := Bool.and_eq_true_iff.mp htest
  have hrun := channelRun_of_runSession hc
  exact ⟨c, hrun, beq_iff_eq.mp htotal, beq_iff_eq.mp hwindow, (transmitted_within_window hrun).1⟩

/-! ## The cap on the window -/

/-- Only a channel that the server has opened can have a window beyond the cap, and then the peer has
announced one. -/
structure Capped (c : Channel) : Prop where
  awaiting : c.await_open = true → c.type = .svr_chan_tcpremote
  window : c.transwindow ≤ TRANS_MAX_WINDOW ∨
    c.type = .svr_chan_tcpremote ∧ c.transwindow ≤ c.trace.announced

theorem Fresh.capped (h : Fresh opts c) : Capped c := by
  cases h with
  | session => exact ⟨fun hfalse => (by cases hfalse), .inl (Nat.min_le_right _ _)⟩
  | connecting => exact ⟨fun hfalse => (by cases hfalse), .inl (Nat.min_le_right _ _)⟩
  | prohibited => exact ⟨fun hfalse => (by cases hfalse), .inl (Nat.min_le_right _ _)⟩
  | outgoing => exact ⟨fun _ => rfl, .inl (Nat.zero_le _)⟩

theorem ChannelAct.capped {kind : ActKind} (h : ChannelAct opts kind c c') (ht : Transmit c)
    (hc : Capped c) : Capped c' := by
  cases h with
  | read isextended answer hclose hfd hmax =>
    have hwindow := ht.transwindow_didRead isextended answer
    refine ⟨hc.awaiting, ?_⟩
    rcases hc.window with hcap | ⟨htype, hannounced⟩
    · exact .inl (by omega)
    · refine .inr ⟨htype, ?_⟩
      show (c.didRead (c.readCall isextended answer)).transwindow ≤ c.trace.announced
      omega
  | adjusted _ announced => exact ⟨hc.awaiting, .inl (Nat.min_le_right _ _)⟩
  | confirmed remotechan transwindow transmaxpacket hawait hsmall =>
    exact ⟨fun hfalse => (by cases hfalse), .inr ⟨hc.awaiting hawait, Nat.le_refl _⟩⟩
  | refused hawait => exact ⟨fun hfalse => (by cases hfalse), hc.window⟩
  | _ => exact ⟨hc.awaiting, hc.window⟩

theorem ChannelRun.capped (h : ChannelRun opts es c) : Capped c := by
  have hfresh : ∀ ⦃c⦄, Fresh opts c → Transmit c ∧ Capped c := fun _ hfresh =>
    ⟨hfresh.transmit, hfresh.capped⟩
  have hact : ∀ ⦃kind c c'⦄, Sound opts c → Transmit c ∧ Capped c → ChannelAct opts kind c c' →
      Transmit c' ∧ Capped c' := fun _ _ _ _ hinv hact =>
    ⟨hact.transmit hinv.1, hact.capped hinv.1 hinv.2⟩
  exact (h.invariant hfresh hact).2.2

/-- Below the cap, the sum with what an adjust adds does not wrap around. -/
theorem add32_incr (hcap : c.transwindow ≤ TRANS_MAX_WINDOW) (announced : Nat) :
    add32 c.transwindow (min announced TRANS_MAX_WIN_INCR) =
      c.transwindow + min announced TRANS_MAX_WIN_INCR := by
  have hincr : min announced TRANS_MAX_WIN_INCR ≤ TRANS_MAX_WIN_INCR := Nat.min_le_right _ _
  have hroom : TRANS_MAX_WINDOW + TRANS_MAX_WIN_INCR < 2 ^ 32 := by decide
  exact Nat.mod_eq_of_lt (by omega)

/-- **The window for sending is capped**, and an adjust never makes it smaller, on every channel that
the peer has opened; and on one that the server has opened, if the peer has confirmed it with a window
within the cap. -/
theorem transmit_window_capped (h : ChannelRun opts es c)
    (hmodest : c.type = .svr_chan_tcpremote → c.trace.announced ≤ TRANS_MAX_WINDOW) :
    c.transwindow ≤ TRANS_MAX_WINDOW ∧
      ∀ payload c', channelStep opts c (.windowAdjust payload) = .ok c' →
        c.transwindow ≤ c'.transwindow ∧
          ∃ incr rest, buf_getint payload = .ok (incr, rest) ∧
            c'.transwindow = min (c.transwindow + min incr TRANS_MAX_WIN_INCR) TRANS_MAX_WINDOW := by
  have hcap : c.transwindow ≤ TRANS_MAX_WINDOW := by
    rcases h.capped.window with hcap | ⟨htype, hannounced⟩
    · exact hcap
    · exact Nat.le_trans hannounced (hmodest htype)
  refine ⟨hcap, ?_⟩
  intro payload c' hstep
  obtain ⟨⟨incr, rest⟩, hget, hpure⟩ := bind_eq_ok.mp hstep
  have hget' := exits_eq_ok.mp hget
  rw [← (pure_eq_ok _ _).mp hpure]
  show c.transwindow ≤ min (add32 c.transwindow (min incr TRANS_MAX_WIN_INCR)) TRANS_MAX_WINDOW ∧
    ∃ incr' rest', buf_getint payload = .ok (incr', rest') ∧
      min (add32 c.transwindow (min incr TRANS_MAX_WIN_INCR)) TRANS_MAX_WINDOW =
        min (c.transwindow + min incr' TRANS_MAX_WIN_INCR) TRANS_MAX_WINDOW
  rw [add32_incr hcap]
  constructor
  · exact Nat.le_min.mpr ⟨Nat.le_add_right _ _, hcap⟩
  · exact ⟨incr, rest, hget', rfl⟩

theorem transmit_window_capped_smallWindow : ∃ c, ChannelRun tinyOpts smallWindow c ∧
    c.transwindow ≤ TRANS_MAX_WINDOW := by
  have hexec : (runSession tinyOpts 4 3 smallWindow).any (fun c =>
      c.type != .svr_chan_tcpremote) = true := by
    decide +kernel
  obtain ⟨c, hc, htest⟩ := (Option.any_eq_true _ _).mp hexec
  have hrun := channelRun_of_runSession hc
  exact ⟨c, hrun, (transmit_window_capped hrun fun htype => absurd htype (bne_iff_ne.mp htest)).1⟩

/-- The peer confirms a channel with the largest window there is. -/
def largestWindow : List ChannelEvent :=
  [.openConfirmation (messageOf (Framing.be32 7 ++ Framing.be32 (2 ^ 32 - 1) ++ Framing.be32 1000))]

/-- One more byte, and nothing may be sent any more. -/
theorem confirmed_window_wraps : ∃ c c', ChannelRun tinyOpts largestWindow c ∧
    c.transwindow = 2 ^ 32 - 1 ∧ TRANS_MAX_WINDOW < c.transwindow ∧
      channelStep tinyOpts c (.windowAdjust (messageOf (Framing.be32 1))) = .ok c' ∧
      c'.transwindow = 0 := by
  have hexec : (runForwarded tinyOpts 5 largestWindow).any (fun c => c.transwindow == 2 ^ 32 - 1 &&
      (channelStep tinyOpts c (.windowAdjust (messageOf (Framing.be32 1)))).toOption.any
        (fun c' => c'.transwindow == 0)) = true := by
    decide +kernel
  obtain ⟨c, hc, htest⟩ := (Option.any_eq_true _ _).mp hexec
  obtain ⟨hwindow, hadjust⟩ := Bool.and_eq_true_iff.mp htest
  obtain ⟨c', hc', hzero⟩ := (Option.any_eq_true _ _).mp hadjust
  have hlarge : c.transwindow = 2 ^ 32 - 1 := beq_iff_eq.mp hwindow
  refine ⟨c, c', channelRun_of_runForwarded hc, hlarge, ?_, toOption_eq_some hc', beq_iff_eq.mp hzero⟩
  rw [hlarge]
  decide

end SimpleSshd.Dropbear
