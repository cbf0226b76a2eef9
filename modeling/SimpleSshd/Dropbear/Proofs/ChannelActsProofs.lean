import SimpleSshd.Dropbear.ChannelRun
import SimpleSshd.Dropbear.Proofs.BufferBoundsProofs
import SimpleSshd.Dropbear.Proofs.CircBufferProofs
import Mathlib.Logic.Relation

/-!
# Proofs: what can happen to a channel

Whatever a channel does is made of a few kinds of acts: a message is sent, a descriptor is closed, a
piece of the ring is written. `ChannelAct` lists them with the conditions under which they happen.
Every event is a sequence of acts, so what every act preserves holds along every run.
-/

namespace SimpleSshd.Dropbear

open Fallible
open Wire (add32 sub32 add32_of_lt sub32_of_le)

variable {opts : Opts} {c c' c'' : Channel} {contents : Bytes}

/-! ## Parts of acts -/

/-- Writing to `writefd` failed. -/
def Channel.writeError (c : Channel) : Channel :=
  close_chan_fd { c with trace := { c.trace with writeFailed := true } } c.writefd .SHUT_WR

/-- What has been written is granted again. -/
def Channel.extended (c : Channel) : Channel :=
  { c.submit (.CHANNEL_WINDOW_ADJUST c.remotechan c.recvdonelen) with
    recvwindow := add32 c.recvwindow c.recvdonelen
    recvdonelen := 0 }

/-- The call of `read` that a channel makes. -/
def Channel.readCall (c : Channel) (isextended : Bool) (answer : ReadAnswer) : ReadCall where
  isextended := isextended
  maxlen := c.maxlen isextended
  answer := answer
  flushing := c.flushing

/-- The bytes that were read. -/
def ReadCall.data (call : ReadCall) : Bytes := call.answer.data call.maxlen

/-- The descriptor that was read from is closed if the call says so. -/
def Channel.afterCall (c : Channel) (call : ReadCall) : Channel :=
  if call.ends then close_chan_fd c (c.sourceFd call.isextended) .SHUT_RD else c

/-- The message with the bytes that were read. -/
def ReadCall.messages (call : ReadCall) (remotechan : Nat) : List ChannelMsg :=
  if call.data = [] then [] else [dataMessage call.isextended remotechan call.data]

/-- The call is noted, what it got is sent and charged to the peer's window, and the descriptor is
closed if this was the end. -/
def Channel.didRead (c : Channel) (call : ReadCall) : Channel :=
  { c with
    readfd := (c.afterCall call).readfd
    writefd := (c.afterCall call).writefd
    errfd := (c.afterCall call).errfd
    transwindow := if call.data = [] then c.transwindow else sub32 c.transwindow call.data.length
    sent := c.sent ++ call.messages c.remotechan
    trace := { c.trace with reads := c.trace.reads ++ [call] } }

/-- How a process ended, for the peer. A signal without a name is not reported. -/
def ExitStatus.messages (remotechan : Nat) : ExitStatus → List ChannelMsg
  | .exitstatus status => [.exitstatus remotechan status]
  | .exitsignal signal core =>
    match signames.lookup signal with
    | none => []
    | some signame => [.exitsignal remotechan signame core]

/-- How the process of a session ended. -/
def Channel.exitMessages (c : Channel) : List ChannelMsg :=
  if c.type.closehandler then
    match c.exit with
    | none => []
    | some info => info.status.messages c.remotechan
  else []

/-- The exit status, if there is one, then `CHANNEL_CLOSE`; and no descriptor is left. -/
def Channel.closed (c : Channel) : Channel :=
  { c with
    readfd := FD_CLOSED
    writefd := FD_CLOSED
    errfd := FD_CLOSED
    sent := c.sent ++ c.exitMessages ++ [.CHANNEL_CLOSE c.remotechan]
    sent_eof := true
    sent_close := true }

/-! ## Acts -/

/-- Why an act happens: because of the descriptors of the channel or because it is closing; because of
another message or a connection; because data arrives; because of a request; or because a child has
exited. -/
inductive ActKind
  | io
  | peer
  | data
  | request
  | exit
  deriving DecidableEq

/-- One thing that happens to a channel. -/
inductive ChannelAct (opts : Opts) : ActKind → Channel → Channel → Prop
  -- the peer sends no more
  | recvEof (c : Channel) : ChannelAct opts .io c { c with recv_eof := true }
  | recvClose (c : Channel) : ChannelAct opts .io c { c with recv_eof := true, recv_close := true }
  -- writing to the local side
  | wrote {c : Channel} (writebuf : Circbuffer) (accepted : Bytes) (hopen : 0 ≤ c.writefd)
      (h : ∀ contents, c.writebuf.Holds opts.recv_window contents →
        accepted <+: contents ∧
          writebuf.Holds opts.recv_window (contents.drop accepted.length)) :
      ChannelAct opts .io c { c with
        writebuf := writebuf
        recvdonelen := add32 c.recvdonelen accepted.length
        trace := { c.trace with written := c.trace.written ++ accepted } }
  | writeError {c : Channel} (hopen : 0 ≤ c.writefd) : ChannelAct opts .io c c.writeError
  | extended {c : Channel} (hopen : 0 ≤ c.writefd) (h : RECV_WINDOWEXTEND opts ≤ c.recvdonelen) :
      ChannelAct opts .io c c.extended
  | writeErrorExtended {c : Channel} (hopen : 0 ≤ c.writefd)
      (h : RECV_WINDOWEXTEND opts ≤ c.recvdonelen) : ChannelAct opts .io c c.writeError.extended
  -- reading from it
  | read {c : Channel} (isextended : Bool) (answer : ReadAnswer) (hclose : c.sent_close = false)
      (hfd : 0 ≤ c.sourceFd isextended) (hmax : c.maxlen isextended ≠ 0) :
      ChannelAct opts .io c (c.didRead (c.readCall isextended answer))
  -- closing
  | flushing {c : Channel} (hclose : c.sent_close = false) (h : c.exited = true) :
      ChannelAct opts .io c { c with flushing := true }
  | closedInput {c : Channel} (hidle : c.trace.inflight = [])
      (h : c.recv_eof = true ∧ write_pending c = false ∨
        c.type.check_close = true ∧ c.closeAllowed = true) :
      ChannelAct opts .io c (close_chan_fd c c.writefd .SHUT_WR)
  | sentEof {c : Channel} (heof : c.sent_eof = false) (h : c.readClosed = true) :
      ChannelAct opts .io c (send_msg_channel_eof c)
  | sentClose {c : Channel} (hclose : c.sent_close = false) (hallowed : c.closeAllowed = true)
      (hread : c.readClosed = true) (hwrite : c.writefd = FD_CLOSED) :
      ChannelAct opts .io c c.closed
  | closedRemoved {c : Channel} (hidle : c.trace.inflight = []) (hrecv : c.recv_close = true)
      (hclose : c.sent_close = false) (hallowed : c.closeAllowed = true)
      (hdone : write_pending c = false) :
      ChannelAct opts .io c (remove_channel c.closed)
  | removed {c : Channel} (hidle : c.trace.inflight = []) (hrecv : c.recv_close = true)
      (hclose : c.sent_close = true) (hdone : write_pending c = false) :
      ChannelAct opts .io c (remove_channel c)
  -- other messages of the peer
  | adjusted (c : Channel) (announced : Nat) : ChannelAct opts .peer c { c with
      transwindow := min (add32 c.transwindow (min announced TRANS_MAX_WIN_INCR)) TRANS_MAX_WINDOW
      trace := { c.trace with adjusted := c.trace.adjusted + announced } }
  | confirmed {c : Channel} (remotechan transwindow transmaxpacket : Nat) (h : c.await_open = true)
      (hsmall : transwindow < 2 ^ 32) :
      ChannelAct opts .peer c { c with
        await_open := false
        remotechan := remotechan
        transwindow := transwindow
        transmaxpacket := transmaxpacket
        trace := { c.trace with announced := transwindow } }
  | refused {c : Channel} (h : c.await_open = true) :
      ChannelAct opts .peer c (remove_channel { c with
        await_open := false
        trace := { c.trace with refused := true } })
  | connected {c : Channel} (sock : Nat) (h : c.conn_pending = true) :
      ChannelAct opts .peer c (channel_connect_done c (some sock))
  | connectFailed {c : Channel} (h : c.conn_pending = true) :
      ChannelAct opts .peer c (channel_connect_done c none)
  | keptAlive {c : Channel} (h : c.isReady = true) : ChannelAct opts .peer c c.keepalive
  -- sessions
  | session {c : Channel} (old new : ChanSess) (h : c.chansess = some old) (hcmd : new.cmd = old.cmd)
      (hpid : new.pid = old.pid) (hexit : new.exit = old.exit) :
      ChannelAct opts .request c { c with chansess := some new }
  | started {c : Channel} (old : ChanSess) (requested : Option Bytes) (env : RequestEnv)
      (spawn : Spawned) (chansess : ChanSess) (h : c.chansess = some old)
      (htype : c.type = .svrchansess) (hfree : old.cmd = none) (hspawn : env.spawn = some spawn)
      (hchansess : chansess = forceCommand opts env.pubkey_options { old with cmd := requested })
      (hterm : chansess.term = none) :
      ChannelAct opts .request c
        (c.startedOn chansess spawn.pid false spawn.infd spawn.outfd spawn.errfd)
  | startedPty {c : Channel} (old : ChanSess) (requested : Option Bytes) (env : RequestEnv)
      (spawn : Spawned) (chansess : ChanSess) (h : c.chansess = some old)
      (htype : c.type = .svrchansess) (hfree : old.cmd = none) (hspawn : env.spawn = some spawn)
      (hchansess : chansess = forceCommand opts env.pubkey_options { old with cmd := requested })
      (hmaster : chansess.master ≠ -1) :
      ChannelAct opts .request c
        (c.startedOn chansess spawn.pid true chansess.master chansess.master c.errfd)
  | exited {c : Channel} (info : ExitInfo) (h : info.exitpid ∈ c.trace.started.map Started.pid) :
      ChannelAct opts .exit c (c.recordExit info)
  | succeeded {c : Channel} (h : c.sent_close = false) :
      ChannelAct opts .request c (c.submit (.CHANNEL_SUCCESS c.remotechan))
  | failed {c : Channel} (h : c.sent_close = false) :
      ChannelAct opts .request c (c.submit (.CHANNEL_FAILURE c.remotechan))
  -- data of the peer: it is charged to the window, and then kept in the ring or, if writing has just
  -- failed, lost
  | dropped {c : Channel} (payload : Buffer) (h : c.writefd < 0) :
      ChannelAct opts .data c (c.arrived payload)
  | charged {c : Channel} (payload : Buffer) (hidle : c.trace.inflight = []) (hopen : 0 ≤ c.writefd)
      (hwindow : dataLength payload ≤ c.recvwindow)
      (hlen : (messageData payload).length = dataLength payload) :
      ChannelAct opts .data c
        ((c.arrived payload).charge (dataLength payload) (messageData payload))
  | kept {c : Channel} (writebuf : Circbuffer) (hopen : 0 ≤ c.writefd)
      (h : ∀ contents, c.writebuf.Holds opts.recv_window contents →
        contents.length + c.trace.inflight.length ≤ opts.recv_window →
        writebuf.Holds opts.recv_window (contents ++ c.trace.inflight)) :
      ChannelAct opts .data c
        { c with writebuf := writebuf, trace := { c.trace with inflight := [] } }
  | lost {c : Channel} (hfailed : c.trace.writeFailed = true) (hclosed : c.writefd < 0) :
      ChannelAct opts .data c { c with trace := { c.trace with inflight := [] } }

/-- A sequence of acts of one kind. -/
abbrev ActsOf (opts : Opts) (kind : ActKind) : Channel → Channel → Prop :=
  Relation.ReflTransGen (ChannelAct opts kind)

/-- A sequence of acts. -/
abbrev ChannelActs (opts : Opts) : Channel → Channel → Prop :=
  Relation.ReflTransGen fun c c' => ∃ kind, ChannelAct opts kind c c'

theorem ActsOf.acts {kind : ActKind} (h : ActsOf opts kind c c') : ChannelActs opts c c' :=
  Relation.ReflTransGen.mono (fun _ _ hact => ⟨kind, hact⟩) _ _ h

theorem FD_UNINIT_neg : FD_UNINIT < 0 := by decide

theorem FD_CLOSED_neg : FD_CLOSED < 0 := by decide

/-! ## The functions of the source in terms of these parts -/

/-- `writefd` is only closed by its own number. -/
theorem close_chan_fd_writefd (c : Channel) (fd : Int) (how : How) :
    (close_chan_fd c fd how).writefd = c.writefd ∨
      (close_chan_fd c fd how).writefd = FD_CLOSED ∧ fd = c.writefd ∧
        (c.type.sepfds = false ∨ how ≠ .SHUT_RD) := by
  unfold close_chan_fd
  dsimp only
  split
  · rename_i h
    simp only [Bool.and_eq_true, Bool.or_eq_true, Bool.not_eq_true', beq_iff_eq, bne_iff_ne] at h
    exact .inr ⟨rfl, h.2, h.1⟩
  · exact .inl rfl

theorem close_chan_fd_readfd (c : Channel) (fd : Int) (how : How) :
    (close_chan_fd c fd how).readfd = c.readfd ∨
      (close_chan_fd c fd how).readfd = FD_CLOSED ∧ fd = c.readfd ∧
        (c.type.sepfds = false ∨ how = .SHUT_RD) := by
  unfold close_chan_fd
  dsimp only
  split
  · rename_i h
    simp only [Bool.and_eq_true, Bool.or_eq_true, Bool.not_eq_true', beq_iff_eq] at h
    exact .inr ⟨rfl, h.2, h.1⟩
  · exact .inl rfl

theorem close_chan_fd_errfd (c : Channel) (fd : Int) (how : How) :
    (close_chan_fd c fd how).errfd = c.errfd ∨
      (close_chan_fd c fd how).errfd = FD_CLOSED ∧ fd = c.errfd ∧
        (c.type.sepfds = false ∨ how = .SHUT_RD) := by
  unfold close_chan_fd
  dsimp only
  split
  · rename_i h
    simp only [Bool.and_eq_true, Bool.or_eq_true, Bool.not_eq_true', beq_iff_eq] at h
    exact .inr ⟨rfl, h.2, h.1⟩
  · exact .inl rfl

theorem data_eq_nil_of_failed {answer : ReadAnswer} {maxlen : Nat}
    (h : answer.failed maxlen = true) : answer.data maxlen = [] := by
  cases answer with
  | bytes bs => exact of_decide_eq_true h
  | EINTR => rfl
  | EAGAIN => rfl
  | error => rfl

theorem sendData_eq (c : Channel) (isextended : Bool) (maxlen : Nat) (data : Bytes) :
    c.sendData isextended maxlen data =
      { (if c.flushing && decide (data.length < maxlen) then
          close_chan_fd c (c.sourceFd isextended) .SHUT_RD else c) with
        transwindow := sub32 c.transwindow data.length
        sent := c.sent ++ [dataMessage isextended c.remotechan data] } := by
  by_cases hshort : (c.flushing && decide (data.length < maxlen)) = true
  · rw [if_pos hshort]
    exact (if_pos hshort).trans rfl
  · rw [if_neg hshort]
    exact (if_neg hshort).trans rfl

theorem afterRead_eq (c : Channel) (isextended : Bool) (answer : ReadAnswer) :
    c.afterRead isextended answer = c.didRead (c.readCall isextended answer) := by
  obtain ⟨call, hcall⟩ : ∃ call, call = c.readCall isextended answer := ⟨_, rfl⟩
  have hdef : c.afterRead isextended answer =
      if call.answer.failed call.maxlen then
        close_chan_fd (c.noteRead isextended answer) (c.sourceFd isextended) .SHUT_RD
      else if call.data = [] then c.noteRead isextended answer
      else (c.noteRead isextended answer).sendData isextended call.maxlen call.data := by
    rw [hcall]
    rfl
  rw [hdef, ← hcall, Channel.didRead, ReadCall.messages, Channel.afterCall]
  by_cases hfailed : call.answer.failed call.maxlen = true
  · have hdata : call.data = [] := data_eq_nil_of_failed hfailed
    have hends : call.ends = true := by rw [ReadCall.ends, hfailed, Bool.true_or]
    rw [if_pos hfailed, if_pos hdata, if_pos hends, if_pos hdata, List.append_nil, hcall]
    rfl
  · rw [if_neg hfailed]
    by_cases hdata : call.data = []
    · have hends : ¬ call.ends = true := by
        have hnil : call.answer.data call.maxlen = [] := hdata
        simp [ReadCall.ends, hfailed, hnil]
      rw [if_pos hdata, if_pos hdata, if_neg hends, if_pos hdata, List.append_nil, hcall]
      rfl
    · have hends : call.ends = (c.flushing && decide (call.data.length < call.maxlen)) := by
        have hsome : (call.answer.data call.maxlen != []) = true := bne_iff_ne.mpr hdata
        rw [ReadCall.ends, Bool.eq_false_iff.mpr hfailed, hsome, Bool.false_or, Bool.and_true, hcall]
        rfl
      have hflush : (c.noteRead isextended answer).flushing = c.flushing := rfl
      rw [if_neg hdata, if_neg hdata, hends, if_neg hdata, sendData_eq, hflush, hcall]
      by_cases hshort : (c.flushing && decide ((c.readCall isextended answer).data.length <
          (c.readCall isextended answer).maxlen)) = true
      · rw [if_pos hshort, if_pos hshort]
        rfl
      · rw [if_neg hshort, if_neg hshort]
        rfl

/-- The message says how the process of a session ended. -/
def ChannelMsg.isExit : ChannelMsg → Bool
  | .exitstatus _ _ => true
  | .exitsignal _ _ _ => true
  | _ => false

theorem ExitStatus.isExit_messages (status : ExitStatus) (remotechan : Nat) :
    ∀ m ∈ status.messages remotechan, m.isExit = true := by
  cases status with
  | exitstatus status => simp [ExitStatus.messages, ChannelMsg.isExit]
  | exitsignal signal core =>
    simp only [ExitStatus.messages]
    cases signames.lookup signal with
    | none => simp
    | some signame => simp [ChannelMsg.isExit]

theorem isExit_exitMessages (c : Channel) : ∀ m ∈ c.exitMessages, m.isExit = true := by
  unfold Channel.exitMessages
  split
  · split
    · simp
    · exact ExitStatus.isExit_messages _ _
  · simp

theorem closechansess_eq (c : Channel) : closechansess c = { c with
    sent := c.sent ++ match c.exit with
      | none => []
      | some info => info.status.messages c.remotechan } := by
  unfold closechansess
  cases hexit : c.exit with
  | none => rw [List.append_nil]
  | some info =>
    obtain ⟨exitpid, status⟩ := info
    cases status with
    | exitstatus status => rfl
    | exitsignal signal core =>
      unfold ExitStatus.messages
      dsimp only
      cases hname : signames.lookup signal with
      | none => rw [List.append_nil]
      | some signame => rfl

theorem closehandler_eq (c : Channel) :
    (if c.type.closehandler then closechansess c else c) =
      { c with sent := c.sent ++ c.exitMessages } := by
  unfold Channel.exitMessages
  split
  · exact closechansess_eq c
  · rw [List.append_nil]

/-- Closing one descriptor after the other closes those for the two directions. -/
theorem close_all_eq (c : Channel) : ∃ errfd,
    (let c₁ := close_chan_fd c c.readfd .SHUT_RD
      let c₂ := close_chan_fd c₁ c₁.errfd .SHUT_RDWR
      close_chan_fd c₂ c₂.writefd .SHUT_WR) =
        { c with readfd := FD_CLOSED, writefd := FD_CLOSED, errfd := errfd } ∧
      (errfd = c.errfd ∨ errfd = FD_CLOSED) := by
  cases hsep : c.type.sepfds with
  | true =>
    refine ⟨if c.readfd = c.errfd then FD_CLOSED else c.errfd, ?_, ?_⟩
    · simp [close_chan_fd, hsep]
    · split
      · exact .inr rfl
      · exact .inl rfl
  | false =>
    refine ⟨FD_CLOSED, ?_, .inr rfl⟩
    simp [close_chan_fd, hsep]

theorem send_msg_channel_close_eq (c : Channel) : ∃ errfd,
    send_msg_channel_close c = { c.closed with errfd := errfd } ∧
      (errfd = c.errfd ∨ errfd = FD_CLOSED) := by
  obtain ⟨errfd, heq, herrfd⟩ := close_all_eq
    { c with
      sent := c.sent ++ c.exitMessages ++ [.CHANNEL_CLOSE c.remotechan]
      sent_eof := true
      sent_close := true }
  refine ⟨errfd, ?_, herrfd⟩
  simp only [send_msg_channel_close, closehandler_eq]
  exact heq

theorem extendWindow_eq (opts : Opts) (c : Channel) :
    c.extendWindow opts = if RECV_WINDOWEXTEND opts ≤ c.recvdonelen then c.extended else c := rfl

theorem forceCommand_exit (pubkey_options : Option PubKeyOptions) (chansess : ChanSess) :
    (forceCommand opts pubkey_options chansess).exit = chansess.exit := by
  unfold forceCommand
  split
  · rfl
  · unfold svr_pubkey_set_forced_command
    split
    · rfl
    · rfl

namespace ChannelAct

variable {kind : ActKind}

/-- Data is taken in only when it arrives. -/
theorem inflight_eq (h : ChannelAct opts kind c c') (hkind : kind ≠ .data) :
    c'.trace.inflight = c.trace.inflight := by
  cases h with
  | charged => exact absurd rfl hkind
  | kept => exact absurd rfl hkind
  | lost => exact absurd rfl hkind
  | _ => rfl

/-- Processes are started only by requests. -/
theorem started_eq (h : ChannelAct opts kind c c') (hkind : kind ≠ .request) :
    c'.trace.started = c.trace.started := by
  cases h with
  | started => exact absurd rfl hkind
  | startedPty => exact absurd rfl hkind
  | _ => rfl

theorem type_eq (h : ChannelAct opts kind c c') : c'.type = c.type := by
  cases h <;> rfl

theorem sent_close_mono (h : ChannelAct opts kind c c') (hsent : c.sent_close = true) :
    c'.sent_close = true := by
  cases h with
  | sentClose => rfl
  | closedRemoved => rfl
  | _ => exact hsent

/-- Only the exit of a child changes what is recorded. -/
theorem exit_eq (h : ChannelAct opts kind c c') (hkind : kind ≠ .exit) : c'.exit = c.exit := by
  have hsession : ∀ {old new : ChanSess}, c.chansess = some old → new.exit = old.exit →
      new.exit = c.exit := by
    intro old new hold hsame
    rw [hsame, Channel.exit, hold]
    rfl
  cases h with
  | session old new hold hcmd hpid hsame => exact hsession hold hsame
  | started old requested env spawn chansess hold htype hfree hspawn hchansess hterm =>
    rw [hchansess]
    exact hsession hold (forceCommand_exit _ _)
  | startedPty old requested env spawn chansess hold htype hfree hspawn hchansess hmaster =>
    rw [hchansess]
    exact hsession hold (forceCommand_exit _ _)
  | exited => exact absurd rfl hkind
  | _ => rfl

/-- A recorded exit is not forgotten. -/
theorem exit_mono (h : ChannelAct opts kind c c') (hexit : c.exit.isSome = true) :
    c'.exit.isSome = true := by
  by_cases hkind : kind = .exit
  · subst hkind
    cases h with
    | exited info _ =>
      obtain ⟨info', hinfo'⟩ := Option.isSome_iff_exists.mp hexit
      obtain ⟨old, hold, -⟩ := Option.bind_eq_some_iff.mp hinfo'
      rw [Channel.exit, Channel.recordExit, hold]
      rfl
  · rw [h.exit_eq hkind]
    exact hexit

theorem exited_mono (h : ChannelAct opts kind c c') (hexited : c.exited = true) : c'.exited = true := by
  obtain ⟨htype, hexit⟩ := Bool.and_eq_true_iff.mp hexited
  exact Bool.and_eq_true_iff.mpr ⟨h.type_eq ▸ htype, h.exit_mono hexit⟩

/-- A channel that may be closed may be closed ever after. -/
theorem closeAllowed_mono (h : ChannelAct opts kind c c') (hallowed : c.closeAllowed = true) :
    c'.closeAllowed = true := by
  unfold Channel.closeAllowed at hallowed ⊢
  simp only [Bool.or_eq_true, Bool.not_eq_true'] at hallowed ⊢
  rcases hallowed with (htype | hsent) | hexited
  · exact .inl (.inl (h.type_eq ▸ htype))
  · exact .inl (.inr (h.sent_close_mono hsent))
  · exact .inr (h.exited_mono hexited)

end ChannelAct

/-- **Invariant rule** for acts. -/
theorem ChannelActs.invariant {inv : Channel → Prop}
    (hact : ∀ ⦃kind c c'⦄, inv c → ChannelAct opts kind c c' → inv c') (h : ChannelActs opts c c')
    (h0 : inv c) : inv c' := by
  induction h with
  | refl => exact h0
  | tail _ hstep ih =>
    obtain ⟨kind, hact'⟩ := hstep
    exact hact ih hact'

theorem ActsOf.inflight {kind : ActKind} (hkind : kind ≠ .data) (h : ActsOf opts kind c c') :
    c'.trace.inflight = c.trace.inflight := by
  induction h with
  | refl => rfl
  | tail _ hact ih => exact (hact.inflight_eq hkind).trans ih

theorem ActsOf.closeAllowed {kind : ActKind} (h : ActsOf opts kind c c')
    (hallowed : c.closeAllowed = true) : c'.closeAllowed = true := by
  induction h with
  | refl => exact hallowed
  | tail _ hact ih => exact hact.closeAllowed_mono ih

/-! ## How an event can end the process -/

/-- The texts with which the process exits because of a message that is malformed or not in its
place. -/
def peerErrors : List String :=
  ["Bad buf_getptr", "Bad buf_incrpos", "Bad buf_getbyte", "String too long",
    "Received data after eof", "Unexpected channel reply", "Bad term mode string",
    "Multiple pty requests"]

/-- One of these texts. -/
def PeerError (e : Exit) : Prop := ∃ msg ∈ peerErrors, e = .dropbear_exit msg

inductive PeerExit : Abort → Prop
  | mk (e : Exit) (h : PeerError e) : PeerExit (.exit e)

/-- A read from a descriptor of a channel whose `CHANNEL_CLOSE` was sent. -/
inductive SendAbort (opts : Opts) (c : Channel) : Abort → Prop
  | mk (c₁ : Channel) (isextended : Bool) (hacts : ActsOf opts .io c c₁)
      (hclose : c₁.sent_close = true) (hfd : 0 ≤ c₁.sourceFd isextended) :
      SendAbort opts c (.assertion .sendDataClosed)

theorem SendAbort.of_acts {a : Abort} (hacts : ActsOf opts .io c c') (h : SendAbort opts c' a) :
    SendAbort opts c a := by
  obtain ⟨c₁, isextended, hacts₁, hclose, hfd⟩ := h
  exact ⟨c₁, isextended, hacts.trans hacts₁, hclose, hfd⟩

/-- The exit of an event. -/
inductive EventAbort (opts : Opts) (c : Channel) : ChannelEvent → Abort → Prop
  | peer {e : ChannelEvent} {a : Abort} (h : PeerExit a) : EventAbort opts c e a
  | send {e : ChannelEvent} {a : Abort} (h : SendAbort opts c a) : EventAbort opts c e a
  | oversized {payload : Buffer} {answer : WriteAnswer}
      (h : cbuf_getavail c.writebuf < dataLength payload) :
      EventAbort opts c (.data payload answer) (.exit (.dropbear_exit "Oversized packet"))
  | window {payload : Buffer} {answer : WriteAnswer} (h : c.recvwindow < dataLength payload) :
      EventAbort opts c (.data payload answer) (.assertion .recvDataWindow)
  | chansess {payload : Buffer} {env : RequestEnv} (htype : c.type = .svrchansess)
      (h : c.chansess = none) :
      EventAbort opts c (.request payload env) (.assertion .requestChansess)

/-! ### Reading a message -/

theorem exits_meets {α : Type} {x : Except Exit α} {post : α → Prop} (h : Meets x PeerError post) :
    Meets (exits x) PeerExit post := by
  cases x with
  | ok a => exact h
  | error e => exact ⟨e, h⟩

theorem buf_getptr_meets (b : Buffer) (n : Nat) :
    Meets (buf_getptr b n) PeerError fun s => n ≤ b.rest.length ∧ s = b.rest.take n := by
  cases h : buf_getptr b n with
  | ok s => exact buf_getptr_ok.mp h
  | error e =>
    unfold buf_getptr at h
    split at h
    · cases h
      exact ⟨"Bad buf_getptr", by decide, rfl⟩
    · cases h

theorem buf_incrpos_meets (b : Buffer) (n : Int) :
    Meets (buf_incrpos b n) PeerError fun b' => buf_incrpos b n = .ok b' := by
  cases h : buf_incrpos b n with
  | ok b' => exact rfl
  | error e =>
    unfold buf_incrpos at h
    split at h
    · cases h
      exact ⟨"Bad buf_incrpos", by decide, rfl⟩
    · cases h

theorem buf_getint_meets (b : Buffer) :
    Meets (buf_getint b) PeerError fun r =>
      4 ≤ b.rest.length ∧ r.1 = Framing.ofBytes (b.rest.take 4) ∧ Buffer.Advanced b 4 r.2 := by
  refine (buf_getptr_meets b 4).bind fun s hs => ?_
  refine (buf_incrpos_meets b 4).bind fun b' hb' => ?_
  refine buf_getint_ok.mp ?_
  rw [buf_getint, buf_getptr_ok.mpr hs, ok_bind, hb']
  rfl

theorem buf_getstring_meets (b : Buffer) : Meets (buf_getstring b) PeerError fun _ => True := by
  refine (buf_getint_meets b).bind fun r _ => ?_
  dsimp only
  split
  · exact ⟨"String too long", by decide, rfl⟩
  · refine (buf_getptr_meets r.2 r.1).bind fun s _ => ?_
    exact (buf_incrpos_meets r.2 (toInt32 r.1)).bind fun _ _ => trivial

theorem buf_eatstring_meets (b : Buffer) : Meets (buf_eatstring b) PeerError fun _ => True := by
  refine (buf_getint_meets b).bind fun r _ => ?_
  exact (buf_incrpos_meets r.2 (toInt32 r.1)).imp (fun _ h => h) fun _ _ => trivial

theorem buf_getbool_meets (b : Buffer) : Meets (buf_getbool b) PeerError fun _ => True := by
  have hbyte : Meets (buf_getbyte b) PeerError fun _ => True := by
    unfold buf_getbyte
    split
    · exact ⟨"Bad buf_getbyte", by decide, rfl⟩
    · trivial
  exact hbyte.bind fun _ _ => trivial

/-! ## Sending data -/

/-- How much stands before the data of a message. -/
def headerLength (isextended : Bool) : Nat := 1 + 4 + (if isextended then 4 else 0) + 4

/-- `buf_putint` at the end of what was written. -/
theorem buf_putint_append_is {b : Buffer} {d : Bytes} {l : Nat} (n : Nat) (hb : b.Is d l l)
    (h : l + 4 ≤ d.length) :
    ∃ b' d', buf_putint b n = .ok b' ∧ b'.Is d' (l + 4) (l + 4) ∧ d'.length = d.length := by
  have hbytes : (Framing.be32 n).length = 4 := rfl
  have hput := buf_putbytes_is (Framing.be32 n) hb (by rw [hbytes]; exact h)
  rw [hbytes, Nat.max_eq_right (Nat.le_add_right l 4)] at hput
  obtain ⟨b', hok, hb'⟩ := hput
  exact ⟨b', _, hok, hb', Overwrite.length_overwrite (by rw [hbytes]; exact h)⟩

theorem putExttype_is {b : Buffer} {d : Bytes} {l : Nat} (isextended : Bool) (hb : b.Is d l l)
    (h : l + 4 ≤ d.length) : ∃ b' d', putExttype isextended b = .ok b' ∧
      b'.Is d' (l + (if isextended then 4 else 0)) (l + (if isextended then 4 else 0)) ∧
      d'.length = d.length := by
  cases isextended with
  | false => exact ⟨b, d, rfl, hb, rfl⟩
  | true => exact buf_putint_append_is SSH_EXTENDED_DATA_STDERR hb h

/-- The header always fits. -/
theorem dataHeader_is (isextended : Bool) (remotechan : Nat) :
    ∃ b d, dataHeader isextended remotechan = .ok (b, headerLength isextended - 4) ∧
      b.Is d (headerLength isextended) (headerLength isextended) ∧
      d.length = TRANS_MAX_PAYLOAD_LEN := by
  have hmax : TRANS_MAX_PAYLOAD_LEN = 16384 := rfl
  obtain ⟨b₀, hnew, hb₀⟩ := buf_new_is (n := TRANS_MAX_PAYLOAD_LEN) (by decide)
  have hlen₀ : (List.replicate TRANS_MAX_PAYLOAD_LEN (0 : UInt8)).length = TRANS_MAX_PAYLOAD_LEN :=
    List.length_replicate
  obtain ⟨b₁, hbyte, hb₁⟩ := buf_putbyte_append_is hb₀ (by rw [hlen₀]; decide)
    (if isextended then SSH_MSG_CHANNEL_EXTENDED_DATA else SSH_MSG_CHANNEL_DATA)
  have hlen₁ : (Overwrite.overwrite (List.replicate TRANS_MAX_PAYLOAD_LEN (0 : UInt8)) 0
      [if isextended then SSH_MSG_CHANNEL_EXTENDED_DATA else SSH_MSG_CHANNEL_DATA]).length =
      TRANS_MAX_PAYLOAD_LEN :=
    (Overwrite.length_overwrite (by rw [hlen₀, List.length_singleton]; decide)).trans hlen₀
  obtain ⟨b₂, d₂, hchan, hb₂, hlen₂⟩ := buf_putint_append_is remotechan hb₁ (by rw [hlen₁]; decide)
  obtain ⟨b₃, d₃, hext, hb₃, hlen₃⟩ := putExttype_is isextended hb₂ (by omega)
  obtain ⟨b₄, d₄, hsize, hb₄, hlen₄⟩ := buf_putint_append_is 0 hb₃ (by split <;> omega)
  have hpos : b₃.pos = headerLength isextended - 4 := by
    rw [hb₃.pos_eq, headerLength, Nat.add_sub_cancel]
  have hlength : 0 + 1 + 4 + (if isextended = true then 4 else 0) + 4 = headerLength isextended := by
    unfold headerLength
    omega
  rw [hlength] at hb₄
  refine ⟨b₄, d₄, ?_, hb₄, by omega⟩
  simp only [dataHeader, hnew, hbyte, hchan, hext, hsize, ok_bind, hpos]
  rfl

/-- So does the data that `maxlen` leaves room for. -/
theorem putData_ok {b : Buffer} {d : Bytes} {l size_pos : Nat} (data : Bytes) (hb : b.Is d l l)
    (hpos : size_pos + 4 ≤ l) (h : l + data.length ≤ d.length) :
    putData b size_pos data = .ok () := by
  unfold putData
  split
  · rfl
  · obtain ⟨b₁, hstore, hb₁⟩ := store_is data hb h
    have hlen := Overwrite.length_overwrite h
    obtain ⟨b₂, hincr, hb₂⟩ := buf_incrwritepos_is hb₁ (n := data.length) (by rw [hlen]; exact h)
    obtain ⟨b₃, hset, hb₃⟩ := buf_setpos_is hb₂ (n := size_pos) (by omega)
    have hbytes : (Framing.be32 data.length).length = 4 := rfl
    obtain ⟨b₄, hput, -⟩ := buf_putbytes_is (Framing.be32 data.length) hb₃ (by
      rw [hbytes, hlen]
      omega)
    have hputint : buf_putint b₃ data.length = .ok b₄ := hput
    simp only [dataPayload, hstore, hincr, hset, hputint, ok_bind]
    rfl

theorem length_data_le (answer : ReadAnswer) (maxlen : Nat) :
    (answer.data maxlen).length ≤ maxlen := by
  cases answer with
  | bytes bs => exact List.length_take_le _ _
  | EINTR => exact Nat.zero_le _
  | EAGAIN => exact Nat.zero_le _
  | error => exact Nat.zero_le _

/-- **Room**: with the header, what may be read fits `ses.writepayload`. -/
theorem header_add_maxlen_le (c : Channel) (isextended : Bool) :
    headerLength isextended + c.maxlen isextended ≤ TRANS_MAX_PAYLOAD_LEN := by
  simp only [headerLength, Channel.maxlen, TRANS_MAX_PAYLOAD_LEN]
  cases isextended <;> simp <;> omega

/-- Sending never runs into the bounds of `ses.writepayload`. -/
theorem send_msg_channel_data_eq (isextended : Bool) (answer : ReadAnswer)
    (hclose : c.sent_close = false) (hfd : 0 ≤ c.sourceFd isextended) :
    send_msg_channel_data c isextended answer =
      .ok (if c.maxlen isextended = 0 then c else c.afterRead isextended answer) := by
  obtain ⟨b, d, hheader, hb, hlen⟩ := dataHeader_is isextended c.remotechan
  have hroom := header_add_maxlen_le c isextended
  have hdata := length_data_le answer (c.maxlen isextended)
  have hptr := buf_getwriteptr_is hb (n := c.maxlen isextended) (by omega)
  have hput : putData b (headerLength isextended - 4) (answer.data (c.maxlen isextended)) = .ok () :=
    putData_ok _ hb (by unfold headerLength; omega) (by omega)
  rw [send_msg_channel_data, dropbear_assertion_true hclose, ok_bind, dropbear_assertion_true hfd,
    ok_bind]
  simp only [hheader, hptr, hput, exits_ok, ok_bind]
  split
  · rfl
  · rfl

theorem send_msg_channel_data_meets (isextended : Bool) (answer : ReadAnswer)
    (hfd : 0 ≤ c.sourceFd isextended) :
    Meets (send_msg_channel_data c isextended answer) (SendAbort opts c) (ActsOf opts .io c) := by
  by_cases hclose : c.sent_close = false
  · rw [send_msg_channel_data_eq isextended answer hclose hfd]
    show ActsOf opts .io c _
    split
    · exact .refl
    · rename_i hmax
      rw [afterRead_eq]
      exact .single (.read isextended answer hclose hfd hmax)
  · have hsent : c.sent_close = true := by simpa using hclose
    rw [send_msg_channel_data, dropbear_assertion, if_neg hclose]
    exact ⟨c, isextended, .refl, hsent, hfd⟩

/-! ## `check_close` -/

/-- Acts, then a computation that ends in acts. -/
theorem Meets.after_acts {x : Except Abort Channel} (hacts : ActsOf opts .io c c')
    (h : Meets x (SendAbort opts c') (ActsOf opts .io c')) :
    Meets x (SendAbort opts c) (ActsOf opts .io c) :=
  h.imp (fun _ ha => ha.of_acts hacts) fun _ hx => hacts.trans hx

theorem flushFd_meets (c : Channel) (isextended : Bool) (answer : ReadAnswer) :
    Meets (c.flushFd isextended answer) (SendAbort opts c) (ActsOf opts .io c) := by
  unfold Channel.flushFd
  split
  · rename_i h
    exact send_msg_channel_data_meets isextended answer h.2.1
  · exact .refl

theorem closeInput_acts (hidle : c.trace.inflight = []) : ActsOf opts .io c c.closeInput := by
  unfold Channel.closeInput
  split
  · rename_i h
    simp only [Bool.or_eq_true, Bool.and_eq_true, Bool.not_eq_true'] at h
    exact .single (.closedInput hidle h)
  · exact .refl

theorem endOutput_acts (c : Channel) : ActsOf opts .io c c.endOutput := by
  unfold Channel.endOutput
  split
  · rename_i h
    simp only [Bool.and_eq_true, Bool.not_eq_true'] at h
    exact .single (.sentEof h.1 h.2)
  · exact .refl

theorem check_close_meets (opts : Opts) (c : Channel) (hidle : c.trace.inflight = [])
    (answers : FlushAnswers) :
    Meets (check_close c answers) (SendAbort opts c) (ActsOf opts .io c) := by
  obtain ⟨c₁, hc₁⟩ : ∃ c₁, c₁ = { c with
      flushing := c.flushing || (!c.sent_close && c.exited) } := ⟨_, rfl⟩
  have h₁ : ActsOf opts .io c c₁ := by
    by_cases hflush : (!c.sent_close && c.exited) = true
    · have hboth := hflush
      simp only [Bool.and_eq_true, Bool.not_eq_true'] at hboth
      rw [hc₁, hflush, Bool.or_true]
      exact .single (.flushing hboth.1 hboth.2)
    · have hsame : c₁ = c := by
        rw [hc₁, Bool.eq_false_iff.mpr hflush, Bool.or_false]
      rw [hsame]
  have hidle₁ : c₁.trace.inflight = [] := (ActsOf.inflight (by decide) h₁).trans hidle
  have hcheck : check_close c answers = (if c₁.recv_close && !write_pending c₁ && c₁.closeAllowed then
      pure (remove_channel (if c₁.sent_close then c₁ else send_msg_channel_close c₁))
    else do
      let channel ← c₁.closeInput.flushFd false answers.read
      let channel ← channel.flushFd true answers.err
      let channel := channel.endOutput
      if channel.readClosed && channel.writefd == FD_CLOSED && !channel.sent_close &&
          c₁.closeAllowed && !write_pending channel then
        pure (send_msg_channel_close channel)
      else pure channel) := by
    rw [hc₁]
    rfl
  rw [hcheck]
  split
  · -- the peer has closed the channel too
    rename_i hclose
    simp only [Bool.and_eq_true, Bool.not_eq_true'] at hclose
    obtain ⟨⟨hrecv, hdone⟩, hallowed⟩ := hclose
    show ActsOf opts .io c _
    refine h₁.trans ?_
    split
    · rename_i hsent
      exact .single (.removed hidle₁ hrecv hsent hdone)
    · rename_i hsent
      have hnot : c₁.sent_close = false := by simpa using hsent
      obtain ⟨errfd, heq, -⟩ := send_msg_channel_close_eq c₁
      rw [heq]
      exact .single (.closedRemoved hidle₁ hrecv hnot hallowed hdone)
  · have hinput : ActsOf opts .io c₁ c₁.closeInput := closeInput_acts hidle₁
    refine Meets.after_acts (h₁.trans hinput) ?_
    have hallow : c₁.closeAllowed = true → c₁.closeInput.closeAllowed = true :=
      ActsOf.closeAllowed hinput
    refine (flushFd_meets c₁.closeInput false answers.read).bind fun c₂ h₂ => ?_
    refine Meets.after_acts h₂ ((flushFd_meets c₂ true answers.err).bind fun c₃ h₃ => ?_)
    refine Meets.after_acts (h₃.trans (endOutput_acts c₃)) ?_
    have h₄ : ActsOf opts .io c₁.closeInput c₃.endOutput := h₂.trans (h₃.trans (endOutput_acts c₃))
    have hallow₄ : c₁.closeAllowed = true → c₃.endOutput.closeAllowed = true := fun h =>
      ActsOf.closeAllowed h₄ (hallow h)
    simp only
    split
    · rename_i hend
      simp only [Bool.and_eq_true, Bool.not_eq_true', beq_iff_eq] at hend
      obtain ⟨⟨⟨⟨hread, hwrite⟩, hsent⟩, hallowed⟩, hdone⟩ := hend
      -- `errfd` is closed already
      obtain ⟨errfd, heq, herrfd⟩ := send_msg_channel_close_eq c₃.endOutput
      have herr : errfd = FD_CLOSED := by
        have hclosed := hread
        simp only [Channel.readClosed, Bool.and_eq_true, beq_iff_eq] at hclosed
        rcases herrfd with h | h
        · exact h.trans hclosed.2
        · exact h
      show ActsOf opts .io c₃.endOutput (send_msg_channel_close c₃.endOutput)
      rw [heq, herr]
      exact .single (.sentClose hsent (hallow₄ hallowed) hread hwrite)
    · exact .refl

end SimpleSshd.Dropbear
