import SimpleSshd.Dropbear.ChanSession
import SimpleSshd.Lib.Runs

/-!
# Runs of a channel

What can happen on a channel between its opening and its removal: messages of the peer, the results of
a connection attempt, the end of a child, descriptors that are ready. An event carries what the kernel
answers to the calls the server makes because of it. Every sequence of events that leads from a
created channel to a state is a run; other channels do not matter to it.
-/

namespace SimpleSshd.Dropbear

open Fallible

inductive ChannelEvent
  | data (payload : Buffer) (answer : WriteAnswer)
  | eof (answers : FlushAnswers)
  | close (answers : FlushAnswers)
  | windowAdjust (payload : Buffer)
  | request (payload : Buffer) (env : RequestEnv)
  | openConfirmation (payload : Buffer)
  | openFailure
  | connectDone (sock : Option Nat)
  /-- The exit of a child was recorded for the session. -/
  | childExited (info : ExitInfo)
  | io (ready : Ready)
  | keepalive
  deriving DecidableEq, Repr

/-- The exit of a child, in the session's data. -/
def Channel.recordExit (channel : Channel) (info : ExitInfo) : Channel :=
  { channel with chansess := channel.chansess.map fun chansess => { chansess with exit := some info } }

/-- What happens only on some channels: connections that were begun are made, an exit is recorded for a
pid that was entered in `childpids` with the session when a process was started, and keepalives go to
ready channels. -/
def ChannelEvent.Possible (channel : Channel) : ChannelEvent → Prop
  | .connectDone _ => channel.conn_pending = true
  | .childExited info => info.exitpid ∈ channel.trace.started.map Started.pid
  | .keepalive => channel.isReady = true
  | _ => True

instance (channel : Channel) : (e : ChannelEvent) → Decidable (e.Possible channel)
  | .connectDone _ => inferInstanceAs (Decidable (_ = _))
  | .childExited _ => inferInstanceAs (Decidable (_ ∈ _))
  | .keepalive => inferInstanceAs (Decidable (_ = _))
  | .data _ _ | .eof _ | .close _ | .windowAdjust _ | .request _ _ | .openConfirmation _
  | .openFailure | .io _ => inferInstanceAs (Decidable True)

def channelStep (opts : Opts) (channel : Channel) : ChannelEvent → Except Abort Channel
  | .data payload answer => recv_msg_channel_data opts channel payload answer
  | .eof answers => recv_msg_channel_eof channel answers
  | .close answers => recv_msg_channel_close channel answers
  | .windowAdjust payload => recv_msg_channel_window_adjust channel payload
  | .request payload env => recv_msg_channel_request opts channel payload env
  | .openConfirmation payload => recv_msg_channel_open_confirmation channel payload
  | .openFailure => recv_msg_channel_open_failure channel
  | .connectDone sock => pure (channel_connect_done channel sock)
  | .childExited info => pure (channel.recordExit info)
  | .io ready => channelio opts channel ready
  | .keepalive => pure channel.keepalive

/-- A step of a channel that is still there. A message for one that is not ends the process in
`getchannel`. -/
def ChannelStep (opts : Opts) (c : Channel) (e : ChannelEvent) (c' : Channel) : Prop :=
  c.removed = false ∧ e.Possible c ∧ channelStep opts c e = .ok c'

/-- A channel that the peer or the server has just opened. -/
inductive Created (opts : Opts) (c : Channel) : Prop
  | incoming (index : Nat) (chantype : ChanType) (remotechan transwindow transmaxpacket : Nat)
      (prohibited : Bool) (htype : chantype ∈ svr_chantypes)
      (h : recv_msg_channel_open opts index chantype remotechan transwindow transmaxpacket
        prohibited = .ok c)
  | outgoing (index fd : Nat)
      (h : send_msg_channel_open_init opts index fd .svr_chan_tcpremote = .ok c)

/-- The events `es` lead from a created channel to `c`. -/
def ChannelRun (opts : Opts) (es : List ChannelEvent) (c : Channel) : Prop :=
  ∃ c₀, Created opts c₀ ∧ Runs.Run (ChannelStep opts) c₀ es c

/-! ## Executing runs -/

/-- A step, if it is possible and does not end the process. -/
def stepChannel (opts : Opts) (c : Channel) (e : ChannelEvent) : Option Channel :=
  if c.removed = false ∧ e.Possible c then (channelStep opts c e).toOption else none

theorem stepChannel_eq_some {opts : Opts} {c c' : Channel} {e : ChannelEvent}
    (h : stepChannel opts c e = some c') : ChannelStep opts c e c' := by
  unfold stepChannel at h
  split at h
  · rename_i hpossible
    cases hstep : channelStep opts c e with
    | error a =>
      rw [hstep] at h
      cases h
    | ok c₁ =>
      rw [hstep] at h
      cases h
      exact ⟨hpossible.1, hpossible.2, hstep⟩
  · cases h

/-- A session whose peer announced this window and this maximum packet size. -/
def runSession (opts : Opts) (transwindow transmaxpacket : Nat) (es : List ChannelEvent) :
    Option Channel :=
  (recv_msg_channel_open opts 0 .svrchansess 0 transwindow transmaxpacket false).toOption.bind
    fun c => Runs.exec (stepChannel opts) c es

/-- A channel for a connection that was accepted on the descriptor `fd`. -/
def runForwarded (opts : Opts) (fd : Nat) (es : List ChannelEvent) : Option Channel :=
  (send_msg_channel_open_init opts 0 fd .svr_chan_tcpremote).toOption.bind
    fun c => Runs.exec (stepChannel opts) c es

theorem channelRun_of_runSession {opts : Opts} {transwindow transmaxpacket : Nat}
    {es : List ChannelEvent} {c : Channel}
    (h : runSession opts transwindow transmaxpacket es = some c) : ChannelRun opts es c := by
  obtain ⟨c₀, hopen, hexec⟩ := Option.bind_eq_some_iff.mp h
  refine ⟨c₀, .incoming 0 .svrchansess 0 transwindow transmaxpacket false (by decide)
    (toOption_eq_some hopen), ?_⟩
  exact (Runs.run_of_exec hexec).mono fun _ _ _ hstep => stepChannel_eq_some hstep

theorem channelRun_of_runForwarded {opts : Opts} {fd : Nat} {es : List ChannelEvent} {c : Channel}
    (h : runForwarded opts fd es = some c) : ChannelRun opts es c := by
  obtain ⟨c₀, hopen, hexec⟩ := Option.bind_eq_some_iff.mp h
  refine ⟨c₀, .outgoing 0 fd (toOption_eq_some hopen), ?_⟩
  exact (Runs.run_of_exec hexec).mono fun _ _ _ hstep => stepChannel_eq_some hstep

/-! ### Messages of a client -/

/-- The payload of a message, behind the channel number. -/
def messageOf (bytes : Bytes) : Buffer :=
  Buffer.full (bytes.take BUF_MAX_SIZE) (List.length_take_le _ _)

def stringOf (bytes : Bytes) : Bytes := Framing.be32 bytes.length ++ bytes

def dataMessageOf (data : Bytes) : Buffer := messageOf (stringOf data)

/-- A request that wants a reply. -/
def requestOf (type : String) (args : Bytes) : Buffer :=
  messageOf (stringOf (ascii type) ++ [1] ++ args)

/-! ### A server for examples -/

/-- A window of eight bytes. -/
def tinyOpts : Opts where
  recv_window := 8
  recv_window_pos := Nat.succ_pos 7
  recv_window_le := Nat.le_of_ble_eq_true rfl
  forced_command := none
  conf_lib := []

/-- A process on the descriptors 5, 6 and 7. -/
def spawned : Spawned where
  pid := 42
  pid_pos := Nat.succ_pos 41
  infd := 5
  outfd := 6
  errfd := 7
  in_ne_out := Nat.ne_of_lt (Nat.lt_succ_self 5)
  in_ne_err := Nat.ne_of_lt (Nat.le_of_ble_eq_true rfl)
  out_ne_err := Nat.ne_of_lt (Nat.lt_succ_self 6)

/-- The key has no options, and a process and a terminal can be had. -/
def plainEnv : RequestEnv where
  pubkey_options := none
  spawn := some spawned
  pty := some { master := 9, slave := 10, tty := ascii "/dev/pts/3" }
  tcgetattr := true
  kill := true

/-- The process has ended well. -/
def succeeded : ExitInfo where
  exitpid := 42
  status := .exitstatus 0

/-- Nothing can be read while flushing. -/
def noFlush : FlushAnswers where
  read := .EAGAIN
  err := .EAGAIN

/-- The two descriptors that are read from, as far as `select` reports them. -/
def readable (read err : Option ReadAnswer) (signal : Bool) : ChannelEvent :=
  .io { read := read, err := err, write := none, signal := signal, flush := noFlush }

/-- A command is started, and of the five bytes sent to it two are written later. -/
def partialWrites : List ChannelEvent :=
  [.request (requestOf "exec" (stringOf (ascii "cat"))) plainEnv,
    .data (dataMessageOf (ascii "hello")) (.wrote 5),
    .io { read := none, err := none, write := some (.wrote 2), signal := false, flush := noFlush }]

end SimpleSshd.Dropbear
