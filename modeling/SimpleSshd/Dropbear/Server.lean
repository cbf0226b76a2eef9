import SimpleSshd.Lib.Slots
import SimpleSshd.Dropbear.Auth
import SimpleSshd.Dropbear.ChannelRun

/-!
# The connection: its channels and its children

`ses.channels` holds the channels of a connection, and `svr_ses.childpids` says to which session a
child belongs. Both are tables whose first free slot is taken. A child's exit is matched by its pid,
which the kernel may use again once the child was waited for.

Beside the tables of the source the state has what the kernel knows: which processes there are, and
for which channel each was started.
-/

namespace SimpleSshd.Dropbear

open Fallible Slots

def MAX_CHANNELS : Nat := 1000
def CHAN_EXTEND_SIZE : Nat := 3

/-- A channel in `ses.channels`. The serial number tells it from the channels that had the slot
before. -/
structure Slot where
  serial : Nat
  channel : Channel

/-- `struct ChildPid` in use: one whose `pid` is not -1. The session is named by the slot of its
channel. -/
structure ChildPid where
  pid : Nat
  pid_pos : 0 < pid
  chansess : Nat

inductive ProcessState
  | running
  | zombie (status : ExitStatus)
  /-- It was waited for, and its pid is free. -/
  | reaped (status : ExitStatus)
  deriving DecidableEq, Repr

def ProcessState.isReaped : ProcessState → Bool
  | .reaped _ => true
  | _ => false

/-- A process of the kernel, started for the channel with the serial number `owner`. -/
structure Process where
  pid : Nat
  owner : Nat
  state : ProcessState
  deriving DecidableEq, Repr

def Process.exit (pid : Nat) (status : ExitStatus) (p : Process) : Process :=
  if p.pid = pid ∧ p.state = .running then { p with state := .zombie status } else p

/-- `waitpid` returns. -/
def Process.reap (info : ExitInfo) (p : Process) : Process :=
  if p.pid = info.exitpid ∧ p.state = .zombie info.status then
    { p with state := .reaped info.status }
  else p

structure Server where
  authstate : AuthState
  channels : List (Option Slot)
  chancount : Nat
  childpids : List (Option ChildPid)
  /-- Nothing if `exitpid` is -1. -/
  lastexit : Option ExitInfo
  /-- How many channels were opened. -/
  opened : Nat
  processes : List Process
  /-- The channels that were removed. -/
  gone : List Slot

/-- `chaninitialise` and `svr_chansessinitialise`. -/
def Server.start (authstate : AuthState) : Server where
  authstate := authstate
  channels := [none]
  chancount := 0
  childpids := [none]
  lastexit := none
  opened := 0
  processes := []
  gone := []

/-! ## Children -/

/-- The loop of `addchildpid` and what follows it. -/
def Server.addchildpid (s : Server) (chansess pid : Nat) (pid_pos : 0 < pid) : Server :=
  let (childpids, i) := alloc 1 s.childpids
  { s with childpids := place childpids i { pid, pid_pos, chansess } }

/-- The session of the first entry with this pid. -/
def Server.sessionOf (s : Server) (pid : Nat) : Option Nat :=
  s.childpids.findSome? fun entry =>
    entry.bind fun child => if child.pid = pid then some child.chansess else none

/-- `chansess->exit` of the session in a slot is set. -/
def Server.recordExit (s : Server) (i : Nat) (info : ExitInfo) : Server :=
  match lookup s.channels i with
  | none => s
  | some slot =>
    { s with channels := place s.channels i { slot with channel := slot.channel.recordExit info } }

/-- A child that was waited for before it was entered, according to `lastexit`. Only `noptycommand`
looks there. -/
def Server.takeLastexit (s : Server) : Server :=
  match s.lastexit with
  | none => s
  | some info =>
    match s.sessionOf info.exitpid with
    | none => s
    | some i => { s.recordExit i info with lastexit := none }

/-- There is one more process. -/
def Server.fork (s : Server) (pid owner : Nat) : Server :=
  { s with processes := s.processes ++ [{ pid, owner, state := .running }] }

/-- A process was started for the channel in slot `i`. -/
def Server.spawned (s : Server) (i : Nat) (slot : Slot) (p : Started) (spawn : Spawned) : Server :=
  let s := (s.fork spawn.pid slot.serial).addchildpid i spawn.pid spawn.pid_pos
  if p.pty then s else s.takeLastexit

/-- The tables after a request, which may have started a process. -/
def Server.requested (s : Server) (i : Nat) (slot : Slot) (channel : Channel) (env : RequestEnv) :
    Server :=
  match channel.trace.started[slot.channel.trace.started.length]?, env.spawn with
  | some p, some spawn => s.spawned i slot p spawn
  | _, _ => s

/-- One round of the loop of `svr_chansess_checksignal`, after `waitpid`. -/
def Server.checksignal (s : Server) (info : ExitInfo) : Server :=
  match s.sessionOf info.exitpid with
  | some i => s.recordExit i info
  | none => { s with lastexit := some info }

/-! ## The table of channels -/

/-- The loop of `cleanupchansess`. -/
def Server.cleanupchansess (s : Server) (i : Nat) : Server :=
  { s with childpids := retain (fun child => child.chansess != i) s.childpids }

/-- The part of `remove_channel` that is about the tables. -/
def Server.remove_channel (s : Server) (i : Nat) (slot : Slot) : Server :=
  let s := if slot.channel.type = .svrchansess then s.cleanupchansess i else s
  { s with
    channels := clear s.channels i
    chancount := s.chancount - 1
    gone := s.gone ++ [slot] }

/-- The slot that `newchannel` finds, unless there are too many. -/
def Server.newchannel (s : Server) : Option (List (Option Slot) × Nat) :=
  if (firstFree s.channels).isNone ∧ MAX_CHANNELS ≤ s.channels.length then none
  else some (alloc CHAN_EXTEND_SIZE s.channels)

/-- A channel is entered, and removed again if it could not be opened. -/
def Server.enter (s : Server) (channels : List (Option Slot)) (i : Nat) (channel : Channel) :
    Server :=
  let slot : Slot := { serial := s.opened, channel := channel }
  let s := { s with
    channels := place channels i slot
    chancount := s.chancount + 1
    opened := s.opened + 1 }
  if channel.removed then s.remove_channel i slot else s

/-- The tables after an event of the channel in slot `i`. -/
def Server.handled (s : Server) (i : Nat) (slot : Slot) (e : ChannelEvent) (channel : Channel) :
    Server :=
  let slot' : Slot := { slot with channel := channel }
  let s := { s with channels := place s.channels i slot' }
  let s := match e with
    | .request _ env => s.requested i slot channel env
    | _ => s
  if channel.removed then s.remove_channel i slot' else s

/-! ## Events -/

inductive ServerEvent
  /-- An authentication request; `rest` is the session apart from its authentication state. -/
  | userauth (rest : Session) (r : Request)
  | channelOpen (chantype : ChanType) (remotechan transwindow transmaxpacket : Nat)
      (prohibited : Bool)
  /-- A connection was accepted for the client, on a descriptor. -/
  | forwarded (fd : Nat)
  | channel (i : Nat) (e : ChannelEvent)
  /-- A process exits. -/
  | exits (pid : Nat) (status : ExitStatus)
  /-- A process is waited for. -/
  | reap (info : ExitInfo)

/-- The options of the key are those of the session. -/
def ChannelEvent.withOptions (e : ChannelEvent) (pubkey_options : Option PubKeyOptions) :
    ChannelEvent :=
  match e with
  | .request payload env => .request payload { env with pubkey_options := pubkey_options }
  | e => e

/-- The kernel starts a process with a pid that no process has that was not waited for. -/
def Server.PidFree (s : Server) (pid : Nat) : Prop :=
  ∀ p ∈ s.processes, p.pid = pid → p.state.isReaped = true

instance (s : Server) (pid : Nat) : Decidable (s.PidFree pid) :=
  inferInstanceAs (Decidable (∀ p ∈ _, _))

/-- What can happen to a channel in the table. The exit of its child is an event of its own. -/
def Server.Possible (s : Server) (slot : Slot) : ChannelEvent → Prop
  | .childExited _ => False
  | .request _ env => ∀ spawn ∈ env.spawn, s.PidFree spawn.pid
  | e => e.Possible slot.channel

instance (s : Server) (slot : Slot) : (e : ChannelEvent) → Decidable (s.Possible slot e)
  | .childExited _ => inferInstanceAs (Decidable False)
  | .request _ env => inferInstanceAs (Decidable (∀ spawn ∈ env.spawn, _))
  | .connectDone sock => inferInstanceAs (Decidable ((ChannelEvent.connectDone sock).Possible _))
  | .keepalive => inferInstanceAs (Decidable (ChannelEvent.keepalive.Possible _))
  | .data _ _ | .eof _ | .close _ | .windowAdjust _ | .openConfirmation _ | .openFailure | .io _ =>
    inferInstanceAs (Decidable True)

/-- Channels come after the authentication; processes exit and are waited for in turn. -/
def ServerEvent.Possible (s : Server) : ServerEvent → Prop
  | .userauth _ _ => True
  | .channelOpen chantype _ _ _ _ => s.authstate.authdone = true ∧ chantype ∈ svr_chantypes
  | .forwarded _ => s.authstate.authdone = true
  | .channel i e => s.authstate.authdone = true ∧
      ∀ slot ∈ lookup s.channels i, s.Possible slot e
  | .exits pid _ => ∃ p ∈ s.processes, p.pid = pid ∧ p.state = .running
  | .reap info => ∃ p ∈ s.processes, p.pid = info.exitpid ∧ p.state = .zombie info.status

instance (s : Server) : (e : ServerEvent) → Decidable (e.Possible s)
  | .userauth _ _ => inferInstanceAs (Decidable True)
  | .channelOpen _ _ _ _ _ => inferInstanceAs (Decidable (_ ∧ _))
  | .forwarded _ => inferInstanceAs (Decidable (_ = _))
  | .channel _ _ => inferInstanceAs (Decidable (_ ∧ ∀ slot ∈ lookup _ _, _))
  | .exits _ _ => inferInstanceAs (Decidable (∃ p ∈ _, _))
  | .reap _ => inferInstanceAs (Decidable (∃ p ∈ _, _))

def serverStep (cfg : Config) (opts : Opts) (s : Server) : ServerEvent → Except Abort Server
  | .userauth rest r => do
    let session ← exits (recv_msg_userauth_request cfg r.env { rest with authstate := s.authstate }
      r.payload)
    pure { s with authstate := session.authstate }
  | .channelOpen chantype remotechan transwindow transmaxpacket prohibited =>
    match s.newchannel with
    | none => pure s
    | some (channels, i) => do
      let channel ← exits (recv_msg_channel_open opts i chantype remotechan transwindow
        transmaxpacket prohibited)
      pure (s.enter channels i channel)
  | .forwarded fd =>
    match s.newchannel with
    | none => pure s
    | some (channels, i) => do
      let channel ← exits (send_msg_channel_open_init opts i fd .svr_chan_tcpremote)
      pure (s.enter channels i channel)
  | .channel i e =>
    match lookup s.channels i with
    | none => exits (dropbear_exit "Unknown channel %d")
    | some slot => do
      let channel ← channelStep opts slot.channel (e.withOptions s.authstate.pubkey_options)
      pure (s.handled i slot e channel)
  | .exits pid status => pure { s with processes := s.processes.map (Process.exit pid status) }
  | .reap info => pure (Server.checksignal { s with processes := s.processes.map (Process.reap info) }
      info)

def ServerStep (cfg : Config) (opts : Opts) (s : Server) (e : ServerEvent) (s' : Server) : Prop :=
  e.Possible s ∧ serverStep cfg opts s e = .ok s'

/-- The events `es` lead from the start of a connection to `s`. -/
def ServerRun (cfg : Config) (opts : Opts) (env₀ : Env) (es : List ServerEvent) (s : Server) : Prop :=
  Runs.Run (ServerStep cfg opts) (Server.start (svr_authinitialise env₀)) es s

/-! ## Executing runs -/

/-- A step, if it is possible and does not end the process. -/
def stepServer (cfg : Config) (opts : Opts) (s : Server) (e : ServerEvent) : Option Server :=
  if e.Possible s then (serverStep cfg opts s e).toOption else none

theorem stepServer_eq_some {cfg : Config} {opts : Opts} {s s' : Server} {e : ServerEvent}
    (h : stepServer cfg opts s e = some s') : ServerStep cfg opts s e s' := by
  unfold stepServer at h
  split at h
  · rename_i hpossible
    cases hstep : serverStep cfg opts s e with
    | error a =>
      rw [hstep] at h
      cases h
    | ok s₁ =>
      rw [hstep] at h
      cases h
      exact ⟨hpossible, hstep⟩
  · cases h

def runServer (cfg : Config) (opts : Opts) (env₀ : Env) (es : List ServerEvent) : Option Server :=
  Runs.exec (stepServer cfg opts) (Server.start (svr_authinitialise env₀)) es

theorem serverRun_of_runServer {cfg : Config} {opts : Opts} {env₀ : Env} {es : List ServerEvent}
    {s : Server} (h : runServer cfg opts env₀ es = some s) : ServerRun cfg opts env₀ es s :=
  (Runs.run_of_exec h).mono fun _ _ _ hstep => stepServer_eq_some hstep

end SimpleSshd.Dropbear
