import SimpleSshd.Lib.Backrefs
import SimpleSshd.Dropbear.Server

/-!
# Connections that are being made

A channel of type `direct-tcpip` waits for a connection. The connections that are being made are in
the list `ses.conn_pending`, each with the callback that is called when it is made or has failed; its
`cb_data` is the channel, and the channel's `conn_pending` points to the connection. A channel that is
removed before leaves its connection in the list, with a callback that only closes the socket.

Channels are named by their serial numbers, connections by numbers of their own: neither is used again,
so that memory that was freed can be told from what is there now. Using it is an error of its own kind.
-/

namespace SimpleSshd.Dropbear

open Fallible Slots

/-- A callback, with the channel that is its `cb_data`. -/
inductive Callback
  | channel_connect_done (channel : Nat)
  | cancel_callback
  deriving DecidableEq, Repr

/-- `struct dropbear_progress_connection`. -/
structure Connection where
  id : Nat
  cb : Callback
  /-- How many of the addresses have not been tried. -/
  res_iter : Nat
  /-- Nothing if it is -1. -/
  sock : Option Nat
  deriving DecidableEq, Repr

/-- Why the process ends, or what was used after it had been freed. -/
inductive NetAbort
  | abort (a : Abort)
  | freedChannel (channel : Nat)
  | freedConnection (id : Nat)
  deriving DecidableEq, Repr

/-- A call of code that uses no connections. -/
def aborts {α : Type} (x : Except Abort α) : Except NetAbort α := x.mapError .abort

/-- The tables of a connection to a client, and the connections that are made for it. -/
structure Net where
  server : Server
  /-- `ses.conn_pending`. -/
  conn_pending : List Connection
  /-- The `conn_pending` of each channel, by its serial number. -/
  pointers : Nat → Option Nat
  /-- How many connections were begun. -/
  begun : Nat

def Net.start (authstate : AuthState) : Net where
  server := .start authstate
  conn_pending := []
  pointers := fun _ => none
  begun := 0

/-! ## `netio.c` -/

/-- A pointer to a connection is followed. -/
def Net.connection (n : Net) (id : Nat) : Except NetAbort Connection :=
  match n.conn_pending.find? fun c => decide (c.id = id) with
  | none => throw (.freedConnection id)
  | some c => pure c

def connect_remote (n : Net) (channel addresses : Nat) : Net :=
  let c : Connection := {
    id := n.begun
    cb := .channel_connect_done channel
    res_iter := addresses
    sock := none }
  { n with
    conn_pending := n.conn_pending ++ [c]
    pointers := Function.update n.pointers channel (some n.begun)
    begun := n.begun + 1 }

def cancel_connect (n : Net) (id : Nat) : Except NetAbort Net := do
  let _ ← n.connection id
  pure { n with
    conn_pending := Backrefs.modify Connection.id id (fun c => { c with cb := .cancel_callback })
      n.conn_pending }

def remove_connect (n : Net) (id : Nat) : Net :=
  { n with conn_pending := Backrefs.discard Connection.id id n.conn_pending }

/-- The loop over the addresses that are left: what is left then, and the socket, if one was set
going. -/
def connect_try_next (attempt : Nat → Option Nat) : Nat → Nat × Option Nat
  | 0 => (0, none)
  | res_iter + 1 =>
    match attempt res_iter with
    | none => connect_try_next attempt res_iter
    | some sock => (res_iter, some sock)

/-- The first part of a round of `set_connect_fds`. -/
def Connection.setGoing (c : Connection) (attempt : Nat → Option Nat) : Connection :=
  match c.sock with
  | some _ => c
  | none =>
    let (res_iter, sock) := connect_try_next attempt c.res_iter
    { c with res_iter := res_iter, sock := sock }

/-! ## The channel's side -/

/-- The part of `remove_channel` that is about the connection. -/
def Net.remove_channel (n : Net) (channel : Nat) : Except NetAbort Net :=
  match n.pointers channel with
  | none => pure n
  | some id => do
    let n ← cancel_connect n id
    pure { n with pointers := Function.update n.pointers channel none }

/-- The slot of a channel, as long as it has not been freed. -/
def Server.slotOf (s : Server) (channel : Nat) : Option Nat :=
  s.channels.findIdx? fun entry => entry.any fun slot => decide (slot.serial = channel)

/-- `channel_connect_done`. The pointer is set to `NULL`, or the channel is removed. -/
def Net.channel_connect_done (cfg : Config) (opts : Opts) (n : Net) (channel : Nat)
    (sock : Option Nat) : Except NetAbort Net :=
  match n.server.slotOf channel with
  | none => throw (.freedChannel channel)
  | some i => do
    let server ← aborts (serverStep cfg opts n.server (.channel i (.connectDone sock)))
    let n := { n with server := server }
    match sock with
    | some _ => pure { n with pointers := Function.update n.pointers channel none }
    | none => n.remove_channel channel

/-- The callback of a connection, and then `remove_connect`. -/
def Net.conclude (cfg : Config) (opts : Opts) (n : Net) (c : Connection) (sock : Option Nat) :
    Except NetAbort Net := do
  let n ← match c.cb with
    | .channel_connect_done channel => n.channel_connect_done cfg opts channel sock
    | .cancel_callback => pure n
  pure (remove_connect n c.id)

/-- What an event of the channels means for the connections: the channel that was opened last may have
begun one, and a channel that is no longer in its slot was removed. -/
def Net.follow (n : Net) (server : Server) (addresses : Nat) : ServerEvent → Except NetAbort Net
  | .channelOpen _ _ _ _ _ =>
    let connecting := server.channels.any fun entry =>
      entry.any fun slot => decide (slot.serial = n.server.opened) && slot.channel.conn_pending
    let after := { n with server := server }
    pure (if connecting then connect_remote after n.server.opened addresses else after)
  | .channel i _ =>
    match lookup n.server.channels i, lookup server.channels i with
    | some slot, none => { n with server := server }.remove_channel slot.serial
    | _, _ => pure { n with server := server }
  | _ => pure { n with server := server }

/-! ## Loops over `ses.conn_pending` -/

/-- A round of `set_connect_fds`. -/
def Net.setConnection (cfg : Config) (opts : Opts) (attempt : Nat → Nat → Option Nat) (n : Net)
    (id : Nat) : Except NetAbort Net := do
  let c ← n.connection id
  let c := c.setGoing (attempt id)
  let n := { n with conn_pending := Backrefs.modify Connection.id id (fun _ => c) n.conn_pending }
  match c.sock with
  | some _ => pure n
  | none => n.conclude cfg opts c none

def set_connect_fds (cfg : Config) (opts : Opts) (n : Net) (attempt : Nat → Nat → Option Nat) :
    Except NetAbort Net :=
  (n.conn_pending.map Connection.id).foldlM (Net.setConnection cfg opts attempt) n

/-- The loop of `handle_connect_fds`, over sockets that are writable or have failed. It ends at the
first connection that was made. -/
def handle_connect_fds_loop (cfg : Config) (opts : Opts) (ready : Nat → Option Bool) (n : Net) :
    List Nat → Except NetAbort Net
  | [] => pure n
  | id :: ids => do
    let c ← n.connection id
    match c.sock, ready id with
    | some sock, some true => n.conclude cfg opts c (some sock)
    | some _, some false =>
      let closed := { c with sock := none }
      handle_connect_fds_loop cfg opts ready { n with
        conn_pending := Backrefs.modify Connection.id id (fun _ => closed) n.conn_pending } ids
    | _, _ => handle_connect_fds_loop cfg opts ready n ids

def handle_connect_fds (cfg : Config) (opts : Opts) (n : Net) (ready : Nat → Option Bool) :
    Except NetAbort Net :=
  handle_connect_fds_loop cfg opts ready n (n.conn_pending.map Connection.id)

/-! ## Events -/

inductive NetEvent
  /-- An event of the tables; `addresses` is what `getaddrinfo` finds. -/
  | server (e : ServerEvent) (addresses : Nat)
  /-- `attempt` says for which address of a connection there is a socket. -/
  | setConnects (attempt : Nat → Nat → Option Nat)
  /-- `ready` says of which connections `select` reports the socket, and whether it is connected. -/
  | handleConnects (ready : Nat → Option Bool)

/-- A callback is called. -/
def ServerEvent.isConnectDone : ServerEvent → Bool
  | .channel _ (.connectDone _) => true
  | _ => false

/-- Callbacks are called for the connections in the list only. -/
def NetEvent.Possible (n : Net) : NetEvent → Prop
  | .server e _ => e.Possible n.server ∧ e.isConnectDone = false
  | .setConnects _ => True
  | .handleConnects _ => True

instance NetEvent.decidablePossible (n : Net) : (e : NetEvent) → Decidable (e.Possible n)
  | .server _ _ => inferInstanceAs (Decidable (_ ∧ _))
  | .setConnects _ => inferInstanceAs (Decidable True)
  | .handleConnects _ => inferInstanceAs (Decidable True)

def netStep (cfg : Config) (opts : Opts) (n : Net) : NetEvent → Except NetAbort Net
  | .server e addresses => do
    let server ← aborts (serverStep cfg opts n.server e)
    n.follow server addresses e
  | .setConnects attempt => set_connect_fds cfg opts n attempt
  | .handleConnects ready => handle_connect_fds cfg opts n ready

def NetStep (cfg : Config) (opts : Opts) (n : Net) (e : NetEvent) (n' : Net) : Prop :=
  e.Possible n ∧ netStep cfg opts n e = .ok n'

/-- The events `es` lead from the start of a connection to `n`. -/
def NetRun (cfg : Config) (opts : Opts) (env₀ : Env) (es : List NetEvent) (n : Net) : Prop :=
  Runs.Run (NetStep cfg opts) (Net.start (svr_authinitialise env₀)) es n

/-! ## Executing runs -/

/-- A step, if it is possible and does not end the process. -/
def stepNet (cfg : Config) (opts : Opts) (n : Net) (e : NetEvent) : Option Net :=
  if e.Possible n then (netStep cfg opts n e).toOption else none

theorem stepNet_eq_some {cfg : Config} {opts : Opts} {n n' : Net} {e : NetEvent}
    (h : stepNet cfg opts n e = some n') : NetStep cfg opts n e n' := by
  unfold stepNet at h
  split at h
  · rename_i hpossible
    exact ⟨hpossible, toOption_eq_some h⟩
  · cases h

def runNet (cfg : Config) (opts : Opts) (env₀ : Env) (es : List NetEvent) : Option Net :=
  Runs.exec (stepNet cfg opts) (Net.start (svr_authinitialise env₀)) es

theorem netRun_of_runNet {cfg : Config} {opts : Opts} {env₀ : Env} {es : List NetEvent} {n : Net}
    (h : runNet cfg opts env₀ es = some n) : NetRun cfg opts env₀ es n :=
  (Runs.run_of_exec h).mono fun _ _ _ hstep => stepNet_eq_some hstep

end SimpleSshd.Dropbear
