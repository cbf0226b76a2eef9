import SimpleSshd.Lib.Descriptors
import SimpleSshd.Lib.Runs
import SimpleSshd.Lib.Slots
import SimpleSshd.Dropbear.Auth
import SimpleSshd.Dropbear.Channel
import SimpleSshd.Dropbear.Kex

/-!
# `listener.c`, `tcp-accept.c`, `svr-tcpfwd.c`: remote forwarding

A client asks with a global request that the server listens for it, and with another that it stops.
What is listened on is in `ses.listeners`. `svr_cancelremotetcp` looks there for an entry that agrees
with a structure on its stack, of which it does not set `chantype`; what happens to be there is an input
of the model.
-/

namespace SimpleSshd.Dropbear

open Descriptors Fallible Slots

def MAX_LISTENERS : Nat := 20
def LISTENER_EXTEND_SIZE : Nat := 1
def MAX_IP_LEN : Nat := 15
def IPPORT_RESERVED : Nat := 1024
def CHANNEL_ID_TCPFORWARDED : Nat := 0x43612c67

/-- `struct TCPListener` of a forward. Nothing is sent to an address of its own. -/
structure TCPListener where
  /-- Nothing means that only local connections are accepted. -/
  listenaddr : Option Bytes
  listenport : Nat
  request_listenaddr : Bytes
  chantype : ChanType
  deriving DecidableEq, Repr

structure Listener where
  socks : List Nat
  index : Nat
  type : Nat
  typedata : TCPListener
  deriving DecidableEq, Repr

/-- An answer to a global request. After a forward it has the port. -/
inductive GlobalReply
  | success (port : Option Nat)
  | failure
  deriving DecidableEq, Repr

structure Forwarding where
  listeners : List (Option Listener)
  /-- The listening sockets that are open, and their ports. -/
  fds : Table Nat
  /-- The answers that were submitted. -/
  submitted : List GlobalReply

structure FwdOpts where
  /-- `svr_opts.noremotetcp`. -/
  noremotetcp : Bool := false
  /-- `opts.listen_fwd_all`. -/
  listen_fwd_all : Bool := false
  /-- `ses.allowprivport`. -/
  allowprivport : Bool := false
  pubkey_options : Option PubKeyOptions := none
  deriving DecidableEq, Repr

/-- The sockets that could be bound: one, or one for each address family. -/
structure Bound where
  port : Nat
  both : Bool := false
  deriving DecidableEq, Repr

structure FwdEnv where
  /-- Nothing if no socket can be bound. -/
  listen : Option Bound := none
  /-- What `tcpinfo.chantype` happens to point to. -/
  chantype : Option ChanType := none
  /-- What is found behind the end of an array. -/
  overread : Nat := 0
  numbering : Numbering := .lowest

/-! ## Listeners -/

def listeners_initialise : Forwarding where
  listeners := [none]
  fds := ∅
  submitted := []

def Forwarding.close (s : Forwarding) (sock : Nat) : Forwarding := { s with fds := s.fds.erase sock }

/-- `new_listener`: the slot of the new listener. If there are too many, `socks[i]` is closed in place of
`socks[j]`; there is no such element. -/
def Forwarding.new_listener (s : Forwarding) (socks : List Nat) (type : Nat) (typedata : TCPListener)
    (overread : Nat) : Option Nat × Forwarding :=
  if (firstFree s.listeners).isNone ∧ s.listeners.length > MAX_LISTENERS then
    (none, socks.foldl (fun s _ => s.close overread) s)
  else
    let (listeners, i) := alloc LISTENER_EXTEND_SIZE s.listeners
    (some i, { s with listeners := place listeners i { socks, index := i, type, typedata } })

/-- An array, and what is found at other indices. -/
structure CArray where
  elems : List Nat
  outside : Nat → Nat

def CArray.read (a : CArray) (k : Nat) : Nat := a.elems.getD k (a.outside k)

/-- The elements of `socks` that `new_listener` reads, and the descriptors that it closes. -/
structure ListenerCalls where
  reads : List Nat
  closed : List Nat
  deriving DecidableEq, Repr

def Forwarding.new_listener_calls (s : Forwarding) (socks : CArray) : ListenerCalls :=
  let i := (firstFree s.listeners).getD s.listeners.length
  if (firstFree s.listeners).isNone ∧ s.listeners.length > MAX_LISTENERS then
    -- the rounds are counted with `j`
    let reads := (List.range socks.elems.length).map fun _j => i
    { reads, closed := reads.map socks.read }
  else { reads := List.range socks.elems.length, closed := [] }

/-- The loop of `get_listener`; `listener` is set once, before the first round. -/
def get_listener_loop (listener : Option Listener) (type : Nat)
    (matches_ : TCPListener → Except Exit Bool) : Nat → Except Exit (Option Listener)
  | 0 => pure none
  | n + 1 =>
    match listener with
    | none => .error .fault
    | some l =>
      if l.type ≠ type then get_listener_loop listener type matches_ n
      else do
        let found ← matches_ l.typedata
        if found then pure (some l) else get_listener_loop listener type matches_ n

def Forwarding.get_listener (s : Forwarding) (type : Nat)
    (matches_ : TCPListener → Except Exit Bool) : Except Exit (Option Listener) :=
  get_listener_loop (lookup s.listeners 0) type matches_ s.listeners.length

def Forwarding.remove_listener (s : Forwarding) (l : Listener) : Forwarding :=
  let s := l.socks.foldl Forwarding.close s
  { s with listeners := clear s.listeners l.index }

/-! ## Listening -/

/-- `dropbear_listen`: the sockets. -/
def Forwarding.dropbear_listen (s : Forwarding) (bound : Bound) (n : Numbering) :
    List Nat × Forwarding :=
  let sock := number s.fds [] n
  let s := { s with fds := s.fds.insert sock bound.port }
  if bound.both then
    let sock' := number s.fds [] n
    ([sock, sock'], { s with fds := s.fds.insert sock' bound.port })
  else ([sock], s)

/-- `listen_tcpfwd`, and what `svr_remotetcpreq` does with the new listener: the port is the one that the
first socket got. -/
def Forwarding.listen_tcpfwd (s : Forwarding) (tcpinfo : TCPListener) (env : FwdEnv) :
    Option Nat × Forwarding :=
  match env.listen with
  | none => (none, s)
  | some bound =>
    let (socks, s) := s.dropbear_listen bound env.numbering
    match s.new_listener socks CHANNEL_ID_TCPFORWARDED tcpinfo env.overread with
    | (none, s) => (none, s)
    | (some i, s) =>
      let tcpinfo := { tcpinfo with listenport := bound.port }
      (some bound.port, { s with
        listeners := place s.listeners i
          { socks, index := i, type := CHANNEL_ID_TCPFORWARDED, typedata := tcpinfo } })

/-! ## Requests -/

def strcmp : Option Bytes → Option Bytes → Except Exit Bool
  | some a, some b => pure (a == b)
  | _, _ => .error .fault

/-- `matchtcp`; the first three are those of the structure on the stack. -/
def matchtcp (listenaddr : Option Bytes) (listenport : Nat) (chantype : Option ChanType)
    (info : TCPListener) : Except Exit Bool :=
  if listenport ≠ info.listenport then pure false
  else if chantype ≠ some info.chantype then pure false
  else strcmp listenaddr info.listenaddr

def Forwarding.svr_cancelremotetcp (s : Forwarding) (payload : Buffer) (chantype : Option ChanType) :
    Except Exit (Status × Forwarding) := do
  let (bindaddr, payload) ← buf_getstring payload
  if bindaddr.length > MAX_IP_LEN then pure (DROPBEAR_FAILURE, s)
  else
    let (port, _) ← buf_getint payload
    let listener ← s.get_listener CHANNEL_ID_TCPFORWARDED (matchtcp (some (cstr bindaddr)) port chantype)
    match listener with
    | some l => pure (DROPBEAR_SUCCESS, s.remove_listener l)
    | none => pure (DROPBEAR_FAILURE, s)

/-- The structure that `svr_remotetcpreq` fills in. -/
def FwdOpts.tcpinfo (opts : FwdOpts) (request_addr : Bytes) (port : Nat) : TCPListener where
  listenaddr :=
    if !opts.listen_fwd_all ∨ request_addr = ascii "localhost" then none else some request_addr
  listenport := port
  request_listenaddr := request_addr
  chantype := .svr_chan_tcpremote

/-- `svr_remotetcpreq`: the port if it succeeds. -/
def Forwarding.svr_remotetcpreq (opts : FwdOpts) (s : Forwarding) (payload : Buffer) (env : FwdEnv) :
    Except Exit (Option Nat × Forwarding) := do
  let (request_addr, payload) ← buf_getstring payload
  if request_addr.length > MAX_IP_LEN then pure (none, s)
  else
    let (port, _) ← buf_getint payload
    if port ≠ 0 ∧ (port < 1 ∨ port > 65535) then pure (none, s)
    else if port ≠ 0 ∧ !opts.allowprivport ∧ port < IPPORT_RESERVED then pure (none, s)
    else pure (s.listen_tcpfwd (opts.tcpinfo (cstr request_addr) port) env)

def svr_pubkey_allows_tcpfwd (pubkey_options : Option PubKeyOptions) : Bool :=
  match pubkey_options with
  | some options => !options.no_port_forwarding_flag
  | none => true

def Forwarding.submit (s : Forwarding) (reply : GlobalReply) : Forwarding :=
  { s with submitted := s.submitted ++ [reply] }

/-- The end of `recv_msg_global_request_remotetcp`. -/
def Forwarding.answer (s : Forwarding) (wantreply : Bool) (ret : Status) : Forwarding :=
  if wantreply then
    s.submit (if ret = DROPBEAR_SUCCESS then .success none else .failure)
  else s

/-- The part of `recv_msg_global_request_remotetcp` after `wantreply` is read. -/
def Forwarding.global_request (opts : FwdOpts) (s : Forwarding) (reqname : Bytes) (wantreply : Bool)
    (payload : Buffer) (env : FwdEnv) : Except Exit Forwarding :=
  if reqname.length > MAX_NAME_LEN then pure (s.answer wantreply DROPBEAR_FAILURE)
  else if cstr reqname = ascii "tcpip-forward" then do
    let (port, s) ← s.svr_remotetcpreq opts payload env
    match port with
    | some port => pure ((s.submit (.success (some port))).answer false DROPBEAR_SUCCESS)
    | none => pure (s.answer wantreply DROPBEAR_FAILURE)
  else if cstr reqname = ascii "cancel-tcpip-forward" then do
    let (ret, s) ← s.svr_cancelremotetcp payload env.chantype
    pure (s.answer wantreply ret)
  else pure (s.answer wantreply DROPBEAR_FAILURE)

def recv_msg_global_request_remotetcp (opts : FwdOpts) (s : Forwarding) (payload : Buffer)
    (env : FwdEnv) : Except Exit Forwarding :=
  if opts.noremotetcp || !svr_pubkey_allows_tcpfwd opts.pubkey_options then
    -- wantreply was not read yet
    pure (s.answer false DROPBEAR_FAILURE)
  else do
    let (reqname, payload) ← buf_getstring payload
    let (wantreply, payload) ← buf_getbool payload
    s.global_request opts reqname wantreply payload env

/-! ## Forwards that come and go -/

inductive FwdEvent
  /-- A request to forward that succeeds. -/
  | forward (payload : Buffer) (env : FwdEnv)
  | cancel (payload : Buffer) (chantype : Option ChanType)
  /-- The listener in a slot is removed. -/
  | remove (i : Nat)

def stepForwarding (opts : FwdOpts) (s : Forwarding) : FwdEvent → Option Forwarding
  | .forward payload env =>
    match s.svr_remotetcpreq opts payload env with
    | .ok (some _, s') => some s'
    | _ => none
  | .cancel payload chantype => (s.svr_cancelremotetcp payload chantype).toOption.map Prod.snd
  | .remove i => (lookup s.listeners i).map s.remove_listener

/-- The events `es` lead from the start of a session to `s`. -/
def FwdRun (opts : FwdOpts) (es : List FwdEvent) (s : Forwarding) : Prop :=
  Runs.Run (Runs.ofFun (stepForwarding opts)) listeners_initialise es s

def runForwarding (opts : FwdOpts) (es : List FwdEvent) : Option Forwarding :=
  Runs.exec (stepForwarding opts) listeners_initialise es

end SimpleSshd.Dropbear
