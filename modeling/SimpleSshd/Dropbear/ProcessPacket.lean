import SimpleSshd.Dropbear.Kex

/-!
# `process-packet.c`, `common-session.c`, `svr-session.c`, `svr-service.c`: running a session

`process_packet` decides whether a decrypted packet is handled, and by which function. The handlers
of the connection protocol are not modelled: what one of them sends, or that it gives up, comes from
outside with the packet. `session_loop` is the relation `SessionStep`, whose events are the calls the
loop makes; it allows them in any order.
-/

namespace SimpleSshd.Dropbear

def SSH_SERVICE_USERAUTH : Bytes := ascii "ssh-userauth"
def DROPBEAR_KEEPALIVE_STRING : Bytes := ascii "keepalive@openssh.com"
def KEX_REKEY_TIMEOUT : Nat := 3600 * 8
def KEX_REKEY_DATA : Nat := 2 ^ 30
def AUTH_TIMEOUT : Nat := 300
def DEFAULT_KEEPALIVE_LIMIT : Nat := 3
def MAX_IDENT_LINES : Nat := 50

/-! ## Services -/

def send_msg_service_accept (cfg : Config) (env : Env) (s : Session) (name : Bytes) :
    Except Exit Session :=
  encrypt_packet cfg env s (SSH_MSG_SERVICE_ACCEPT :: putstring name)

def recv_msg_service_request (cfg : Config) (env : Env) (s : Session) (payload : Buffer) :
    Except Exit Session := do
  let (name, _) ← buf_getstring payload
  if name = SSH_SERVICE_USERAUTH then send_msg_service_accept cfg env s name
  else if name = SSH_SERVICE_CONNECTION then
    if !s.authstate.authdone then dropbear_exit "Request for connection before auth"
    else send_msg_service_accept cfg env s name
  else dropbear_exit "Unrecognised SSH_MSG_SERVICE_REQUEST"

/-! ## Handlers -/

inductive Handler
  | recv_msg_channel_data
  | recv_msg_channel_window_adjust
  | recv_msg_userauth_request
  | recv_msg_service_request
  | recv_msg_kexinit
  | recv_msg_kexdh_init
  | recv_msg_newkeys
  | recv_msg_global_request_remotetcp
  | recv_msg_channel_request
  | recv_msg_channel_open
  | recv_msg_channel_eof
  | recv_msg_channel_close
  | ignore_recv_response
  | recv_msg_channel_open_confirmation
  | recv_msg_channel_open_failure
  deriving DecidableEq, Repr

def svr_packettypes : List (UInt8 × Handler) :=
  [(SSH_MSG_CHANNEL_DATA, .recv_msg_channel_data),
   (SSH_MSG_CHANNEL_WINDOW_ADJUST, .recv_msg_channel_window_adjust),
   (SSH_MSG_USERAUTH_REQUEST, .recv_msg_userauth_request),
   (SSH_MSG_SERVICE_REQUEST, .recv_msg_service_request),
   (SSH_MSG_KEXINIT, .recv_msg_kexinit),
   (SSH_MSG_KEXDH_INIT, .recv_msg_kexdh_init),
   (SSH_MSG_NEWKEYS, .recv_msg_newkeys),
   (SSH_MSG_GLOBAL_REQUEST, .recv_msg_global_request_remotetcp),
   (SSH_MSG_CHANNEL_REQUEST, .recv_msg_channel_request),
   (SSH_MSG_CHANNEL_OPEN, .recv_msg_channel_open),
   (SSH_MSG_CHANNEL_EOF, .recv_msg_channel_eof),
   (SSH_MSG_CHANNEL_CLOSE, .recv_msg_channel_close),
   (SSH_MSG_CHANNEL_SUCCESS, .ignore_recv_response),
   (SSH_MSG_CHANNEL_FAILURE, .ignore_recv_response),
   (SSH_MSG_REQUEST_FAILURE, .ignore_recv_response),
   (SSH_MSG_REQUEST_SUCCESS, .ignore_recv_response),
   (SSH_MSG_CHANNEL_OPEN_CONFIRMATION, .recv_msg_channel_open_confirmation),
   (SSH_MSG_CHANNEL_OPEN_FAILURE, .recv_msg_channel_open_failure)]

/-- A call of a handler. `replies` is what one of the connection protocol sends or exits with. -/
def callHandler (cfg : Config) (env : Env) (s : Session) (payload : Buffer)
    (replies : Except Exit (List Bytes)) : Handler → Except Exit Session
  | .recv_msg_userauth_request => recv_msg_userauth_request cfg env s payload
  | .recv_msg_service_request => recv_msg_service_request cfg env s payload
  | .recv_msg_kexinit => recv_msg_kexinit cfg env s payload
  | .recv_msg_kexdh_init => recv_msg_kexdh_init cfg env s payload
  | .recv_msg_newkeys => recv_msg_newkeys env s
  | .ignore_recv_response => pure s
  | .recv_msg_channel_data | .recv_msg_channel_window_adjust | .recv_msg_global_request_remotetcp
  | .recv_msg_channel_request | .recv_msg_channel_open | .recv_msg_channel_eof
  | .recv_msg_channel_close | .recv_msg_channel_open_confirmation
  | .recv_msg_channel_open_failure => do
    let payloads ← replies
    encrypt_packets cfg env s payloads

def recv_unimplemented (cfg : Config) (env : Env) (s : Session) : Except Exit Session :=
  -- the decryption routine has counted the packet
  encrypt_packet cfg env s
    (SSH_MSG_UNIMPLEMENTED :: be32 ((s.recvseq + 2 ^ 32 - 1) % 2 ^ 32))

/-- The end of `process_packet`: the packet is handled, or answered as unimplemented. -/
def dispatch_packet (cfg : Config) (env : Env) (s : Session) (type : UInt8) (payload : Buffer)
    (replies : Except Exit (List Bytes)) : Except Exit Session :=
  if !s.authstate.authdone && type > MAX_UNAUTH_PACKET_TYPE then
    dropbear_exit "Received message %d before userauth"
  else
    match svr_packettypes.lookup type with
    | some handler => callHandler cfg env
        { s with log := .handled type payload s.authstate.authdone :: s.log } payload replies handler
    | none => recv_unimplemented cfg env s

/-- The packet types that may come instead of the required one, but are not known. -/
def unknown_allowed (type : UInt8) : Bool :=
  type ≥ 1 ∧ type ≤ 49 ∧ type ≠ SSH_MSG_SERVICE_REQUEST ∧ type ≠ SSH_MSG_SERVICE_ACCEPT ∧
    type ≠ SSH_MSG_KEXINIT

/-- The part of `process_packet` that is about the key exchange. -/
def require_packet (cfg : Config) (env : Env) (s : Session) (type : UInt8) (payload : Buffer)
    (replies : Except Exit (List Bytes)) : Except Exit Session :=
  if s.requirenext ≠ 0 ∧ s.requirenext ≠ type then
    if unknown_allowed type then recv_unimplemented cfg env s
    else dropbear_exit "Unexpected packet type %d, expected %d"
  -- used only with first_kex_packet_follows
  else if s.ignorenext then pure { s with ignorenext := false }
  else
    let requirenext := if s.requirenext ≠ 0 ∧ s.requirenext = type then 0 else s.requirenext
    dispatch_packet cfg env { s with requirenext } type payload replies

def process_packet (cfg : Config) (env : Env) (s : Session) (payload : Buffer)
    (replies : Except Exit (List Bytes)) : Except Exit Session := do
  let (type, payload) ← buf_getbyte payload
  let s := { s with lastpacket := type, last_packet_time_keepalive_recv := env.now }
  if type = SSH_MSG_IGNORE ∨ type = SSH_MSG_DEBUG ∨ type = SSH_MSG_UNIMPLEMENTED then pure s
  else if type = SSH_MSG_DISCONNECT then dropbear_close "Disconnect received"
  else
    let idle := if type = SSH_MSG_GLOBAL_REQUEST ∨ type = SSH_MSG_REQUEST_FAILURE then
      s.out.last_packet_time_idle else env.now
    let s := { s with out := { s.out with last_packet_time_idle := idle } }
    require_packet cfg env s type payload replies

/-- What `decrypt_packet` changes, of a packet of this length on the wire. -/
def decrypt_packet (s : Session) (payload : Buffer) (wirelen : Nat) : Session :=
  { s with
    payload_beginning := payload.pos
    recvseq := (s.recvseq + 1) % 2 ^ 32
    datarecv := (s.datarecv + wirelen) % 2 ^ 32 }

/-! ## Timeouts -/

/-- A keepalive goes to a channel, if one is ready. It does not count as activity. -/
def send_msg_keepalive (cfg : Config) (env : Env) (s : Session) (chan : Option Nat) :
    Except Exit Session := do
  let request := match chan with
    | some remotechan => SSH_MSG_CHANNEL_REQUEST :: (be32 remotechan ++
        putstring DROPBEAR_KEEPALIVE_STRING)
    | none => SSH_MSG_GLOBAL_REQUEST :: putstring DROPBEAR_KEEPALIVE_STRING
  let old_time_idle := s.out.last_packet_time_idle
  let s ← encrypt_packet cfg env s (request ++ [1])
  pure { s with out := { s.out with
    last_packet_time_keepalive_sent := env.now
    last_packet_time_idle := old_time_idle } }

/-- The rekeying of `checktimeouts`. -/
def checkRekey (cfg : Config) (env : Env) (s : Session) : Except Exit Session :=
  if !s.kexstate.sentkexinit && (env.now - s.kexstate.lastkextime ≥ KEX_REKEY_TIMEOUT ||
      (s.datarecv + s.out.datatrans) % 2 ^ 32 ≥ KEX_REKEY_DATA) then
    send_msg_kexinit cfg env s
  else pure s

def keepaliveIf (cfg : Config) (env : Env) (s : Session) (chan : Option Nat) (due : Bool) :
    Except Exit Session :=
  if due then send_msg_keepalive cfg env s chan else pure s

/-- The keepalives of `checktimeouts`: when nothing was sent for a while, and when nothing was
received. -/
def checkKeepalive (cfg : Config) (env : Env) (s : Session) (chan : Option Nat) :
    Except Exit Session := do
  if cfg.keepalive_secs > 0 ∧ s.authstate.authdone then
    let s ← keepaliveIf cfg env s chan
      (env.now - s.out.last_packet_time_any_sent ≥ cfg.keepalive_secs)
    let s ← keepaliveIf cfg env s chan
      (env.now - s.last_packet_time_keepalive_recv ≥ cfg.keepalive_secs ∧
        env.now - s.out.last_packet_time_keepalive_sent ≥ cfg.keepalive_secs)
    if env.now - s.last_packet_time_keepalive_recv ≥
        cfg.keepalive_secs * DEFAULT_KEEPALIVE_LIMIT then
      dropbear_exit "Keepalive timeout"
    else pure s
  else pure s

def checktimeouts (cfg : Config) (env : Env) (s : Session) (chan : Option Nat) :
    Except Exit Session := do
  if s.connect_time ≠ 0 ∧ env.now - s.connect_time ≥ AUTH_TIMEOUT then
    dropbear_close "Timeout before auth"
  -- we can't rekey if we haven't done remote ident exchange yet
  else if s.remoteident = none then pure s
  else
    let s ← checkRekey cfg env s
    let s ← checkKeepalive cfg env s chan
    if cfg.idle_timeout_secs > 0 ∧
        env.now - s.out.last_packet_time_idle ≥ cfg.idle_timeout_secs then
      dropbear_close "Idle timeout"
    else pure s

/-! ## The session -/

/-- The first of these lines that identifies the client; a line that cannot be read ends it. -/
def identLine : List (Option Bytes) → Except Exit Bytes
  | [] | none :: _ => dropbear_close "Exited normally"
  | some line :: lines => if line.take 4 = ascii "SSH-" then pure (cstr line) else identLine lines

def read_session_identification (s : Session) (lines : List (Option Bytes)) :
    Except Exit Session := do
  let remoteident ← identLine (lines.take MAX_IDENT_LINES)
  if remoteident.take 6 ≠ ascii "SSH-2." ∧ remoteident.take 9 ≠ ascii "SSH-1.99-" then
    dropbear_exit "Incompatible remote version '%s'"
  else pure { s with remoteident := some remoteident }

/-- The start of a session, up to `session_loop`. -/
def svr_session (cfg : Config) (env : Env) (banner : Option Bytes) : Except Exit Session :=
  send_msg_kexinit cfg env (kexfirstinitialise env {
    authstate := svr_authinitialise env
    connect_time := env.now
    last_packet_time_keepalive_recv := env.now
    out := { last_packet_time_idle := env.now }
    banner := banner })

/-- What can happen next in `session_loop`. -/
inductive Event
  | ident (lines : List (Option Bytes))
  /-- A packet was decrypted. -/
  | packet (env : Env) (payload : Buffer) (wirelen : Nat) (replies : Except Exit (List Bytes))
  | timeouts (env : Env) (chan : Option Nat)
  | flush (env : Env)
  /-- The channels send these packets. -/
  | channels (env : Env) (payloads : List Bytes)
  /-- Some packets were written to the socket. -/
  | write (n : Nat)

/-- A call of the loop that does not end the session. -/
def SessionStep (cfg : Config) (s : Session) : Event → Session → Prop
  | .ident lines, s' => s.remoteident = none ∧ read_session_identification s lines = .ok s'
  | .packet env payload wirelen replies, s' => s.remoteident ≠ none ∧
      process_packet cfg env (decrypt_packet s payload wirelen) payload replies = .ok s'
  | .timeouts env chan, s' => checktimeouts cfg env s chan = .ok s'
  | .flush env, s' => maybe_flush_reply_queue cfg env s = .ok s'
  | .channels env payloads, s' => encrypt_packets cfg env s payloads = .ok s'
  | .write n, s' => s' = { s with out := { s.out with writequeue := s.out.writequeue.drop n } }

end SimpleSshd.Dropbear
