import SimpleSshd.Dropbear.Auth
import SimpleSshd.Dropbear.Channel
import SimpleSshd.Dropbear.Kex

/-!
# `svr-chansession.c`: requests on a session

A session is a channel on which a command can be started, on pipes or on a terminal that was requested
before. Which command it is depends on the request and on the commands forced by the server's options
and by those of the key that logged in.

What the kernel answers (to `fork` and `pipe`, to the allocation of a terminal, to `kill`) comes with
the request. Sessions are compiled without X11 and agent forwarding.
-/

namespace SimpleSshd.Dropbear

def MAX_CMD_LEN : Nat := 9000
def MAX_TERM_LEN : Nat := 200

/-- What `spawn_command` has made: a process and the parent's ends of three pipes. -/
@[ext] structure Spawned where
  pid : Nat
  pid_pos : 0 < pid
  infd : Nat
  outfd : Nat
  errfd : Nat
  in_ne_out : infd ≠ outfd
  in_ne_err : infd ≠ errfd
  out_ne_err : outfd ≠ errfd
  deriving Repr

instance : DecidableEq Spawned := fun _ _ => decidable_of_iff _ Spawned.ext_iff.symm

/-- A terminal that `pty_allocate` has opened. -/
structure Pty where
  master : Nat
  slave : Nat
  tty : Bytes
  deriving DecidableEq, Repr

/-- What the world is like when a request arrives. -/
structure RequestEnv where
  /-- `ses.authstate.pubkey_options`. -/
  pubkey_options : Option PubKeyOptions
  /-- `none` if a pipe cannot be made or `fork` fails. -/
  spawn : Option Spawned
  pty : Option Pty
  /-- `tcgetattr` succeeds. -/
  tcgetattr : Bool
  /-- `kill` succeeds. -/
  kill : Bool
  deriving DecidableEq, Repr

/-! ## Terminals -/

def svr_pubkey_allows_pty (pubkey_options : Option PubKeyOptions) : Bool :=
  match pubkey_options with
  | some options => !options.no_pty_flag
  | none => true

def sessionwinchange (chansess : ChanSess) (payload : Buffer) :
    Except Abort (Status × Buffer) := do
  if chansess.master < 0 then pure (DROPBEAR_FAILURE, payload)
  else
    let (_, payload) ← exits (buf_getint payload)
    let (_, payload) ← exits (buf_getint payload)
    let (_, payload) ← exits (buf_getint payload)
    let (_, payload) ← exits (buf_getint payload)
    pure (DROPBEAR_SUCCESS, payload)

/-- The loop over the encoded terminal modes: an opcode, then its value, until an opcode that ends
them. What they do to the terminal is left out. -/
def termmodes : Bytes → Except Exit Unit
  | [] => dropbear_exit "Bad buf_getbyte"
  | opcode :: modes =>
    if opcode = 0 ∨ opcode > 159 then pure ()
    else
      match modes with
      | _ :: _ :: _ :: _ :: modes => termmodes modes
      | _ => dropbear_exit "Bad buf_getptr"

def get_termmodes (payload : Buffer) (tcgetattr : Bool) : Except Exit Unit :=
  if !tcgetattr then pure ()
  else do
    let (len, payload) ← buf_getint payload
    if len ≠ payload.rest.length then dropbear_exit "Bad term mode string"
    else if len = 0 then pure ()
    else termmodes payload.rest

/-- The name of the terminal is kept even if no terminal can be had. -/
def sessionpty (chansess : ChanSess) (payload : Buffer) (env : RequestEnv) :
    Except Abort (Status × ChanSess) := do
  if !svr_pubkey_allows_pty env.pubkey_options then pure (DROPBEAR_FAILURE, chansess)
  else
    let (term, payload) ← exits (buf_getstring payload)
    let chansess := { chansess with term := some (cstr term) }
    if term.length > MAX_TERM_LEN then pure (DROPBEAR_FAILURE, chansess)
    else if chansess.master ≠ -1 then exits (dropbear_exit "Multiple pty requests")
    else
      match env.pty with
      | none => pure (DROPBEAR_FAILURE, chansess)
      | some pty =>
        let chansess := { chansess with
          master := pty.master, slave := pty.slave, tty := some (cstr pty.tty) }
        let (_, payload) ← sessionwinchange chansess payload
        exits (get_termmodes payload env.tcgetattr)
        pure (DROPBEAR_SUCCESS, chansess)

def sessionsignal (chansess : ChanSess) (payload : Buffer) (env : RequestEnv) :
    Except Abort Status := do
  if chansess.pid = 0 then pure DROPBEAR_FAILURE
  else
    let (signame, _) ← exits (buf_getstring payload)
    match signames.find? fun entry => ascii entry.2 = cstr signame with
    | none => pure DROPBEAR_FAILURE
    | some _ => pure (if env.kill then DROPBEAR_SUCCESS else DROPBEAR_FAILURE)

/-! ## Commands -/

/-- The channel on the descriptors `writefd`, `readfd` and `errfd` of the process `pid`. -/
def Channel.startedOn (channel : Channel) (chansess : ChanSess) (pid : Nat) (pty : Bool)
    (writefd readfd errfd : Int) : Channel :=
  { channel with
    writefd := writefd
    readfd := readfd
    errfd := errfd
    chansess := some { chansess with pid := pid }
    trace := { channel.trace with
      setups := channel.trace.setups + 1
      started := channel.trace.started ++ [{
        pid := pid
        cmd := chansess.cmd
        pty := pty
        writefd := writefd
        readfd := readfd
        errfd := errfd
        afterEof := channel.sent_eof
        afterClose := channel.sent_close }] } }

/-- The parent's side of `noptycommand`. -/
def noptycommand (channel : Channel) (chansess : ChanSess) (spawn : Option Spawned) :
    Status × Channel :=
  match spawn with
  | none => (DROPBEAR_FAILURE, { channel with chansess := some chansess })
  | some s => (DROPBEAR_SUCCESS, channel.startedOn chansess s.pid false s.infd s.outfd s.errfd)

/-- The parent's side of `ptycommand`. -/
def ptycommand (channel : Channel) (chansess : ChanSess) (spawn : Option Spawned) :
    Status × Channel :=
  if chansess.master = -1 ∨ chansess.tty = none then
    (DROPBEAR_FAILURE, { channel with chansess := some chansess })
  else
    match spawn with
    | none => (DROPBEAR_FAILURE, { channel with chansess := some chansess })
    | some s => (DROPBEAR_SUCCESS,
        channel.startedOn chansess s.pid true chansess.master chansess.master channel.errfd)

def svr_pubkey_set_forced_command (pubkey_options : Option PubKeyOptions) (chansess : ChanSess) :
    ChanSess :=
  match pubkey_options.bind PubKeyOptions.forced_command with
  | some forced_command => { chansess with
      original_command := some (chansess.cmd.getD [])
      cmd := some (cstr forced_command) }
  | none => chansess

/-- The server's command takes precedence over the key's. -/
def forceCommand (opts : Opts) (pubkey_options : Option PubKeyOptions) (chansess : ChanSess) :
    ChanSess :=
  match opts.forced_command with
  | some forced_command => { chansess with
      original_command := some (chansess.cmd.getD [])
      cmd := some (cstr forced_command) }
  | none => svr_pubkey_set_forced_command pubkey_options chansess

/-- The command the client asks for: none for a shell. The outer `none` is a refusal, after which
`chansess->cmd` is `NULL` again. -/
def requestedCommand (opts : Opts) (iscmd issubsys : Bool) (payload : Buffer) :
    Except Abort (Option (Option Bytes)) := do
  if !iscmd then pure (some none)
  else
    let (cmd, _) ← exits (buf_getstring payload)
    if cmd.length > MAX_CMD_LEN then pure none
    else if !issubsys then pure (some (some (cstr cmd)))
    else if cmd = ascii "sftp" then
      pure (some (some (opts.conf_lib ++ ascii "/libsftp-server.so")))
    else pure none

/-- A command is started with or without a terminal. If that fails, `cmd` is freed. -/
def startCommand (channel : Channel) (chansess : ChanSess) (spawn : Option Spawned) :
    Status × Channel :=
  match
    (if chansess.term = none then noptycommand channel chansess spawn
      else ptycommand channel chansess spawn) with
  | (DROPBEAR_SUCCESS, channel) => (DROPBEAR_SUCCESS, channel)
  | (DROPBEAR_FAILURE, channel) =>
    (DROPBEAR_FAILURE, { channel with chansess := some { chansess with cmd := none } })

def sessioncommand (opts : Opts) (channel : Channel) (chansess : ChanSess) (iscmd issubsys : Bool)
    (payload : Buffer) (env : RequestEnv) : Except Abort (Status × Channel) := do
  if chansess.cmd ≠ none then pure (DROPBEAR_FAILURE, channel)
  else
    let requested ← requestedCommand opts iscmd issubsys payload
    match requested with
    | none => pure (DROPBEAR_FAILURE, channel)
    | some cmd =>
      let chansess := forceCommand opts env.pubkey_options { chansess with cmd := cmd }
      pure (startCommand channel chansess env.spawn)

/-! ## Requests -/

/-- The request of a type that is not too long. Anything unknown is refused. -/
def sessionRequest (opts : Opts) (channel : Channel) (chansess : ChanSess) (type : Bytes)
    (payload : Buffer) (env : RequestEnv) : Except Abort (Status × Channel) :=
  if type = ascii "window-change" then do
    let (ret, _) ← sessionwinchange chansess payload
    pure (ret, channel)
  else if type = ascii "shell" then sessioncommand opts channel chansess false false payload env
  else if type = ascii "pty-req" then do
    let (ret, chansess) ← sessionpty chansess payload env
    pure (ret, { channel with chansess := some chansess })
  else if type = ascii "exec" then sessioncommand opts channel chansess true false payload env
  else if type = ascii "subsystem" then sessioncommand opts channel chansess true true payload env
  else if type = ascii "signal" then do
    let ret ← sessionsignal chansess payload env
    pure (ret, channel)
  else pure (DROPBEAR_FAILURE, channel)

def handleSessionRequest (opts : Opts) (channel : Channel) (type : Bytes) (payload : Buffer)
    (env : RequestEnv) : Except Abort (Status × Channel) :=
  if type.length > MAX_NAME_LEN then pure (DROPBEAR_FAILURE, channel)
  else
    match channel.chansess with
    | none => throw (.assertion .requestChansess)
    | some chansess => sessionRequest opts channel chansess (cstr type) payload env

/-- The reply to a request, if the peer wants one. -/
def Channel.reply (channel : Channel) (wantreply : Bool) : Status → Channel
  | DROPBEAR_SUCCESS => if wantreply then send_msg_channel_success channel else channel
  | DROPBEAR_FAILURE => if wantreply then send_msg_channel_failure channel else channel

def chansessionrequest (opts : Opts) (channel : Channel) (payload : Buffer) (env : RequestEnv) :
    Except Abort Channel := do
  let (type, payload) ← exits (buf_getstring payload)
  let (wantreply, payload) ← exits (buf_getbool payload)
  let (ret, channel) ← handleSessionRequest opts channel type payload env
  pure (channel.reply wantreply ret)

def recv_msg_channel_request (opts : Opts) (channel : Channel) (payload : Buffer)
    (env : RequestEnv) : Except Abort Channel :=
  if channel.type.reqhandler then chansessionrequest opts channel payload env
  else do
    let payload ← exits (buf_eatstring payload)
    let (wantreply, _) ← exits (buf_getbool payload)
    pure (channel.reply wantreply DROPBEAR_FAILURE)

end SimpleSshd.Dropbear
