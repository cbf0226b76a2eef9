import SimpleSshd.Dropbear.Session

/-!
# `svr-auth.c`, `svr-authpasswd.c`, `svr-authpubkey.c`: user authentication

The handler of `SSH_MSG_USERAUTH_REQUEST` with the password and public key methods. The payload of
the request is an argument; its position is after the packet type.
-/

namespace SimpleSshd.Dropbear

def MAX_USERNAME_LEN : Nat := 100
def DROPBEAR_MAX_PASSWORD_LEN : Nat := 100
def SSH_SERVICE_CONNECTION : Bytes := ascii "ssh-connection"
def AUTH_METHOD_NONE : Bytes := ascii "none"
def AUTH_METHOD_PASSWORD : Bytes := ascii "password"
def AUTH_METHOD_PUBKEY : Bytes := ascii "publickey"

/-- A byte string read as a C string. -/
def cstr (bs : Bytes) : Bytes := bs.takeWhile (· ≠ 0)

/-- `authkeys_exists`: the file can be opened and has a line's worth of bytes. -/
def authkeys_exists (env : Env) : Bool :=
  match env.authfile with
  | none => false
  | some file => MIN_AUTHKEYS_LINE ≤ file.length

def svr_authinitialise (env : Env) : AuthState :=
  if authkeys_exists env then { authtypes := { pubkey := true } }
  else { authtypes := { password := true }, pw_passwd := some (ascii "12345678") }

/-! ## Replies -/

/-- The methods that can continue, comma-separated. -/
def authmethods (types : AuthTypes) : Bytes :=
  (if types.pubkey then AUTH_METHOD_PUBKEY ++ (if types.password then [COMMA] else []) else []) ++
    (if types.password then AUTH_METHOD_PASSWORD else [])

def send_msg_userauth_banner (cfg : Config) (env : Env) (s : Session) (banner : Bytes) :
    Except Exit Session :=
  encrypt_packet cfg env s
    (SSH_MSG_USERAUTH_BANNER :: (putstring banner ++ putstring (ascii "en")))

def send_msg_userauth_failure (cfg : Config) (env : Env) (s : Session)
    (partialSuccess incrfail : Bool) : Except Exit Session := do
  let s ← encrypt_packet cfg env s (SSH_MSG_USERAUTH_FAILURE ::
    (putstring (authmethods s.authstate.authtypes) ++ [if partialSuccess then 1 else 0]))
  let failcount := if incrfail then s.authstate.failcount + 1 else s.authstate.failcount
  if failcount ≥ cfg.maxauthtries then
    dropbear_exit "Max auth tries reached - user '%s' from %s"
  else pure { s with authstate := { s.authstate with failcount } }

def send_msg_userauth_success (cfg : Config) (env : Env) (s : Session) : Except Exit Session := do
  let s ← encrypt_packet cfg env s [SSH_MSG_USERAUTH_SUCCESS]
  pure { s with
    authstate := { s.authstate with authdone := true }
    connect_time := 0
    allowprivport := if s.authstate.pw_uid = 0 then true else s.allowprivport }

def send_msg_userauth_pk_ok (cfg : Config) (env : Env) (s : Session) (algo keyblob : Bytes) :
    Except Exit Session :=
  encrypt_packet cfg env s (SSH_MSG_USERAUTH_PK_OK :: (putstring algo ++ putstring keyblob))

/-! ## The account -/

/-- `fill_passwd`: there is one account, whatever the name. -/
def fill_passwd (cfg : Config) (a : AuthState) : AuthState :=
  { a with
    pw_uid := 0
    pw_gid := 0
    pw_name := some (ascii "user")
    pw_dir := some cfg.conf_home
    pw_shell := some cfg.conf_shell
    pw_passwd := some (a.pw_passwd.getD (ascii "!!")) }

/-- The first request sets the user name, and later ones must carry the same. -/
def sameusername (cfg : Config) (a : AuthState) (username : Bytes) : Except Exit AuthState :=
  match a.username with
  | none => pure { fill_passwd cfg a with username := some username }
  | some name =>
    if username ≠ name then dropbear_exit "Client trying multiple usernames from %s" else pure a

def checkusername (cfg : Config) (a : AuthState) (username : Bytes) :
    Except Exit (Status × AuthState) := do
  if username.length > MAX_USERNAME_LEN then pure (DROPBEAR_FAILURE, a)
  else if (cstr username).length ≠ username.length then
    dropbear_exit "Attempted username with a null byte from %s"
  else
    let a ← sameusername cfg a username
    if a.checkusername_failed then pure (DROPBEAR_FAILURE, a)
    else if a.pw_name = none then
      pure (DROPBEAR_FAILURE, { a with checkusername_failed := true })
    else pure (DROPBEAR_SUCCESS, a)

/-! ## Password -/

/-- The loop of `constant_time_memcmp` over as many bytes as both have. -/
def constant_time_memcmp (a b : Bytes) : UInt8 :=
  (List.zipWith (· ^^^ ·) a b).foldl (· ||| ·) 0

/-- `constant_time_strcmp` of two C strings. -/
def constant_time_strcmp (a b : Bytes) : UInt8 :=
  if a.length ≠ b.length then 1 else constant_time_memcmp a b

/-- What is compared with the stored password: a password of eight bytes before its NUL. -/
def testcrypt (valid_user : Bool) (password : Bytes) : Option Bytes :=
  if valid_user && password.length ≤ DROPBEAR_MAX_PASSWORD_LEN && (cstr password).length = 8 then
    some (cstr password)
  else none

def svr_auth_password (cfg : Config) (env : Env) (s : Session) (payload : Buffer)
    (valid_user : Bool) : Except Exit Session := do
  let (changepw, payload) ← buf_getbool payload
  if changepw then send_msg_userauth_failure cfg env s false true
  else
    let (password, _) ← buf_getstring payload
    if !valid_user then send_msg_userauth_failure cfg env s false true
    else if password.length > DROPBEAR_MAX_PASSWORD_LEN then
      send_msg_userauth_failure cfg env s false true
    else
      match testcrypt valid_user password with
      | none => send_msg_userauth_failure cfg env s false true
      | some test =>
        match s.authstate.pw_passwd with
        | none => throw .fault
        | some passwdcrypt =>
          -- blank passwords are rejected
          if passwdcrypt = [] then send_msg_userauth_failure cfg env s false true
          else
            let s := { s with
              authstate := { s.authstate with attempts := s.authstate.attempts + 1 } }
            if test = passwdcrypt then send_msg_userauth_success cfg env s
            else send_msg_userauth_failure cfg env s false true

/-! ## Public key -/

/-- The data that is signed: the session id and the payload up to the signature. -/
def signedData (session_id : Bytes) (payload_beginning : Nat) (payload : Buffer) : Bytes :=
  putstring session_id ++
    (payload.contents.drop payload_beginning).take (payload.pos - payload_beginning)

/-- The signature check at the end of `svr_auth_pubkey`. -/
def auth_pubkey_verify (cfg : Config) (env : Env) (s : Session) (payload : Buffer) :
    Except Exit Session := do
  let (key, payload) ← buf_get_pub_key payload new_sign_key none
  match key with
  | none => send_msg_userauth_failure cfg env s false true
  | some key =>
    if payload.pos < s.payload_beginning then throw .fault
    else
      match s.session_id with
      | none => throw .fault
      | some session_id =>
        let ret ← buf_verify cfg.crypto payload key
          (signedData session_id s.payload_beginning payload)
        match ret with
        | DROPBEAR_SUCCESS => send_msg_userauth_success cfg env s
        | DROPBEAR_FAILURE => send_msg_userauth_failure cfg env s false true

/-- `svr_auth_pubkey` up to the label `out`. -/
def auth_pubkey_body (cfg : Config) (env : Env) (s : Session) (payload : Buffer)
    (valid_user : Bool) : Except Exit Session := do
  let (flag, payload) ← buf_getbool payload
  let testkey := !flag
  let (algo, payload) ← buf_getstring payload
  let (keybloblen, payload) ← buf_getint payload
  let keyblob ← buf_getptr payload keybloblen
  if !valid_user then send_msg_userauth_failure cfg env s false false
  else
    let (ret, pubkey_options) ← checkpubkey env.authfile algo keyblob s.authstate.pubkey_options
    let s := { s with authstate := { s.authstate with pubkey_options } }
    match ret with
    | DROPBEAR_FAILURE => send_msg_userauth_failure cfg env s false false
    | DROPBEAR_SUCCESS =>
      if testkey then send_msg_userauth_pk_ok cfg env s algo keyblob
      -- the key is read again, from the packet
      else auth_pubkey_verify cfg env s payload

/-- The key's options are kept only if it was accepted. -/
def svr_auth_pubkey (cfg : Config) (env : Env) (s : Session) (payload : Buffer)
    (valid_user : Bool) : Except Exit Session := do
  let s ← auth_pubkey_body cfg env s payload valid_user
  if s.authstate.authdone then pure s
  else pure { s with authstate := { s.authstate with pubkey_options := none } }

/-! ## The handler -/

/-- Whether a `none` request is granted. -/
def blankPassword (cfg : Config) (a : AuthState) (valid_user : Bool) : Except Exit Bool :=
  if valid_user && cfg.allowblankpass && !cfg.noauthpass && !(cfg.norootpass && a.pw_uid == 0) then
    match a.pw_passwd with
    | none => throw .fault
    | some passwd => pure (passwd = [])
  else pure false

/-- The banner is sent once. -/
def sendBanner (cfg : Config) (env : Env) (s : Session) : Except Exit Session :=
  match s.banner with
  | none => pure s
  | some banner => do
    let s ← send_msg_userauth_banner cfg env s banner
    pure { s with banner := none }

/-- The request's method, once the user name was checked. -/
def userauth_method (cfg : Config) (env : Env) (s : Session) (payload : Buffer)
    (methodname : Bytes) (valid_user : Bool) : Except Exit Session :=
  if methodname = AUTH_METHOD_NONE then do
    let granted ← blankPassword cfg s.authstate valid_user
    if granted then send_msg_userauth_success cfg env s
    else send_msg_userauth_failure cfg env s false false
  else if s.authstate.authtypes.password ∧ methodname = AUTH_METHOD_PASSWORD then
    -- valid_user=1
    svr_auth_password cfg env s payload true
  else if methodname = AUTH_METHOD_PUBKEY then svr_auth_pubkey cfg env s payload valid_user
  else send_msg_userauth_failure cfg env s false true

def recv_msg_userauth_request (cfg : Config) (env : Env) (s : Session) (payload : Buffer) :
    Except Exit Session := do
  if s.authstate.authdone then pure s
  else
    let s ← sendBanner cfg env s
    let (username, payload) ← buf_getstring payload
    let (servicename, payload) ← buf_getstring payload
    let (methodname, payload) ← buf_getstring payload
    if servicename.length ≠ SSH_SERVICE_CONNECTION.length ∧
        servicename.take SSH_SERVICE_CONNECTION.length ≠ SSH_SERVICE_CONNECTION then
      dropbear_exit "unknown service in auth"
    else
      let (ret, authstate) ← checkusername cfg s.authstate username
      userauth_method cfg env { s with authstate } payload methodname (ret = DROPBEAR_SUCCESS)

/-! ## Sequences of requests -/

/-- A request and what the world is like when it arrives. -/
structure Request where
  env : Env
  payload : Buffer

/-- A request is handled. Since the last one, anything but the authentication state may have
changed: other packets were handled, keys were exchanged, time went by. -/
def RequestStep (cfg : Config) (s : Session) (r : Request) (s' : Session) : Prop :=
  ∃ s₁ : Session, s₁.authstate = s.authstate ∧
    recv_msg_userauth_request cfg r.env s₁ r.payload = .ok s'

end SimpleSshd.Dropbear
