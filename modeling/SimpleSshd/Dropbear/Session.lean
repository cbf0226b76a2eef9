import Mathlib.Data.Nat.Digits.Defs
import SimpleSshd.Dropbear.AuthKeys

/-!
# `session.h`, `packet.c`: the state of a session and the sending of packets

The global `ses` is a value that every function takes and returns. What the session runs with and
never changes is the `Config`; what the outside world contributes to one call (the clock, the
content of a file, random bytes) is the `Env`. Ciphers and hashes are parameters: a packet on the
write queue is its payload with the keys and the sequence number it was sealed with.

The session keeps a `log` that no code of the source reads: the handlers that were called, the
packets that were sealed and the keys that were switched, newest first. Nor does it read the lists of
the packets sent and submitted so far.
-/

namespace SimpleSshd.Dropbear

export Framing (be32)

def SSH_MSG_DISCONNECT : UInt8 := 1
def SSH_MSG_IGNORE : UInt8 := 2
def SSH_MSG_UNIMPLEMENTED : UInt8 := 3
def SSH_MSG_DEBUG : UInt8 := 4
def SSH_MSG_SERVICE_REQUEST : UInt8 := 5
def SSH_MSG_SERVICE_ACCEPT : UInt8 := 6
def SSH_MSG_KEXINIT : UInt8 := 20
def SSH_MSG_NEWKEYS : UInt8 := 21
def SSH_MSG_KEXDH_INIT : UInt8 := 30
def SSH_MSG_KEXDH_REPLY : UInt8 := 31
def SSH_MSG_USERAUTH_REQUEST : UInt8 := 50
def SSH_MSG_USERAUTH_FAILURE : UInt8 := 51
def SSH_MSG_USERAUTH_SUCCESS : UInt8 := 52
def SSH_MSG_USERAUTH_BANNER : UInt8 := 53
def SSH_MSG_USERAUTH_PK_OK : UInt8 := 60
def MAX_UNAUTH_PACKET_TYPE : UInt8 := 60
def SSH_MSG_GLOBAL_REQUEST : UInt8 := 80
def SSH_MSG_REQUEST_SUCCESS : UInt8 := 81
def SSH_MSG_REQUEST_FAILURE : UInt8 := 82
def SSH_MSG_CHANNEL_OPEN : UInt8 := 90
def SSH_MSG_CHANNEL_OPEN_CONFIRMATION : UInt8 := 91
def SSH_MSG_CHANNEL_OPEN_FAILURE : UInt8 := 92
def SSH_MSG_CHANNEL_WINDOW_ADJUST : UInt8 := 93
def SSH_MSG_CHANNEL_DATA : UInt8 := 94
def SSH_MSG_CHANNEL_EOF : UInt8 := 96
def SSH_MSG_CHANNEL_CLOSE : UInt8 := 97
def SSH_MSG_CHANNEL_REQUEST : UInt8 := 98
def SSH_MSG_CHANNEL_SUCCESS : UInt8 := 99
def SSH_MSG_CHANNEL_FAILURE : UInt8 := 100

def TRANS_MAX_PAYLOAD_LEN : Nat := 16384
def MIN_PACKET_LEN : Nat := 16
def PACKET_PAYLOAD_OFF : Nat := 5

/-! ## Algorithms and keys -/

/-- An entry of a table of algorithms. -/
structure AlgoType (δ : Type) where
  name : Bytes
  usable : Bool
  data : δ

inductive KexMode
  | NORMAL_DH
  | ECDH
  | CURVE25519
  deriving DecidableEq, Repr

/-- `struct dropbear_kex`; its group and hash are known by its name. -/
structure Kex where
  name : Bytes
  mode : KexMode
  deriving DecidableEq, Repr

structure Cipher where
  keysize : Nat
  blocksize : Nat
  deriving DecidableEq, Repr

structure Mac where
  keysize : Nat
  hashsize : Nat
  deriving DecidableEq, Repr

def dropbear_nocipher : Cipher := { keysize := 16, blocksize := 8 }
def dropbear_nohash : Mac := { keysize := 16, hashsize := 0 }

inductive Comp
  | NONE
  | ZLIB
  | ZLIB_DELAY
  deriving DecidableEq, Repr

/-- `struct key_context_directional`; `secret` stands for the cipher and MAC keys. -/
structure Direction where
  algo_crypt : Cipher := dropbear_nocipher
  algo_mac : Mac := dropbear_nohash
  algo_comp : Comp := .NONE
  secret : Bytes := []
  valid : Bool := false
  deriving DecidableEq, Repr

structure KeyContext where
  recv : Direction := {}
  trans : Direction := {}
  algo_kex : Option Kex := none
  algo_hostkey : Option SignkeyType := none
  deriving DecidableEq, Repr

/-! ## Configuration and environment -/

/-- A public value of the key exchange, ours or the peer's. -/
inductive KexValue
  | dh (n : Nat)
  | ecdh (q : Bytes)
  deriving DecidableEq, Repr

/-- The arithmetic of the key exchange, and compression. -/
structure KexCrypto where
  /-- Our public value and the shared secret, for the peer's value and our random bytes. -/
  comb_key : Kex → KexValue → Bytes → Except Exit (KexValue × Nat)
  hash : Kex → Bytes → Bytes
  /-- The host key, read or generated if need be, as `buf_put_pub_key` writes it. -/
  put_pub_key : SignkeyType → Except Exit Bytes
  put_sign : SignkeyType → Bytes → Bytes
  /-- The keys of one direction from the shared secret, the hash and the session id. -/
  hashkeys : Kex → Nat → Bytes → Bytes → Bool → Direction → Except Exit Bytes
  deflate : Direction → Bytes → Bytes

structure Config where
  maxauthtries : Nat
  /-- `svr_getopts` refuses zero. -/
  maxauthtries_pos : 0 < maxauthtries
  allowblankpass : Bool
  noauthpass : Bool
  norootpass : Bool
  keepalive_secs : Nat
  idle_timeout_secs : Nat
  conf_home : Bytes
  conf_shell : Bytes
  LOCAL_IDENT : Bytes
  /-- The entry without data is the `kexguess2` marker. -/
  sshkex : List (AlgoType (Option Kex))
  sshhostkey : List (AlgoType SignkeyType)
  sshciphers : List (AlgoType Cipher)
  sshhashes : List (AlgoType Mac)
  compress_algos : List (AlgoType Comp)
  crypto : Crypto
  kexcrypto : KexCrypto

structure Env where
  now : Nat
  /-- The content of `authorized_keys`, if it can be opened. -/
  authfile : Option Bytes
  random : Bytes

/-! ## The session -/

structure AuthTypes where
  pubkey : Bool := false
  password : Bool := false
  deriving DecidableEq, Repr

/-- `struct AuthState`; a C string is the bytes before its NUL. `attempts` is not in the source: it
counts the passwords that were compared with the stored one. -/
structure AuthState where
  username : Option Bytes := none
  authtypes : AuthTypes := {}
  failcount : Nat := 0
  authdone : Bool := false
  checkusername_failed : Bool := false
  pw_uid : Nat := 0
  pw_gid : Nat := 0
  pw_dir : Option Bytes := none
  pw_shell : Option Bytes := none
  pw_name : Option Bytes := none
  pw_passwd : Option Bytes := none
  pubkey_options : Option PubKeyOptions := none
  attempts : Nat := 0
  deriving DecidableEq, Repr

/-- `struct KEXState`; the data counters are in `Out` and in the session. -/
structure KexState where
  sentkexinit : Bool := false
  recvkexinit : Bool := false
  them_firstfollows : Bool := false
  sentnewkeys : Bool := false
  recvnewkeys : Bool := false
  donefirstkex : Bool := false
  lastkextime : Nat := 0
  deriving DecidableEq, Repr

/-- A packet on the write queue. -/
structure Packet where
  payload : Bytes
  trans : Direction
  compressed : Bool
  seq : Nat
  deriving DecidableEq, Repr

/-- What sending a packet changes. `sent` and `submitted` are not in the source: the packets that were
ever put on the write queue, and the payloads that were given to `encrypt_packet`. -/
structure Out where
  writequeue : List Packet := []
  sent : List Packet := []
  submitted : List Bytes := []
  reply_queue : List Bytes := []
  transseq : Nat := 0
  datatrans : Nat := 0
  last_packet_time_any_sent : Nat := 0
  last_packet_time_keepalive_sent : Nat := 0
  last_packet_time_idle : Nat := 0
  deriving DecidableEq, Repr

inductive LogEntry
  /-- A handler was called on this payload. -/
  | handled (type : UInt8) (payload : Buffer) (authdone : Bool)
  /-- A packet of this type was encrypted with these keys. -/
  | sealed (type : UInt8) (trans : Direction)
  | switchedRecv (old new : Direction)
  | switchedTrans (old new : Direction)
  /-- The exchange is over. -/
  | kexinitialised
  deriving DecidableEq, Repr

structure Session where
  authstate : AuthState := {}
  kexstate : KexState := {}
  keys : KeyContext := {}
  newkeys : Option KeyContext := none
  requirenext : UInt8 := SSH_MSG_KEXINIT
  ignorenext : Bool := false
  dataallowed : Bool := true
  lastpacket : UInt8 := 0
  payload_beginning : Nat := 0
  recvseq : Nat := 0
  datarecv : Nat := 0
  session_id : Option Bytes := none
  hash : Option Bytes := none
  dh_K : Option Nat := none
  kexhashbuf : Option Bytes := none
  transkexinit : Option Bytes := none
  remoteident : Option Bytes := none
  connect_time : Nat := 0
  last_packet_time_keepalive_recv : Nat := 0
  allowprivport : Bool := false
  banner : Option Bytes := none
  out : Out := {}
  log : List LogEntry := []
  deriving DecidableEq, Repr

/-! ## Writing -/

/-- A string as `buf_putstring` writes it. -/
def putstring (s : Bytes) : Bytes := be32 s.length ++ s

/-- The big-endian bytes of a number, without leading zeroes. -/
def mp_to_unsigned_bin (n : Nat) : Bytes :=
  (List.range (mp_unsigned_bin_size n)).reverse.map fun i => UInt8.ofNat (n / 256 ^ i)

/-- The digits of a bignum in `libtommath`, the lowest first and without leading zeroes: zero has none.
How many bits a digit has depends on the platform. -/
def mp_digits (DIGIT_BIT : Nat) (mp : Int) : List Nat := Nat.digits (2 ^ DIGIT_BIT) mp.natAbs

def USED (DIGIT_BIT : Nat) (mp : Int) : Nat := (mp_digits DIGIT_BIT mp).length

def DIGIT (DIGIT_BIT : Nat) (mp : Int) (k : Nat) : Nat := (mp_digits DIGIT_BIT mp).getD k 0

def buf_putmpint (DIGIT_BIT : Nat) (b : Buffer) (mp : Int) : Except Exit Buffer :=
  if mp < 0 then dropbear_exit "negative bignum"
  else do
    -- zero check
    let zero := USED DIGIT_BIT mp = 1 ∧ DIGIT DIGIT_BIT mp 0 = 0
    let len := if zero then 0 else mp_count_bits mp.natAbs / 8 + 1
    let pad := if zero then 0 else if mp_count_bits mp.natAbs % 8 = 0 then 1 else 0
    let b ← buf_putint b len
    if len > 0 then
      let b ← if pad ≠ 0 then buf_putbyte b 0x00 else pure b
      buf_getwriteptr b (len - pad)
      let b ← b.store (mp_to_unsigned_bin mp.natAbs)
      buf_incrwritepos b (len - pad)
    else pure b

/-- The bytes that `buf_putmpint` writes. -/
def putmpint (n : Nat) : Bytes :=
  if mp_count_bits n % 8 = 0 then putstring (0 :: mp_to_unsigned_bin n)
  else putstring (mp_to_unsigned_bin n)

/-! ## Packets -/

def packet_is_okay_kex (type : UInt8) : Bool :=
  if type ≥ SSH_MSG_USERAUTH_REQUEST then false
  else if type = SSH_MSG_SERVICE_REQUEST ∨ type = SSH_MSG_SERVICE_ACCEPT then false
  else if type = SSH_MSG_KEXINIT then false
  else true

def is_compress_trans (s : Session) : Bool :=
  s.keys.trans.algo_comp = .ZLIB ∨ (s.authstate.authdone ∧ s.keys.trans.algo_comp = .ZLIB_DELAY)

/-- The length on the wire of a packet with `n` bytes of (compressed) payload. -/
def wireLength (trans : Direction) (n : Nat) : Nat :=
  let blocksize := trans.algo_crypt.blocksize
  let len := PACKET_PAYLOAD_OFF + n
  let padlen := blocksize - len % blocksize
  let padlen := if padlen < 4 then padlen + blocksize else padlen
  let padlen := if len + padlen < MIN_PACKET_LEN then padlen + blocksize else padlen
  len + padlen + trans.algo_mac.hashsize

def enqueue_reply_packet (out : Out) (writepayload : Bytes) : Out :=
  { out with
    reply_queue := out.reply_queue ++ [writepayload]
    submitted := out.submitted ++ [writepayload] }

/-- The packet sealed and on the write queue. -/
def sealPacket (cfg : Config) (env : Env) (s : Session) (packet_type : UInt8) (payload : Bytes) :
    Out :=
  let body := if is_compress_trans s then cfg.kexcrypto.deflate s.keys.trans payload else payload
  let packet : Packet :=
    { payload, trans := s.keys.trans, compressed := is_compress_trans s, seq := s.out.transseq }
  let quiet := packet_type = SSH_MSG_REQUEST_FAILURE ∨ packet_type = SSH_MSG_UNIMPLEMENTED ∨
    packet_type = SSH_MSG_IGNORE
  { s.out with
    writequeue := s.out.writequeue ++ [packet]
    sent := s.out.sent ++ [packet]
    submitted := s.out.submitted ++ [payload]
    transseq := (s.out.transseq + 1) % 2 ^ 32
    datatrans := (s.out.datatrans + wireLength s.keys.trans body.length) % 2 ^ 32
    last_packet_time_any_sent := env.now
    last_packet_time_idle := if quiet then s.out.last_packet_time_idle else env.now }

/-- `encrypt_packet` of a payload that was written to `ses.writepayload`. -/
def encrypt_packet (cfg : Config) (env : Env) (s : Session) (writepayload : Bytes) :
    Except Exit Session :=
  if writepayload.length > TRANS_MAX_PAYLOAD_LEN then dropbear_exit "Bad buf_getwriteptr"
  else
    match writepayload with
    | [] => dropbear_exit "Bad buf_getbyte"
    | packet_type :: _ =>
      if !s.dataallowed && !packet_is_okay_kex packet_type then
        -- sent after the key exchange
        pure { s with out := enqueue_reply_packet s.out writepayload }
      else
        pure { s with
          out := sealPacket cfg env s packet_type writepayload
          log := .sealed packet_type s.keys.trans :: s.log }

/-- `encrypt_packet` for each payload in turn. -/
def encrypt_packets (cfg : Config) (env : Env) (s : Session) : List Bytes → Except Exit Session
  | [] => pure s
  | payload :: payloads => do
    let s ← encrypt_packet cfg env s payload
    encrypt_packets cfg env s payloads

/-- What is flushed has been submitted before. -/
def maybe_flush_reply_queue (cfg : Config) (env : Env) (s : Session) : Except Exit Session :=
  if !s.dataallowed then pure s
  else do
    let submitted := s.out.submitted
    let s ← encrypt_packets cfg env s s.out.reply_queue
    pure { s with out := { s.out with reply_queue := [], submitted } }

end SimpleSshd.Dropbear
