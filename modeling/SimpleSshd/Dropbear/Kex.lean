import SimpleSshd.Dropbear.Auth

/-!
# `common-algo.c`, `common-kex.c`, `svr-kex.c`: the key exchange

The exchange goes `KEXINIT`, `KEXDH_INIT`, `NEWKEYS`. The lists of algorithms are matched, the
arithmetic is a parameter, and the new keys of each direction come into use at different times. The
places where they do are recorded in the log of the session.
-/

namespace SimpleSshd.Dropbear

def MAX_PROPOSED_ALGO : Nat := 20
def MAX_NAME_LEN : Nat := 64
def ALGOLIST_SIZE : Nat := 300
def KEXGUESS2_ALGO_NAME : Bytes := ascii "kexguess2@matt.ucc.asn.au"

/-! ## Lists of algorithms -/

def buf_put_algolist {δ : Type} (localalgos : List (AlgoType δ)) : Except Exit Bytes :=
  let algolist := List.intercalate [COMMA] ((localalgos.filter (·.usable)).map (·.name))
  if algolist.length > ALGOLIST_SIZE then dropbear_exit "Bad buf_getwriteptr"
  else pure (putstring algolist)

inductive KexGuess2
  | LOOK
  | YES
  | NO
  deriving DecidableEq, Repr

/-- The names in a comma-separated list; `remotecount` of them were begun, and `name` is the last one
so far. Once the array is full, the rest of the list is the last name. -/
def remotenames (remotecount : Nat) (name : Bytes) : Bytes → Option (List Bytes)
  | [] => some [name]
  | c :: cs =>
    -- someone is trying something strange
    if c = 0 then none
    else if c = COMMA then
      if remotecount + 1 ≥ MAX_PROPOSED_ALGO then some [name, cstr cs]
      else (remotenames (remotecount + 1) [] cs).map (name :: ·)
    else remotenames remotecount (name ++ [c]) cs

/-- The first usable local algorithm of this name, and its index. -/
def findLocal {δ : Type} (name : Bytes) : Nat → List (AlgoType δ) → Option (Nat × AlgoType δ)
  | _, [] => none
  | j, a :: as => if a.usable ∧ a.name = name then some (j, a) else findLocal name (j + 1) as

/-- The first of the client's names that is a local algorithm, with both indices. -/
def firstMatch {δ : Type} (localalgos : List (AlgoType δ)) :
    Nat → List Bytes → Option (Nat × Nat × AlgoType δ)
  | _, [] => none
  | i, name :: names =>
    match findLocal name 0 localalgos with
    | some (j, a) => some (i, j, a)
    | none => firstMatch localalgos (i + 1) names

/-- What the name of the marker in the client's list says, if it is still looked for. -/
def lookForGuess2 (names : List Bytes) : KexGuess2 → KexGuess2
  | .LOOK => if KEXGUESS2_ALGO_NAME ∈ names then .YES else .NO
  | kexguess2 => kexguess2

/-- `buf_match_algo` with a guess to check: the algorithm, whether the guess was good, and what is
known about the marker. -/
def buf_match_algo {δ : Type} (b : Buffer) (localalgos : List (AlgoType δ))
    (kexguess2 : KexGuess2) : Except Exit (Option (AlgoType δ) × Bool × KexGuess2 × Buffer) := do
  let (algolist, b) ← buf_getstring b
  if algolist.length > MAX_PROPOSED_ALGO * (MAX_NAME_LEN + 1) then pure (none, false, kexguess2, b)
  else
    match remotenames 1 [] algolist with
    | none => pure (none, false, kexguess2, b)
    | some names =>
      let kexguess2 := lookForGuess2 names kexguess2
      match firstMatch localalgos 0 names with
      | none => pure (none, false, kexguess2, b)
      | some (i, j, algo) =>
        let goodguess := if kexguess2 = .YES then i = 0 else i = 0 ∧ j = 0
        pure (some algo, goodguess, kexguess2, b)

/-- `buf_match_algo` without one; it must find something. -/
def matchAlgo {δ : Type} (b : Buffer) (localalgos : List (AlgoType δ)) (erralgo : String) :
    Except Exit (δ × Buffer) := do
  let (algo, _, _, b) ← buf_match_algo b localalgos .NO
  match algo with
  | none => dropbear_exit ("No matching algo " ++ erralgo)
  | some algo => pure (algo.data, b)

/-! ## KEXINIT -/

def kexinitPayload (cfg : Config) (env : Env) : Except Exit Bytes := do
  let kex ← buf_put_algolist cfg.sshkex
  let hostkey ← buf_put_algolist cfg.sshhostkey
  let ciphers ← buf_put_algolist cfg.sshciphers
  let hashes ← buf_put_algolist cfg.sshhashes
  let compress ← buf_put_algolist cfg.compress_algos
  -- a cookie, the lists for each direction, no languages, no guess, and a reserved word
  pure (SSH_MSG_KEXINIT :: ((env.random ++ List.replicate 16 0).take 16 ++ kex ++ hostkey ++
    ciphers ++ ciphers ++ hashes ++ hashes ++ compress ++ compress ++ putstring [] ++
    putstring [] ++ [0] ++ be32 0))

def send_msg_kexinit (cfg : Config) (env : Env) (s : Session) : Except Exit Session := do
  let writepayload ← kexinitPayload cfg env
  let s ← encrypt_packet cfg env s writepayload
  pure { s with
    transkexinit := some writepayload
    dataallowed := false
    kexstate := { s.kexstate with sentkexinit := true }
    newkeys := some {} }

/-- What the client's lists lead to: the new keys, whether the client's next packet is a guess, and
whether that one is to be ignored. -/
def read_kex_algos (cfg : Config) (payload : Buffer) : Except Exit (KeyContext × Bool × Bool) := do
  -- start after the cookie
  let payload ← buf_incrpos payload 16
  let (kex, kexgood, kexguess2, payload) ← buf_match_algo payload cfg.sshkex .LOOK
  match kex.bind (·.data) with
  | none => dropbear_exit "No matching algo kex"
  | some algo_kex =>
    let (hostkey, hostkeygood, _, payload) ← buf_match_algo payload cfg.sshhostkey kexguess2
    match hostkey with
    | none => dropbear_exit "No matching algo hostkey"
    | some hostkey =>
      let (c2s_cipher, payload) ← matchAlgo payload cfg.sshciphers "enc c->s"
      let (s2c_cipher, payload) ← matchAlgo payload cfg.sshciphers "enc s->c"
      let (c2s_hash, payload) ← matchAlgo payload cfg.sshhashes "mac c->s"
      let (s2c_hash, payload) ← matchAlgo payload cfg.sshhashes "mac s->c"
      let (c2s_comp, payload) ← matchAlgo payload cfg.compress_algos "comp c->s"
      let (s2c_comp, payload) ← matchAlgo payload cfg.compress_algos "comp s->c"
      let payload ← buf_eatstring payload
      let payload ← buf_eatstring payload
      let (follows, payload) ← buf_getbool payload
      let (_, _) ← buf_getint payload
      let newkeys : KeyContext :=
        { recv := { algo_crypt := c2s_cipher, algo_mac := c2s_hash, algo_comp := c2s_comp }
          trans := { algo_crypt := s2c_cipher, algo_mac := s2c_hash, algo_comp := s2c_comp }
          algo_kex := some algo_kex
          algo_hostkey := some hostkey.data }
      pure (newkeys, follows, follows && !(kexgood && hostkeygood))

/-- `recv_msg_kexinit` once our own `KEXINIT` is out. -/
def recv_kexinit_body (cfg : Config) (s : Session) (payload : Buffer) : Except Exit Session := do
  match s.remoteident, s.transkexinit, s.newkeys with
  | some remoteident, some transkexinit, some _ =>
    let (newkeys, follows, ignore) ← read_kex_algos cfg payload
    pure { s with
      newkeys := some newkeys
      kexstate := { s.kexstate with
        them_firstfollows := s.kexstate.them_firstfollows || follows
        recvkexinit := true }
      ignorenext := s.ignorenext || ignore
      kexhashbuf := some (putstring remoteident ++ putstring cfg.LOCAL_IDENT ++
        putstring (payload.contents.drop s.payload_beginning) ++ putstring transkexinit)
      requirenext := SSH_MSG_KEXDH_INIT
      transkexinit := none }
  | _, _, _ => throw .fault

def recv_msg_kexinit (cfg : Config) (env : Env) (s : Session) (payload : Buffer) :
    Except Exit Session := do
  if s.kexstate.sentkexinit then recv_kexinit_body cfg s payload
  else
    let s ← send_msg_kexinit cfg env s
    recv_kexinit_body cfg s payload

/-! ## New keys -/

/-- Reset the key exchange, ready for a new negotiation. -/
def kexinitialise (env : Env) (s : Session) : Session :=
  { s with
    kexstate := { donefirstkex := s.kexstate.donefirstkex, lastkextime := env.now }
    datarecv := 0
    out := { s.out with datatrans := 0 }
    log := .kexinitialised :: s.log }

def kexfirstinitialise (env : Env) (s : Session) : Session :=
  kexinitialise env { s with kexstate := { s.kexstate with donefirstkex := false } }

/-- The keys of both directions from what the exchange agreed on. -/
def gen_new_keys (cfg : Config) (s : Session) : Except Exit Session := do
  match s.newkeys, s.dh_K, s.hash, s.session_id with
  | some newkeys, some dh_K, some hash, some session_id =>
    match newkeys.algo_kex with
    | none => throw .fault
    | some kex =>
      let recv ← cfg.kexcrypto.hashkeys kex dh_K hash session_id true newkeys.recv
      let trans ← cfg.kexcrypto.hashkeys kex dh_K hash session_id false newkeys.trans
      pure { s with
        newkeys := some { newkeys with
          recv := { newkeys.recv with secret := recv, valid := true }
          trans := { newkeys.trans with secret := trans, valid := true } }
        dh_K := none
        hash := none }
  | _, _, _, _ => throw .fault

/-- Take the received `NEWKEYS` into account; the new context is burnt once it is in use. -/
def switchRecv (s : Session) (newkeys : KeyContext) : Session :=
  if s.kexstate.recvnewkeys && newkeys.recv.valid then
    { s with
      keys := { s.keys with recv := newkeys.recv }
      newkeys := s.newkeys.map ({ · with recv := {} })
      log := .switchedRecv s.keys.recv newkeys.recv :: s.log }
  else s

def switchTrans (s : Session) (newkeys : KeyContext) : Session :=
  if s.kexstate.sentnewkeys && newkeys.trans.valid then
    { s with
      keys := { s.keys with trans := newkeys.trans }
      newkeys := s.newkeys.map ({ · with trans := {} })
      log := .switchedTrans s.keys.trans newkeys.trans :: s.log }
  else s

/-- When both sides have changed over, the exchange is done. -/
def switchDone (env : Env) (s : Session) (newkeys : KeyContext) : Session :=
  if s.kexstate.sentnewkeys && s.kexstate.recvnewkeys then
    kexinitialise env { s with
      keys := { s.keys with
        algo_kex := newkeys.algo_kex
        algo_hostkey := newkeys.algo_hostkey }
      newkeys := none }
  else s

def switch_keys (env : Env) (s : Session) : Except Exit Session := do
  if !(s.kexstate.sentkexinit && s.kexstate.recvkexinit) then
    dropbear_exit "Unexpected newkeys message"
  else
    match s.newkeys with
    | none => throw .fault
    | some newkeys => pure (switchDone env (switchTrans (switchRecv s newkeys) newkeys) newkeys)

def send_msg_newkeys (cfg : Config) (env : Env) (s : Session) : Except Exit Session := do
  let s ← encrypt_packet cfg env s [SSH_MSG_NEWKEYS]
  let s := { s with
    kexstate := { s.kexstate with sentnewkeys := true, donefirstkex := true }
    dataallowed := true }
  let s ← gen_new_keys cfg s
  switch_keys env s

def recv_msg_newkeys (env : Env) (s : Session) : Except Exit Session :=
  switch_keys env { s with kexstate := { s.kexstate with recvnewkeys := true } }

/-! ## KEXDH -/

/-- A public value as it is sent and hashed. -/
def putKexValue : KexValue → Bytes
  | .dh n => putmpint n
  | .ecdh q => putstring q

/-- The client's public value, which is the whole of the packet. -/
def readKexValue (mode : KexMode) (payload : Buffer) : Except Exit KexValue := do
  match mode with
  | .NORMAL_DH =>
    let (dh_e, payload) ← buf_getmpint payload
    match dh_e with
    | none => dropbear_exit "Bad kex value"
    | some dh_e => if payload.pos ≠ payload.len then dropbear_exit "Bad kex value" else pure (.dh dh_e)
  | .ECDH | .CURVE25519 =>
    let (ecdh_qs, payload) ← buf_getstringbuf payload
    if payload.pos ≠ payload.len then dropbear_exit "Bad kex value"
    else pure (.ecdh ecdh_qs.contents)

/-- The hash of the exchange; the first one is the session id. -/
def finish_kexhashbuf (cfg : Config) (kex : Kex) (s : Session) (kexhashbuf : Bytes) : Session :=
  let hash := cfg.kexcrypto.hash kex kexhashbuf
  { s with
    hash := some hash
    kexhashbuf := none
    session_id := some (s.session_id.getD hash) }

def send_msg_kexdh_reply (cfg : Config) (env : Env) (s : Session) (newkeys : KeyContext)
    (kex : Kex) (theirs : KexValue) : Except Exit Session := do
  match newkeys.algo_hostkey, s.kexhashbuf with
  | some algo_hostkey, some kexhashbuf =>
    let hostkey ← cfg.kexcrypto.put_pub_key algo_hostkey
    let (ours, dh_K) ← cfg.kexcrypto.comb_key kex theirs env.random
    let s := finish_kexhashbuf cfg kex { s with dh_K := some dh_K }
      (kexhashbuf ++ hostkey ++ putKexValue theirs ++ putKexValue ours ++ putmpint dh_K)
    encrypt_packet cfg env s (SSH_MSG_KEXDH_REPLY :: (hostkey ++ putKexValue ours ++
      cfg.kexcrypto.put_sign algo_hostkey (s.hash.getD [])))
  | _, _ => throw .fault

def recv_msg_kexdh_init (cfg : Config) (env : Env) (s : Session) (payload : Buffer) :
    Except Exit Session := do
  if !s.kexstate.recvkexinit then dropbear_exit "Premature kexdh_init message received"
  else
    match s.newkeys with
    | none => throw .fault
    | some newkeys =>
      match newkeys.algo_kex with
      | none => throw .fault
      | some kex =>
        let theirs ← readKexValue kex.mode payload
        let s ← send_msg_kexdh_reply cfg env s newkeys kex theirs
        let s ← send_msg_newkeys cfg env s
        pure { s with requirenext := SSH_MSG_NEWKEYS }

end SimpleSshd.Dropbear
