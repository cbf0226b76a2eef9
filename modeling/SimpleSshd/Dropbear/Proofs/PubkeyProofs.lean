import SimpleSshd.Dropbear.Proofs.AuthKeysProofs
import SimpleSshd.Dropbear.Proofs.AuthProofs
import SimpleSshd.Dropbear.Proofs.SignKeyProofs

/-!
# Proofs: the key that verifies the signature

`checkpubkey` compares the bytes of the key with the file, and `buf_get_pub_key` then reads the key
again from the packet, without a bound. The two agree exactly when the bytes that were compared are
a whole key.
-/

namespace SimpleSshd.Dropbear

open Fallible Framing

variable {cfg : Config} {env : Env} {s s' : Session} {payload b b' : Buffer} {valid_user : Bool}
  {opts opts' : Option PubKeyOptions} {algo keyblob : Bytes} {key : SignKey}

/-- The key was read from exactly the bytes of the blob, and is the key these bytes alone are. -/
def KeyFromBlob (keyblob : Bytes) (b b' : Buffer) (key : SignKey) : Prop :=
  b'.pos = b.pos + keyblob.length ∧ ∃ c c', Buffer.holding keyblob = .ok c ∧
    buf_get_pub_key c new_sign_key none = .ok (some key, c')

theorem PubkeyAccepted.keyFromBlob {session_id : Option Bytes} {beginning : Nat}
    (h : PubkeyAccepted cfg env session_id beginning payload opts opts' algo keyblob b b' key) :
    KeyFromBlob keyblob b b' key ↔ Framed (numFields algo) keyblob := by
  obtain ⟨_, _, _, _, _, hptr⟩ := h.request
  obtain ⟨hle, hblob⟩ := buf_getptr_ok.mp hptr
  obtain ⟨tail, htail⟩ := checkpubkey_names_algo h.authorised
  unfold KeyFromBlob
  generalize hn : keyblob.length = n at hle hblob
  rw [hblob] at htail ⊢
  exact buf_get_pub_key_take h.key_read hle htail

theorem auth_pubkey_verify_success {id : Bytes} (hbeg : s.payload_beginning ≤ b'.pos)
    (hkey : buf_get_pub_key b new_sign_key none = .ok (some key, b'))
    (hid : s.session_id = some id)
    (hverify : buf_verify cfg.crypto b' key (signedData id s.payload_beginning b') =
      .ok DROPBEAR_SUCCESS) :
    auth_pubkey_verify cfg env s b = send_msg_userauth_success cfg env s := by
  unfold auth_pubkey_verify
  simp only [hkey, ok_bind, if_neg (Nat.not_lt_of_le hbeg), hid, hverify]

/-- A request that meets all the checks succeeds. -/
theorem svr_auth_pubkey_of_accepted (hbeg : s.payload_beginning ≤ b'.pos)
    (h : PubkeyAccepted cfg env s.session_id s.payload_beginning payload
      s.authstate.pubkey_options opts algo keyblob b b' key) :
    ∃ s', svr_auth_pubkey cfg env s payload true = .ok s' ∧ s'.authstate.authdone = true := by
  obtain ⟨⟨b₁, b₂, hflag, halgo, hlen, hptr⟩, hcheck, hkey, id, hid, hverify⟩ := h
  have hsuccess : ∀ t : Session, ∃ s', send_msg_userauth_success cfg env t = .ok s' ∧
      s'.authstate.authdone = true := by
    intro t
    unfold send_msg_userauth_success encrypt_packet
    rw [if_neg (by decide : ¬ [SSH_MSG_USERAUTH_SUCCESS].length > TRANS_MAX_PAYLOAD_LEN)]
    simp only
    split_ifs <;> exact ⟨_, rfl, rfl⟩
  obtain ⟨s', hsent, hdone⟩ := hsuccess { s with
    authstate := { s.authstate with pubkey_options := opts } }
  have hbody : auth_pubkey_body cfg env s payload true = .ok s' := by
    unfold auth_pubkey_body
    simp only [hflag, ok_bind, halgo, hlen, hptr, Bool.not_true, Bool.false_eq_true, if_false,
      hcheck]
    exact (auth_pubkey_verify_success (s := { s with
      authstate := { s.authstate with pubkey_options := opts } }) hbeg hkey hid hverify).trans hsent
  refine ⟨s', ?_, hdone⟩
  unfold svr_auth_pubkey
  rw [hbody, ok_bind, if_pos hdone]
  rfl

/-- **The key that verified the signature** was read from exactly the authorised bytes if and only
if these are as many length-prefixed fields as a key of the algorithm has, and nothing else. -/
theorem pubkey_from_blob_iff (cfg : Config) (env : Env) (s : Session) (payload : Buffer)
    (valid_user : Bool) {s' : Session} (hdone : s.authstate.authdone = false)
    (h : svr_auth_pubkey cfg env s payload valid_user = .ok s')
    (hdone' : s'.authstate.authdone = true) :
    ∃ opts algo keyblob b b' key,
      PubkeyAccepted cfg env s.session_id s.payload_beginning payload s.authstate.pubkey_options
        opts algo keyblob b b' key ∧
      (KeyFromBlob keyblob b b' key ↔ Framed (numFields algo) keyblob) := by
  have hstill : ¬ s.authstate.authdone = true := Bool.eq_false_iff.mp hdone
  simp only [svr_auth_pubkey, bind_eq_ok] at h
  obtain ⟨s₁, hbody, h⟩ := h
  have hset : s₁.authstate.authdone = true := by
    by_contra hnot
    rw [if_neg hnot, pure_eq_ok] at h
    rw [← h] at hdone'
    exact hnot hdone'
  rcases auth_pubkey_body_ok hbody with
    ⟨opts, incrfail, href⟩ | ⟨opts, heq⟩ | ⟨-, opts, algo, keyblob, b, b', key, -, hacc⟩
  · rw [href.eq] at hset
    exact absurd hset hstill
  · rw [heq] at hset
    exact absurd hset hstill
  · exact ⟨opts, algo, keyblob, b, b', key, hacc, hacc.keyFromBlob⟩

/-! ## A key that is not in the file -/

/-- A line whose base64 text is cut off after the name of the algorithm. -/
def truncatedFile : Bytes := ascii "ssh-rsa AAAAB3NzaC1yc2E="

def truncatedBlob : Bytes := putstring (ascii "ssh-rsa")

/-- The client's own RSA key. -/
def clientKey : RsaKey where
  e := 65537
  n := (0xda574258f5107257098656ae150fed03e809f7e7fd5abb9e5a267c769670de8a * 2 ^ 256 +
      0x66a0523a60ed9121bf2c05c023fb24a36d7993483280973d2bf6cdb93dccabd3) *
    (0xc82e16dd573f657ba6ec032e43f4c201747eb9ba6f40635d41520714ac698472 * 2 ^ 256 +
      0xe15e787f0489aecf4f4d4185fe6dd1a551d6691b3db139b0f7526e88da94793f)

/-- Its PKCS #1 signature with SHA-1 of the session id and the packet up to the signature. -/
def clientSignature : Nat :=
  0x895500cfe6249790ab3fae62f0ff323d17fce2885615a039a462ca0df7a8ca6a * 2 ^ 768 +
    0xf7ea22127a51ae3e6ec8925db6d8fd8af2efadd51b7c43849ccba8c7bb65ecfc * 2 ^ 512 +
    0xe5690a06f90f665325f8aecbc3ba7d942e000479d8376dd984c9042ed61bffee * 2 ^ 256 +
    0xa98dd38a178548b076785c3729047b24d779e5acc3380e0a70d434257402bb0c

def clientSessionId : Bytes := (List.range 20).map UInt8.ofNat

/-- The packet: the exponent and the modulus come after the blob. -/
def clientPacket : Bytes :=
  SSH_MSG_USERAUTH_REQUEST :: (putstring (ascii "user") ++ putstring SSH_SERVICE_CONNECTION ++
    putstring AUTH_METHOD_PUBKEY ++ [1] ++ putstring (ascii "ssh-rsa") ++
    putstring truncatedBlob ++ putmpint clientKey.e ++ putmpint clientKey.n ++
    putstring (putstring (ascii "ssh-rsa") ++ putstring (mp_to_unsigned_bin clientSignature)))

theorem length_clientPacket : clientPacket.length = 354 := by decide +kernel

def clientPacketAt (pos : Nat) (h : pos ≤ 354) : Buffer where
  data := clientPacket
  len := 354
  pos := pos
  pos_le := h
  len_le := length_clientPacket.ge
  size_le := by
    rw [length_clientPacket]
    decide

/-- Verification, as far as this packet needs it. -/
def clientCrypto : Crypto where
  rsa_verify key s data := key = clientKey ∧ s = clientSignature ∧
    data = putstring clientSessionId ++ clientPacket.take 207
  dss_verify _ _ _ _ := false
  ecdsa_verify _ _ _ _ := false

def truncatedEnv : Env := { now := 0, authfile := some truncatedFile, random := [] }

def clientSession : Session :=
  { authstate := svr_authinitialise truncatedEnv, session_id := some clientSessionId }

theorem truncatedFile_authorises : ∃ opts, checkpubkey truncatedEnv.authfile (ascii "ssh-rsa")
    truncatedBlob none = .ok (DROPBEAR_SUCCESS, opts) := by
  refine (checkpubkey_success _ _).mpr ⟨by decide, [], truncatedFile, ⟨[], ?_⟩, nofun, ?_⟩
  · decide +kernel
  · decide +kernel

theorem clientPacket_accepted : ∃ opts,
    PubkeyAccepted (plainConfig clientCrypto noKexCrypto) truncatedEnv clientSession.session_id 0
      (clientPacketAt 40 (by decide)) none opts (ascii "ssh-rsa") truncatedBlob
      (clientPacketAt 56 (by decide)) (clientPacketAt 207 (by decide))
      { rsakey := some clientKey } := by
  obtain ⟨opts, hcheck⟩ := truncatedFile_authorises
  refine ⟨opts, ⟨clientPacketAt 41 (by decide), clientPacketAt 52 (by decide), ?_, ?_, ?_, ?_⟩,
    hcheck, ?_, clientSessionId, rfl, ?_⟩
  all_goals decide +kernel

theorem clientPacket_succeeds : ∃ s', svr_auth_pubkey (plainConfig clientCrypto noKexCrypto)
    truncatedEnv clientSession (clientPacketAt 40 (by decide)) true = .ok s' ∧
      s'.authstate.authdone = true := by
  obtain ⟨opts, hacc⟩ := clientPacket_accepted
  exact svr_auth_pubkey_of_accepted (Nat.zero_le _) hacc

theorem pubkey_from_blob_client : ∃ opts algo keyblob b b' key,
    PubkeyAccepted (plainConfig clientCrypto noKexCrypto) truncatedEnv (some clientSessionId) 0
      (clientPacketAt 40 (by decide)) none opts algo keyblob b b' key ∧
    (KeyFromBlob keyblob b b' key ↔ Framed (numFields algo) keyblob) := by
  obtain ⟨s', h, hdone⟩ := clientPacket_succeeds
  exact pubkey_from_blob_iff _ _ clientSession _ true (by decide) h hdone

/-- The file authorises eleven bytes, and the client is let in with the key of 140 bytes that it sent
after them. -/
theorem pubkey_from_packet :
    (∃ s', svr_auth_pubkey (plainConfig clientCrypto noKexCrypto) truncatedEnv clientSession
        (clientPacketAt 40 (by decide)) true = .ok s' ∧ s'.authstate.authdone = true) ∧
      ∃ opts b b',
        PubkeyAccepted (plainConfig clientCrypto noKexCrypto) truncatedEnv (some clientSessionId) 0
          (clientPacketAt 40 (by decide)) none opts (ascii "ssh-rsa") truncatedBlob b b'
          { rsakey := some clientKey } ∧
        b'.pos = b.pos + truncatedBlob.length + 140 ∧
        ¬ KeyFromBlob truncatedBlob b b' { rsakey := some clientKey } := by
  obtain ⟨opts, hacc⟩ := clientPacket_accepted
  refine ⟨clientPacket_succeeds, opts, _, _, hacc, by decide, fun hblob => ?_⟩
  have hpos : (207 : Nat) = 56 + truncatedBlob.length := hblob.1
  exact absurd hpos (by decide)

end SimpleSshd.Dropbear
