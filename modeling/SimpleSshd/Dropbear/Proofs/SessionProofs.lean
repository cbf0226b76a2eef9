import SimpleSshd.Dropbear.Session
import SimpleSshd.Dropbear.Proofs.BufferProofs

/-!
# Proofs: sending packets

Sending changes nothing but the queues and counters of `Out`, and the log records what was sealed
and with which keys.
-/

namespace SimpleSshd.Dropbear

open Fallible

variable {cfg : Config} {env : Env} {s s' : Session}

/-- The entries are packets sealed with these keys. -/
def AllSealed (trans : Direction) (new : List LogEntry) : Prop :=
  ∀ e ∈ new, ∃ type, e = LogEntry.sealed type trans

theorem AllSealed.append {trans : Direction} {new new' : List LogEntry} (h : AllSealed trans new)
    (h' : AllSealed trans new') : AllSealed trans (new' ++ new) := by
  intro e he
  rcases List.mem_append.mp he with hnew | hold
  · exact h' e hnew
  · exact h e hold

/-- `s'` is `s` after some packets were sealed or put on the reply queue. -/
def Sent (s s' : Session) : Prop :=
  ∃ out new, s' = { s with out := out, log := new ++ s.log } ∧
    ∀ e ∈ new, ∃ type, e = LogEntry.sealed type s.keys.trans

theorem Sent.refl (s : Session) : Sent s s := ⟨s.out, [], rfl, List.forall_mem_nil _⟩

theorem Sent.trans {s'' : Session} (h : Sent s s') (h' : Sent s' s'') : Sent s s'' := by
  obtain ⟨out, new, rfl, hnew⟩ := h
  obtain ⟨out', new', rfl, hnew'⟩ := h'
  exact ⟨out', new' ++ new, by rw [List.append_assoc], AllSealed.append hnew hnew'⟩

theorem encrypt_packet_sent {p : Bytes} (h : encrypt_packet cfg env s p = .ok s') : Sent s s' := by
  simp only [encrypt_packet, ite_exit_eq_ok] at h
  obtain ⟨-, h⟩ := h
  cases p with
  | nil => exact absurd h (dropbear_exit_ne_ok _ _)
  | cons type rest =>
    simp only at h
    split_ifs at h
    · obtain rfl := (pure_eq_ok _ _).mp h
      exact ⟨_, [], rfl, List.forall_mem_nil _⟩
    · obtain rfl := (pure_eq_ok _ _).mp h
      refine ⟨_, [_], rfl, ?_⟩
      intro e he
      exact ⟨type, List.mem_singleton.mp he⟩

theorem encrypt_packets_sent {payloads : List Bytes}
    (h : encrypt_packets cfg env s payloads = .ok s') : Sent s s' := by
  induction payloads generalizing s with
  | nil =>
    obtain rfl := (pure_eq_ok _ _).mp h
    exact Sent.refl s
  | cons payload payloads ih =>
    obtain ⟨s₁, hfirst, hrest⟩ := bind_eq_ok.mp h
    exact (encrypt_packet_sent hfirst).trans (ih hrest)

theorem Sent.authstate (h : Sent s s') : s'.authstate = s.authstate := by
  obtain ⟨out, new, rfl, -⟩ := h
  rfl

/-! ## A configuration to compute with -/

/-- The default options, one algorithm of each kind, and the given arithmetic. -/
def plainConfig (crypto : Crypto) (kexcrypto : KexCrypto) : Config where
  maxauthtries := 10
  maxauthtries_pos := by decide
  allowblankpass := false
  noauthpass := false
  norootpass := false
  keepalive_secs := 0
  idle_timeout_secs := 0
  conf_home := ascii "/"
  conf_shell := ascii "/system/bin/sh"
  LOCAL_IDENT := ascii "SSH-2.0-dropbear_2019.78"
  sshkex := [⟨ascii "curve25519-sha256", true, some ⟨ascii "curve25519-sha256", .CURVE25519⟩⟩]
  sshhostkey := [⟨ascii "ssh-rsa", true, .RSA⟩]
  sshciphers := [⟨ascii "aes128-ctr", true, ⟨16, 16⟩⟩]
  sshhashes := [⟨ascii "hmac-sha1", true, ⟨20, 20⟩⟩]
  compress_algos := [⟨ascii "none", true, .NONE⟩]
  crypto := crypto
  kexcrypto := kexcrypto

/-- Arithmetic that accepts no signature and agrees on no key. -/
def noCrypto : Crypto where
  rsa_verify _ _ _ := false
  dss_verify _ _ _ _ := false
  ecdsa_verify _ _ _ _ := false

def noKexCrypto : KexCrypto where
  comb_key _ _ _ := dropbear_exit "Diffie-Hellman error"
  hash _ _ := []
  put_pub_key _ := dropbear_exit "Couldn't read or generate hostkey %s"
  put_sign _ _ := []
  hashkeys _ _ _ _ _ _ := dropbear_exit "Crypto error"
  deflate _ payload := payload

/-- The payload of a packet, positioned at its first byte. -/
def payloadOf (bytes : Bytes) (h : bytes.length ≤ BUF_MAX_SIZE) : Buffer := Buffer.full bytes h

end SimpleSshd.Dropbear
