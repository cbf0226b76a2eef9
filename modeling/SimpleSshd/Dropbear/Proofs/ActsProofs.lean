import SimpleSshd.Dropbear.ProcessPacket
import SimpleSshd.Dropbear.Proofs.AuthProofs
import SimpleSshd.Lib.Gate
import Mathlib.Logic.Relation

/-!
# Proofs: what the functions of a session do when they do not exchange keys

Sending is a gate: `encrypt_packet` submits a packet to it, `ses.dataallowed` says whether it is open,
and what it holds back is the reply queue. The functions outside the key exchange come down to a few
acts: they submit packets and change what has no bearing on sending and on the key exchange. An
authentication request may also end in the message of success.
-/

namespace SimpleSshd.Dropbear

open Fallible Gates

variable {cfg : Config} {env : Env} {s s' s'' : Session} {payload : Buffer}

/-! ## Sending as a gate -/

/-- The type of the packet with this payload. -/
def packetType (p : Bytes) : UInt8 := p.headD 0

def okayKex (p : Bytes) : Bool := packet_is_okay_kex (packetType p)

/-- What was sent, with the mark of compression, what is held back and what was submitted. -/
def Session.gate (s : Session) : Gate Bytes Bool where
  isOpen := s.dataallowed
  passed := s.out.sent.map fun p => (p.payload, p.compressed)
  held := s.out.reply_queue
  submitted := s.out.submitted

/-- **`encrypt_packet` submits to the gate.** -/
theorem encrypt_packet_gate {p : Bytes} (h : encrypt_packet cfg env s p = .ok s') :
    s'.gate = s.gate.submit okayKex (is_compress_trans s) p := by
  simp only [encrypt_packet, ite_exit_eq_ok] at h
  obtain ⟨-, h⟩ := h
  cases p with
  | nil => exact absurd h (dropbear_exit_ne_ok _ _)
  | cons type rest =>
    unfold Gate.submit
    show _ = if (!s.dataallowed && !packet_is_okay_kex type) = true then _ else _
    by_cases hheld : (!s.dataallowed && !packet_is_okay_kex type) = true
    · obtain rfl := (pure_eq_ok _ _).mp ((if_pos hheld).symm.trans h)
      rw [if_pos hheld]
      rfl
    · obtain rfl := (pure_eq_ok _ _).mp ((if_neg hheld).symm.trans h)
      rw [if_neg hheld]
      simp only [Session.gate, sealPacket, List.map_append, List.map_cons, List.map_nil]

theorem is_compress_trans_congr (hkeys : s'.keys = s.keys)
    (hdone : s'.authstate.authdone = s.authstate.authdone) :
    is_compress_trans s' = is_compress_trans s := by
  unfold is_compress_trans
  rw [hkeys, hdone]

theorem is_compress_trans_sent (h : Sent s s') : is_compress_trans s' = is_compress_trans s := by
  obtain ⟨out, new, rfl, -⟩ := h
  rfl

theorem Sent.dataallowed (h : Sent s s') : s'.dataallowed = s.dataallowed := by
  obtain ⟨out, new, rfl, -⟩ := h
  rfl

/-- Packets submitted to an open gate pass. -/
theorem encrypt_packets_gate {payloads : List Bytes} (hopen : s.dataallowed = true)
    (h : encrypt_packets cfg env s payloads = .ok s') : s'.gate = { s.gate with
      passed := s.gate.passed ++ payloads.map (·, is_compress_trans s)
      submitted := s.gate.submitted ++ payloads } := by
  induction payloads generalizing s with
  | nil =>
    obtain rfl := (pure_eq_ok _ _).mp h
    simp
  | cons payload payloads ih =>
    obtain ⟨s₁, hfirst, hrest⟩ := bind_eq_ok.mp h
    have hsent := encrypt_packet_sent hfirst
    have hgate := encrypt_packet_gate hfirst
    rw [submit_passes (.inl hopen)] at hgate
    rw [ih (hsent.dataallowed.trans hopen) hrest, hgate, is_compress_trans_sent hsent]
    simp

/-- **The flush of the reply queue is that of the gate.** -/
theorem maybe_flush_reply_queue_gate (h : maybe_flush_reply_queue cfg env s = .ok s') :
    s'.gate = s.gate.flush (is_compress_trans s) := by
  unfold maybe_flush_reply_queue at h
  unfold Gate.flush
  by_cases hclosed : (!s.dataallowed) = true
  · rw [if_pos hclosed] at h
    obtain rfl := (pure_eq_ok _ _).mp h
    exact (if_pos hclosed).symm
  · rw [if_neg hclosed] at h
    obtain ⟨s₁, hsent, h⟩ := bind_eq_ok.mp h
    obtain rfl := (pure_eq_ok _ _).mp h
    have hopen : s.dataallowed = true := by simpa using hclosed
    have hgate := encrypt_packets_gate hopen hsent
    have hpassed : s₁.out.sent.map (fun p => (p.payload, p.compressed)) = _ :=
      congrArg Gate.passed hgate
    have hallowed : s₁.dataallowed = _ := congrArg Gate.isOpen hgate
    rw [if_neg (show ¬ (!s.gate.isOpen) = true from hclosed)]
    simp only [Session.gate, hpassed, hallowed]

/-! ## Acts -/

/-- The fields of the key exchange. -/
def kexView (s : Session) :=
  (s.kexstate, s.keys, s.newkeys, s.requirenext, s.session_id, s.log)

/-- What sending depends on and what it changes. -/
def outView (s : Session) :=
  (s.dataallowed, s.out.sent, s.out.writequeue, s.out.reply_queue, s.out.submitted)

def coreView (s : Session) := (kexView s, outView s, s.authstate.authdone)

theorem gate_of_view (h : outView s' = outView s) : s'.gate = s.gate := by
  simp only [outView, Prod.mk.injEq] at h
  obtain ⟨hallowed, hsent, -, hqueue, hsubmitted⟩ := h
  simp only [Session.gate, hallowed, hsent, hqueue, hsubmitted]

/-- One thing a session does outside the key exchange; what it submits has the property `P`. -/
inductive Act (cfg : Config) (P : Bytes → Prop) : Session → Session → Prop
  | other {s s' : Session} (h : coreView s' = coreView s) : Act cfg P s s'
  | submit {s s' : Session} {env : Env} {p : Bytes} (hp : P p)
      (h : encrypt_packet cfg env s p = .ok s') : Act cfg P s s'

def Acts (cfg : Config) (P : Bytes → Prop) : Session → Session → Prop :=
  Relation.ReflTransGen (Act cfg P)

/-- Neither part of the key exchange nor the message of success. -/
def Ordinary (p : Bytes) : Prop :=
  packetType p ≠ SSH_MSG_KEXINIT ∧ packetType p ≠ SSH_MSG_NEWKEYS ∧
    packetType p ≠ SSH_MSG_USERAUTH_SUCCESS

instance (p : Bytes) : Decidable (Ordinary p) := inferInstanceAs (Decidable (_ ∧ _ ∧ _))

theorem ordinary_cons {type : UInt8} (rest : Bytes) (h : Ordinary [type]) :
    Ordinary (type :: rest) := h

section

variable {P : Bytes → Prop}

theorem Acts.other (h : coreView s' = coreView s) : Acts cfg P s s' := .single (.other h)

theorem Acts.submit {p : Bytes} (hp : P p) (h : encrypt_packet cfg env s p = .ok s') :
    Acts cfg P s s' := .single (.submit hp h)

theorem Acts.trans (h : Acts cfg P s s') (h' : Acts cfg P s' s'') : Acts cfg P s s'' :=
  Relation.ReflTransGen.trans h h'

theorem encrypt_packets_acts {payloads : List Bytes} (hP : ∀ p ∈ payloads, P p)
    (h : encrypt_packets cfg env s payloads = .ok s') : Acts cfg P s s' := by
  induction payloads generalizing s with
  | nil =>
    obtain rfl := (pure_eq_ok _ _).mp h
    exact .refl
  | cons payload payloads ih =>
    obtain ⟨s₁, hfirst, hrest⟩ := bind_eq_ok.mp h
    exact (Acts.submit (hP _ List.mem_cons_self) hfirst).trans
      (ih (fun p hp => hP p (List.mem_cons_of_mem _ hp)) hrest)

theorem encrypt_packet_authdone {p : Bytes} (h : encrypt_packet cfg env s p = .ok s') :
    s'.authstate.authdone = s.authstate.authdone := by
  rw [(encrypt_packet_sent h).authstate]

theorem Act.authdone (h : Act cfg P s s') : s'.authstate.authdone = s.authstate.authdone := by
  cases h with
  | other h =>
    simp only [coreView, Prod.mk.injEq] at h
    exact h.2.2
  | submit hp h => exact encrypt_packet_authdone h

theorem Acts.authdone (h : Acts cfg P s s') : s'.authstate.authdone = s.authstate.authdone := by
  induction h with
  | refl => rfl
  | tail _ hact ih => exact hact.authdone.trans ih

end

/-! ## Authentication -/

/-- What a request for authentication does: it is refused, or in the end the message of success is
sent. -/
inductive AuthActs (cfg : Config) (P : Bytes → Prop) (s s' : Session) : Prop
  | refused (h : Acts cfg P s s')
  | accepted {s₁ : Session} {env : Env} (h : Acts cfg P s s₁)
      (hnot : s₁.authstate.authdone = false)
      (hsuccess : send_msg_userauth_success cfg env s₁ = .ok s')

theorem AuthActs.before {P : Bytes → Prop} (h : Acts cfg P s s') (h' : AuthActs cfg P s' s'') :
    AuthActs cfg P s s'' := by
  cases h' with
  | refused h' => exact .refused (h.trans h')
  | accepted h' hnot hsuccess => exact .accepted (h.trans h') hnot hsuccess

section

variable {P : Bytes → Prop} (hP : ∀ p, Ordinary p → P p)
include hP

theorem send_msg_userauth_failure_acts {p incrfail : Bool}
    (h : send_msg_userauth_failure cfg env s p incrfail = .ok s') : Acts cfg P s s' := by
  simp only [send_msg_userauth_failure, bind_eq_ok, ite_exit_eq_ok] at h
  obtain ⟨s₁, hsent, -, h⟩ := h
  obtain rfl := (pure_eq_ok _ _).mp h
  have hsubmit : Acts cfg P s s₁ := .submit (hP _ (ordinary_cons _ (by decide))) hsent
  exact hsubmit.trans (.other rfl)

theorem svr_auth_password_acts {valid_user : Bool} (hdone : s.authstate.authdone = false)
    (h : svr_auth_password cfg env s payload valid_user = .ok s') : AuthActs cfg P s s' := by
  simp only [svr_auth_password, bind_eq_ok, Prod.exists] at h
  obtain ⟨changepw, b, -, h⟩ := h
  by_cases hchange : changepw = true
  · rw [if_pos hchange] at h
    exact .refused (send_msg_userauth_failure_acts hP h)
  · rw [if_neg hchange, bind_eq_ok] at h
    obtain ⟨⟨password, b'⟩, -, h⟩ := h
    simp only at h
    split at h
    · exact .refused (send_msg_userauth_failure_acts hP h)
    split at h
    · exact .refused (send_msg_userauth_failure_acts hP h)
    split at h
    · exact .refused (send_msg_userauth_failure_acts hP h)
    split at h
    · exact absurd h (throw_ne_ok _ _)
    split at h
    · exact .refused (send_msg_userauth_failure_acts hP h)
    -- the password is compared
    have hcount : Acts cfg P s { s with
        authstate := { s.authstate with attempts := s.authstate.attempts + 1 } } := .other rfl
    split at h
    · exact .accepted hcount hdone h
    · exact .refused (hcount.trans (send_msg_userauth_failure_acts hP h))

theorem auth_pubkey_verify_acts (hdone : s.authstate.authdone = false)
    (h : auth_pubkey_verify cfg env s payload = .ok s') : AuthActs cfg P s s' := by
  simp only [auth_pubkey_verify, bind_eq_ok, Prod.exists] at h
  obtain ⟨key, b, -, h⟩ := h
  cases key with
  | none => exact .refused (send_msg_userauth_failure_acts hP h)
  | some key =>
    simp only [ite_throw_eq_ok] at h
    obtain ⟨-, h⟩ := h
    split at h
    · exact absurd h (throw_ne_ok _ _)
    · obtain ⟨ret, -, h⟩ := bind_eq_ok.mp h
      cases ret with
      | DROPBEAR_SUCCESS => exact .accepted .refl hdone h
      | DROPBEAR_FAILURE => exact .refused (send_msg_userauth_failure_acts hP h)

theorem auth_pubkey_body_acts {valid_user : Bool} (hdone : s.authstate.authdone = false)
    (h : auth_pubkey_body cfg env s payload valid_user = .ok s') : AuthActs cfg P s s' := by
  simp only [auth_pubkey_body, bind_eq_ok, Prod.exists] at h
  obtain ⟨flag, b₁, -, algo, b₂, -, n, b, -, keyblob, -, h⟩ := h
  split at h
  · exact .refused (send_msg_userauth_failure_acts hP h)
  · simp only [bind_eq_ok, Prod.exists] at h
    obtain ⟨ret, opts, -, h⟩ := h
    have hopts : Acts cfg P s { s with
        authstate := { s.authstate with pubkey_options := opts } } := .other rfl
    cases ret with
    | DROPBEAR_FAILURE => exact .refused (hopts.trans (send_msg_userauth_failure_acts hP h))
    | DROPBEAR_SUCCESS =>
      simp only at h
      split at h
      · exact .refused (hopts.trans (.submit (hP _ (ordinary_cons _ (by decide))) h))
      · exact .before hopts (auth_pubkey_verify_acts hP hdone h)

omit hP in
theorem send_msg_userauth_success_authdone (h : send_msg_userauth_success cfg env s = .ok s') :
    s'.authstate.authdone = true := by
  simp only [send_msg_userauth_success, bind_eq_ok] at h
  obtain ⟨s₁, -, h⟩ := h
  obtain rfl := (pure_eq_ok _ _).mp h
  rfl

theorem svr_auth_pubkey_acts {valid_user : Bool} (hdone : s.authstate.authdone = false)
    (h : svr_auth_pubkey cfg env s payload valid_user = .ok s') : AuthActs cfg P s s' := by
  obtain ⟨s₁, hbody, h⟩ := bind_eq_ok.mp h
  have hacts := auth_pubkey_body_acts hP hdone hbody
  split at h
  · obtain rfl := (pure_eq_ok _ _).mp h
    exact hacts
  · obtain rfl := (pure_eq_ok _ _).mp h
    cases hacts with
    | refused hacts => exact .refused (hacts.trans (.other rfl))
    | accepted _ _ hsuccess =>
      have := send_msg_userauth_success_authdone hsuccess
      contradiction

theorem userauth_method_acts {methodname : Bytes} {valid_user : Bool}
    (hdone : s.authstate.authdone = false)
    (h : userauth_method cfg env s payload methodname valid_user = .ok s') :
    AuthActs cfg P s s' := by
  unfold userauth_method at h
  split at h
  · obtain ⟨granted, -, h⟩ := bind_eq_ok.mp h
    split at h
    · exact .accepted .refl hdone h
    · exact .refused (send_msg_userauth_failure_acts hP h)
  split at h
  · exact svr_auth_password_acts hP hdone h
  split at h
  · exact svr_auth_pubkey_acts hP hdone h
  · exact .refused (send_msg_userauth_failure_acts hP h)

theorem sendBanner_acts (h : sendBanner cfg env s = .ok s') : Acts cfg P s s' := by
  unfold sendBanner at h
  split at h
  · obtain rfl := (pure_eq_ok _ _).mp h
    exact .refl
  · obtain ⟨s₁, hsent, h⟩ := bind_eq_ok.mp h
    obtain rfl := (pure_eq_ok _ _).mp h
    have hsubmit : Acts cfg P s s₁ := .submit (hP _ (ordinary_cons _ (by decide))) hsent
    exact hsubmit.trans (.other rfl)

theorem recv_msg_userauth_request_acts
    (h : recv_msg_userauth_request cfg env s payload = .ok s') : AuthActs cfg P s s' := by
  unfold recv_msg_userauth_request at h
  split at h
  · obtain rfl := (pure_eq_ok _ _).mp h
    exact .refused .refl
  case isFalse hdone =>
    simp only [bind_eq_ok, Prod.exists, ite_exit_eq_ok] at h
    obtain ⟨s₁, hbanner, _, _, -, _, _, -, _, _, -, -, ret, a, hname, h⟩ := h
    have hbanner := sendBanner_acts hP hbanner
    have hsame : a.authdone = s₁.authstate.authdone := by
      cases checkusername_ok hname <;> rfl
    have hnot : a.authdone = false :=
      hsame.trans (hbanner.authdone.trans (Bool.eq_false_iff.mpr hdone))
    have hchecked : Acts cfg P s₁ { s₁ with authstate := a } := by
      refine .other ?_
      simp only [coreView, hsame]
      rfl
    exact .before (hbanner.trans hchecked) (userauth_method_acts hP hnot h)

end

/-! ## The rest -/

/-- Acts that leave the authentication state alone. -/
structure Background (cfg : Config) (P : Bytes → Prop) (s s' : Session) : Prop where
  acts : Acts cfg P s s'
  authstate : s'.authstate = s.authstate

section

variable {P : Bytes → Prop}

theorem Background.trans (h : Background cfg P s s') (h' : Background cfg P s' s'') :
    Background cfg P s s'' := ⟨h.acts.trans h'.acts, h'.authstate.trans h.authstate⟩

theorem background_of_view (h : coreView s' = coreView s) (hauth : s'.authstate = s.authstate) :
    Background cfg P s s' := ⟨.other h, hauth⟩

theorem Background.submit {p : Bytes} (hp : P p) (h : encrypt_packet cfg env s p = .ok s') :
    Background cfg P s s' := ⟨.submit hp h, (encrypt_packet_sent h).authstate⟩

theorem encrypt_packets_background {payloads : List Bytes} (hpayloads : ∀ p ∈ payloads, P p)
    (h : encrypt_packets cfg env s payloads = .ok s') : Background cfg P s s' :=
  ⟨encrypt_packets_acts hpayloads h, (encrypt_packets_sent h).authstate⟩

theorem read_session_identification_background {lines : List (Option Bytes)}
    (h : read_session_identification s lines = .ok s') : Background cfg P s s' := by
  simp only [read_session_identification, bind_eq_ok, ite_exit_eq_ok] at h
  obtain ⟨remoteident, -, -, h⟩ := h
  obtain rfl := (pure_eq_ok _ _).mp h
  exact background_of_view rfl rfl

variable (hP : ∀ p, Ordinary p → P p)
include hP

theorem recv_msg_service_request_background
    (h : recv_msg_service_request cfg env s payload = .ok s') : Background cfg P s s' := by
  simp only [recv_msg_service_request, bind_eq_ok, Prod.exists] at h
  obtain ⟨name, b, -, h⟩ := h
  split at h
  · exact .submit (hP _ (ordinary_cons _ (by decide))) h
  split at h
  · rw [ite_exit_eq_ok] at h
    exact .submit (hP _ (ordinary_cons _ (by decide))) h.2
  · exact absurd h (dropbear_exit_ne_ok _ _)

theorem recv_unimplemented_background (h : recv_unimplemented cfg env s = .ok s') :
    Background cfg P s s' := .submit (hP _ (ordinary_cons _ (by decide))) h

theorem keepaliveIf_background {chan : Option Nat} {due : Bool}
    (h : keepaliveIf cfg env s chan due = .ok s') : Background cfg P s s' := by
  unfold keepaliveIf at h
  split at h
  · obtain ⟨s₁, hsent, h⟩ := bind_eq_ok.mp h
    obtain rfl := (pure_eq_ok _ _).mp h
    have hsubmit : Background cfg P s s₁ := by
      cases chan with
      | some remotechan => exact .submit (hP _ (ordinary_cons _ (by decide))) hsent
      | none => exact .submit (hP _ (ordinary_cons _ (by decide))) hsent
    exact hsubmit.trans (background_of_view rfl rfl)
  · obtain rfl := (pure_eq_ok _ _).mp h
    exact background_of_view rfl rfl

theorem checkKeepalive_background {chan : Option Nat} (h : checkKeepalive cfg env s chan = .ok s') :
    Background cfg P s s' := by
  unfold checkKeepalive at h
  split at h
  · simp only [bind_eq_ok, ite_exit_eq_ok] at h
    obtain ⟨s₁, hfirst, s₂, hsecond, -, h⟩ := h
    obtain rfl := (pure_eq_ok _ _).mp h
    exact (keepaliveIf_background hP hfirst).trans (keepaliveIf_background hP hsecond)
  · obtain rfl := (pure_eq_ok _ _).mp h
    exact background_of_view rfl rfl

end

end SimpleSshd.Dropbear
