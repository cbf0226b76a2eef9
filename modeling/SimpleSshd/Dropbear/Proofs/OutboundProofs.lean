import SimpleSshd.Dropbear.Proofs.GatingProofs
import SimpleSshd.Dropbear.SessionLoop

/-!
# Proofs: the order of what a session sends

Our `KEXINIT` closes the gate and our `NEWKEYS` opens it. What was held back in between is flushed
before anything else is submitted, because the flush comes right after the input in the loop. So the
packets that can be held back leave in the order in which they were submitted.
-/

namespace SimpleSshd.Dropbear

open Fallible Gates Runs

variable {cfg : Config} {env : Env} {s s₁ s' : Session} {payload b : Buffer}
  {es : List (Option Event)}

/-! ## The key exchange and the gate -/

def isKexinit (p : Bytes) : Bool := packetType p == SSH_MSG_KEXINIT

def isNewkeys (p : Bytes) : Bool := packetType p == SSH_MSG_NEWKEYS

/-- What is submitted outside the key exchange. -/
def OutsideKex (p : Bytes) : Prop :=
  packetType p ≠ SSH_MSG_KEXINIT ∧ packetType p ≠ SSH_MSG_NEWKEYS

theorem Ordinary.outsideKex {p : Bytes} (h : Ordinary p) : OutsideKex p := ⟨h.1, h.2.1⟩

theorem OutsideKex.not_kexinit {p : Bytes} (h : OutsideKex p) : isKexinit p = false :=
  beq_eq_false_iff_ne.mpr h.1

theorem OutsideKex.not_newkeys {p : Bytes} (h : OutsideKex p) : isNewkeys p = false :=
  beq_eq_false_iff_ne.mpr h.2

/-- The same packets were added to the write queue and to those that were ever on it. -/
def Queued (out out' : Out) : Prop :=
  ∃ new, out'.writequeue = out.writequeue ++ new ∧ out'.sent = out.sent ++ new

theorem queued_of_view (h : outView s' = outView s) : Queued s.out s'.out := by
  simp only [outView, Prod.mk.injEq] at h
  obtain ⟨-, hsent, hqueue, -⟩ := h
  exact ⟨[], by rw [hqueue, List.append_nil], by rw [hsent, List.append_nil]⟩

theorem Queued.trans {out out' out'' : Out} (h : Queued out out') (h' : Queued out' out'') :
    Queued out out'' := by
  obtain ⟨new, hqueue, hsent⟩ := h
  obtain ⟨new', hqueue', hsent'⟩ := h'
  exact ⟨new ++ new', by rw [hqueue', hqueue, List.append_assoc],
    by rw [hsent', hsent, List.append_assoc]⟩

theorem encrypt_packet_queued {p : Bytes} (h : encrypt_packet cfg env s p = .ok s') :
    Queued s.out s'.out := by
  simp only [encrypt_packet, ite_exit_eq_ok] at h
  obtain ⟨-, h⟩ := h
  cases p with
  | nil => exact absurd h (dropbear_exit_ne_ok _ _)
  | cons type rest =>
    simp only at h
    split at h
    · obtain rfl := (pure_eq_ok _ _).mp h
      exact ⟨[], (List.append_nil _).symm, (List.append_nil _).symm⟩
    · obtain rfl := (pure_eq_ok _ _).mp h
      exact ⟨[_], rfl, rfl⟩

theorem encrypt_packets_queued {payloads : List Bytes}
    (h : encrypt_packets cfg env s payloads = .ok s') : Queued s.out s'.out := by
  induction payloads generalizing s with
  | nil =>
    obtain rfl := (pure_eq_ok _ _).mp h
    exact queued_of_view rfl
  | cons payload payloads ih =>
    obtain ⟨s₁, hfirst, hrest⟩ := bind_eq_ok.mp h
    exact (encrypt_packet_queued hfirst).trans (ih hrest)

theorem maybe_flush_reply_queue_queued (h : maybe_flush_reply_queue cfg env s = .ok s') :
    Queued s.out s'.out := by
  unfold maybe_flush_reply_queue at h
  split at h
  · obtain rfl := (pure_eq_ok _ _).mp h
    exact queued_of_view rfl
  · obtain ⟨s₁, hsent, h⟩ := bind_eq_ok.mp h
    obtain rfl := (pure_eq_ok _ _).mp h
    obtain ⟨new, hqueue, hnew⟩ := encrypt_packets_queued hsent
    exact ⟨new, hqueue, hnew⟩

theorem send_msg_userauth_success_out (h : send_msg_userauth_success cfg env s = .ok s') :
    ∃ s₁, encrypt_packet cfg env s [SSH_MSG_USERAUTH_SUCCESS] = .ok s₁ ∧
      outView s' = outView s₁ := by
  simp only [send_msg_userauth_success, bind_eq_ok] at h
  obtain ⟨s₁, hsent, h⟩ := h
  obtain rfl := (pure_eq_ok _ _).mp h
  exact ⟨s₁, hsent, rfl⟩

theorem kexinitPayload_type {p : Bytes} (h : kexinitPayload cfg env = .ok p) :
    packetType p = SSH_MSG_KEXINIT := by
  simp only [kexinitPayload, bind_eq_ok] at h
  obtain ⟨_, -, _, -, _, -, _, -, _, -, h⟩ := h
  rw [← (pure_eq_ok _ _).mp h]
  rfl

/-- Our `KEXINIT` closes the gate. -/
theorem send_msg_kexinit_out (h : send_msg_kexinit cfg env s = .ok s') :
    Queued s.out s'.out ∧ ∃ p, isKexinit p = true ∧
      s'.gate = (s.gate.submit okayKex (is_compress_trans s) p).setOpen false := by
  simp only [send_msg_kexinit, bind_eq_ok] at h
  obtain ⟨p, hpayload, s₁, hsent, h⟩ := h
  obtain rfl := (pure_eq_ok _ _).mp h
  have hqueued := encrypt_packet_queued hsent
  refine ⟨hqueued, p, ?_, ?_⟩
  · exact beq_iff_eq.mpr (kexinitPayload_type hpayload)
  · rw [← encrypt_packet_gate hsent]
    rfl

theorem recv_kexinit_body_out (h : recv_kexinit_body cfg s payload = .ok s') :
    outView s' = outView s := by
  unfold recv_kexinit_body at h
  split at h
  · simp only [bind_eq_ok, Prod.exists] at h
    obtain ⟨newkeys, follows, ignore, -, h⟩ := h
    obtain rfl := (pure_eq_ok _ _).mp h
    rfl
  · exact absurd h (throw_ne_ok _ _)

theorem switch_keys_out (h : switch_keys env s = .ok s') : outView s' = outView s := by
  obtain ⟨-, -, newkeys, -, rfl⟩ := switch_keys_ok h
  unfold switchDone switchTrans switchRecv
  split_ifs <;> rfl

theorem gen_new_keys_out (h : gen_new_keys cfg s = .ok s') : outView s' = outView s := by
  obtain ⟨newkeys, -, -, rfl⟩ := gen_new_keys_ok h
  rfl

/-- Our `NEWKEYS` opens it. -/
theorem send_msg_newkeys_out (h : send_msg_newkeys cfg env s = .ok s') :
    Queued s.out s'.out ∧ s'.gate =
      (s.gate.submit okayKex (is_compress_trans s) [SSH_MSG_NEWKEYS]).setOpen true := by
  simp only [send_msg_newkeys, bind_eq_ok] at h
  obtain ⟨s₁, hsent, s₂, hgen, h⟩ := h
  have hview := (switch_keys_out h).trans (gen_new_keys_out hgen)
  have hrest := queued_of_view hview
  refine ⟨(encrypt_packet_queued hsent).trans hrest, ?_⟩
  rw [gate_of_view hview, ← encrypt_packet_gate hsent]
  rfl

theorem send_msg_kexdh_reply_out {newkeys : KeyContext} {kex : Kex} {theirs : KexValue}
    (h : send_msg_kexdh_reply cfg env s newkeys kex theirs = .ok s') :
    Queued s.out s'.out ∧ ∃ p, packetType p = SSH_MSG_KEXDH_REPLY ∧
      s'.gate = s.gate.submit okayKex (is_compress_trans s) p := by
  unfold send_msg_kexdh_reply at h
  split at h
  · simp only [bind_eq_ok, Prod.exists] at h
    obtain ⟨hostkey, -, ours, dh_K, -, h⟩ := h
    have hqueued := encrypt_packet_queued h
    have hgate := encrypt_packet_gate h
    exact ⟨hqueued, _, rfl, hgate⟩
  · exact absurd h (throw_ne_ok _ _)

/-- The reply and our `NEWKEYS`, with the keys that were in use. -/
theorem recv_msg_kexdh_init_out (h : recv_msg_kexdh_init cfg env s payload = .ok s') :
    Queued s.out s'.out ∧ ∃ p, packetType p = SSH_MSG_KEXDH_REPLY ∧
      s'.gate = ((s.gate.submit okayKex (is_compress_trans s) p).submit okayKex
        (is_compress_trans s) [SSH_MSG_NEWKEYS]).setOpen true := by
  simp only [recv_msg_kexdh_init, ite_exit_eq_ok] at h
  obtain ⟨-, h⟩ := h
  split at h
  · exact absurd h (throw_ne_ok _ _)
  split at h
  · exact absurd h (throw_ne_ok _ _)
  simp only [bind_eq_ok] at h
  obtain ⟨theirs, -, s₁, hreply, s₂, hnewkeys, h⟩ := h
  obtain rfl := (pure_eq_ok _ _).mp h
  obtain ⟨hqueued₁, p, hp, hgate₁⟩ := send_msg_kexdh_reply_out hreply
  obtain ⟨hqueued₂, hgate₂⟩ := send_msg_newkeys_out hnewkeys
  obtain ⟨hauth, -, hkeys, -⟩ := send_msg_kexdh_reply_ok hreply
  refine ⟨hqueued₁.trans hqueued₂, p, hp, ?_⟩
  show s₂.gate = _
  rw [hgate₂, hgate₁, is_compress_trans_congr hkeys (by rw [hauth])]

theorem recv_msg_newkeys_out (h : recv_msg_newkeys env s = .ok s') : outView s' = outView s := by
  unfold recv_msg_newkeys at h
  have hout := switch_keys_out h
  exact hout

/-! ## The invariant -/

structure OutInv (s : Session) : Prop where
  gate : s.gate.Sectioned okayKex isKexinit isNewkeys
  kexinit : s.kexstate.sentkexinit = false → s.dataallowed = true
  newkeys : s.kexstate.sentnewkeys = true → s.dataallowed = true
  queued : s.out.writequeue <:+ s.out.sent

theorem Queued.suffix (h : Queued s.out s'.out) (hinv : s.out.writequeue <:+ s.out.sent) :
    s'.out.writequeue <:+ s'.out.sent := by
  obtain ⟨new, hqueue, hsent⟩ := h
  obtain ⟨written, hwritten⟩ := hinv
  exact ⟨written, by rw [hqueue, hsent, ← hwritten, List.append_assoc]⟩

/-- A change that does not concern sending and the key exchange. -/
theorem OutInv.of_view (h : OutInv s) (hout : outView s' = outView s)
    (hkex : s'.kexstate = s.kexstate) : OutInv s' := by
  have hallowed : s'.dataallowed = s.dataallowed := congrArg Prod.fst hout
  refine ⟨?_, ?_, ?_, (queued_of_view hout).suffix h.queued⟩
  · rw [gate_of_view hout]
    exact h.gate
  · rw [hkex, hallowed]
    exact h.kexinit
  · rw [hkex, hallowed]
    exact h.newkeys

theorem clear_of_view (hout : outView s' = outView s) (h : s.gate.Clear) : s'.gate.Clear := by
  rw [gate_of_view hout]
  exact h

theorem OutInv.submit {p : Bytes} (h : OutInv s) (hclear : s.gate.Clear) (hp : OutsideKex p)
    (hsent : encrypt_packet cfg env s p = .ok s') : OutInv s' ∧ s'.gate.Clear := by
  have hgate := encrypt_packet_gate hsent
  have hkex := (encrypt_packet_sent hsent).quiet.kexstate
  have hallowed := (encrypt_packet_sent hsent).dataallowed
  refine ⟨⟨?_, ?_, ?_, (encrypt_packet_queued hsent).suffix h.queued⟩, ?_⟩
  · rw [hgate]
    exact h.gate.submit hclear hp.not_kexinit hp.not_newkeys
  · rw [hkex, hallowed]
    exact h.kexinit
  · rw [hkex, hallowed]
    exact h.newkeys
  · rw [hgate]
    exact hclear.submit

/-- **One act** keeps the invariant, and holds nothing back behind an open gate. -/
theorem OutInv.act (h : OutInv s) (hclear : s.gate.Clear) (hact : Act cfg OutsideKex s s') :
    OutInv s' ∧ s'.gate.Clear := by
  cases hact with
  | other hview =>
    simp only [coreView, Prod.mk.injEq] at hview
    obtain ⟨hkex, hout, -⟩ := hview
    exact ⟨h.of_view hout (congrArg Prod.fst hkex), clear_of_view hout hclear⟩
  | submit hp hsent => exact h.submit hclear hp hsent

theorem OutInv.acts (h : OutInv s) (hclear : s.gate.Clear) (hacts : Acts cfg OutsideKex s s') :
    OutInv s' ∧ s'.gate.Clear := by
  induction hacts with
  | refl => exact ⟨h, hclear⟩
  | tail _ hact ih => exact ih.1.act ih.2 hact

theorem OutInv.authActs (h : OutInv s) (hclear : s.gate.Clear)
    (hacts : AuthActs cfg OutsideKex s s') : OutInv s' ∧ s'.gate.Clear := by
  cases hacts with
  | refused hacts => exact h.acts hclear hacts
  | accepted hacts _ hsuccess =>
    obtain ⟨h₁, hclear₁⟩ := h.acts hclear hacts
    obtain ⟨s₂, hsent, hout⟩ := send_msg_userauth_success_out hsuccess
    obtain ⟨h₂, hclear₂⟩ := h₁.submit hclear₁ (by unfold OutsideKex; decide) hsent
    have hkex : _ = s₂.kexstate := (send_msg_userauth_success_quiet hsuccess).kexstate.trans
      (encrypt_packet_sent hsent).quiet.kexstate.symm
    exact ⟨h₂.of_view hout hkex, clear_of_view hout hclear₂⟩

/-- Between exchanges nothing says that our `NEWKEYS` was sent. -/
theorem KexInv.not_sentnewkeys (hinv : KexInv s) (hnot : s.kexstate.sentkexinit = false) :
    s.kexstate.sentnewkeys = false := by
  cases hinv.phase with
  | idle _ _ hsent => exact hsent
  | kexinit _ hsent => cases hnot.symm.trans hsent
  | newkeys _ hsent => cases hnot.symm.trans hsent

theorem OutInv.kexinitSent (h : OutInv s) (hclear : s.gate.Clear)
    (hnot : s.kexstate.sentkexinit = false) (hnotnew : s.kexstate.sentnewkeys = false) (hsent : send_msg_kexinit cfg env s = .ok s') :
    OutInv s' ∧ s'.gate.Clear := by
  obtain ⟨hqueued, p, hp, hgate⟩ := send_msg_kexinit_out hsent
  have hkex := (send_msg_kexinit_ok hsent).kexstate
  refine ⟨⟨?_, ?_, ?_, hqueued.suffix h.queued⟩, ?_⟩
  · rw [hgate]
    exact h.gate.submit_begin hclear (h.kexinit hnot) hp
  · rw [hkex]
    intro hfalse
    cases hfalse
  · rw [hkex]
    intro hnew
    cases hnotnew.symm.trans hnew
  · rw [hgate]
    intro hopen
    cases hopen

theorem OutInv.kexinitReceived (h : OutInv s) (hclear : s.gate.Clear)
    (hnew : s.kexstate.sentkexinit = false → s.kexstate.sentnewkeys = false)
    (hrecv : recv_msg_kexinit cfg env s payload = .ok s') : OutInv s' := by
  have hok := recv_msg_kexinit_ok hrecv
  have hbody : ∀ {t : Session}, OutInv t → recv_kexinit_body cfg t payload = .ok s' →
      t.kexstate.sentnewkeys = s.kexstate.sentnewkeys → OutInv s' := by
    intro t ht hbody hsame
    have hout := recv_kexinit_body_out hbody
    have hallowed : s'.dataallowed = t.dataallowed := congrArg Prod.fst hout
    refine ⟨?_, ?_, ?_, (queued_of_view hout).suffix ht.queued⟩
    · rw [gate_of_view hout]
      exact ht.gate
    · rw [hok.sentkexinit]
      intro hfalse
      cases hfalse
    · rw [hok.sentnewkeys, ← hsame, hallowed]
      exact ht.newkeys
  unfold recv_msg_kexinit at hrecv
  by_cases hsent : s.kexstate.sentkexinit = true
  · rw [if_pos hsent] at hrecv
    exact hbody h hrecv rfl
  · rw [if_neg hsent, bind_eq_ok] at hrecv
    obtain ⟨s₁, hkexinit, hrecv⟩ := hrecv
    have hkex := (send_msg_kexinit_ok hkexinit).kexstate
    have hnot := Bool.eq_false_iff.mpr hsent
    have h₁ := (h.kexinitSent hclear hnot (hnew hnot) hkexinit).1
    exact hbody h₁ hrecv (by rw [hkex])

theorem OutInv.kexdhReceived (h : OutInv s) (hclear : s.gate.Clear)
    (hnot : s.kexstate.recvnewkeys = false)
    (hrecv : recv_msg_kexdh_init cfg env s payload = .ok s') : OutInv s' := by
  have hok := recv_msg_kexdh_init_ok hnot hrecv
  obtain ⟨hqueued, p, hp, hgate⟩ := recv_msg_kexdh_init_out hrecv
  have hopen : s'.dataallowed = true := congrArg Gate.isOpen hgate
  refine ⟨?_, ?_, fun _ => hopen, hqueued.suffix h.queued⟩
  · rw [hgate]
    have hreply : OutsideKex p := by
      unfold OutsideKex
      rw [hp]
      decide
    have hreplied : (s.gate.submit okayKex (is_compress_trans s) p).Sectioned okayKex isKexinit
        isNewkeys := h.gate.submit hclear hreply.not_kexinit hreply.not_newkeys
    exact hreplied.submit_end hclear.submit (by decide) (by decide) (by decide)
  · rw [hok.sentkexinit]
    intro hfalse
    cases hfalse

theorem OutInv.newkeysReceived (h : OutInv s) (hsent : s.kexstate.sentnewkeys = true)
    (hnot : s'.kexstate.sentnewkeys = false) (hrecv : recv_msg_newkeys env s = .ok s') :
    OutInv s' := by
  have hout := recv_msg_newkeys_out hrecv
  have hallowed : s'.dataallowed = s.dataallowed := congrArg Prod.fst hout
  refine ⟨?_, ?_, ?_, (queued_of_view hout).suffix h.queued⟩
  · rw [gate_of_view hout]
    exact h.gate
  · intro _
    exact hallowed.trans (h.newkeys hsent)
  · intro hset
    cases hnot.symm.trans hset

theorem OutInv.handled {type : UInt8} (h : OutInv s) (hinv : KexInv s) (hclear : s.gate.Clear)
    (hd : Dispatched s type b s₁) (heffect : HandlerEffect cfg OutsideKex env b s₁ s' type) :
    OutInv s' := by
  have h₁ := h.of_view hd.out hd.kexstate
  have hclear₁ := clear_of_view hd.out hclear
  cases heffect with
  | request hcall =>
    have hacts := recv_msg_userauth_request_acts (fun _ hp => hp.outsideKex) hcall
    exact (h₁.authActs hclear₁ hacts).1
  | kexinit hcall =>
    refine h₁.kexinitReceived hclear₁ ?_ hcall
    rw [hd.kexstate]
    exact hinv.not_sentnewkeys
  | kexdh hcall => exact h₁.kexdhReceived hclear₁ (hd.recvnewkeys hinv) hcall
  | newkeys hcall =>
    exact h₁.newkeysReceived (hd.newkeysSent hinv hcall).1 (hinv.newkeys hd hcall).2.sentnewkeys
      hcall
  | other _ hback => exact (h₁.acts hclear₁ hback.acts).1

theorem OutInv.flushed (h : OutInv s) (hflush : maybe_flush_reply_queue cfg env s = .ok s') :
    OutInv s' ∧ s'.gate.Clear := by
  have hgate := maybe_flush_reply_queue_gate hflush
  have hkex := (maybe_flush_reply_queue_quiet hflush).1.kexstate
  have hallowed : s'.dataallowed = s.dataallowed := by
    show s'.gate.isOpen = s.gate.isOpen
    rw [hgate, flush_isOpen]
  refine ⟨⟨?_, ?_, ?_, (maybe_flush_reply_queue_queued hflush).suffix h.queued⟩, ?_⟩
  · rw [hgate]
    exact h.gate.flush
  · rw [hkex, hallowed]
    exact h.kexinit
  · rw [hkex, hallowed]
    exact h.newkeys
  · rw [hgate]
    exact clear_flush

/-! ## Runs -/

/-- The gate may be open and hold something back only until the next flush. -/
structure LoopInv (l : Loop) : Prop where
  kex : KexInv l.ses
  out : OutInv l.ses
  clear : l.phase ≠ .flush → l.ses.gate.Clear

/-- **One call** of the loop. -/
theorem LoopInv.call {phase : LoopPhase} {e : Event} (hinv : LoopInv ⟨phase, s⟩)
    (he : e.Submits OutsideKex) (hphase : phase.calls e = true) (h : SessionStep cfg s e s') :
    LoopInv ⟨phase.next, s'⟩ := by
  have hkex := (hinv.kex.step h).1
  cases SessionStep.effect (fun _ hp => hp.outsideKex) he hinv.kex h with
  | ident hback | timeouts hback | channels hback =>
    have hclear := hinv.clear (by rintro rfl; cases hphase)
    obtain ⟨hout, hclear'⟩ := hinv.out.acts hclear hback.acts
    exact ⟨hkex, hout, fun _ => hclear'⟩
  | packet hback heffect =>
    -- the flush comes next
    obtain rfl : phase = .input := by cases phase <;> first | rfl | cases hphase
    have hclear := hinv.clear (show LoopPhase.input ≠ .flush by decide)
    obtain ⟨hout, hclear⟩ := hinv.out.acts hclear hback.acts
    refine ⟨hkex, ?_, fun hne => absurd rfl hne⟩
    cases heffect with
    | background hback' => exact (hout.acts hclear hback'.acts).1
    | handled _ hd heffect =>
      exact hout.handled (hinv.kex.quiet hback.quiet) hclear hd heffect
  | rekeyed hnot hsent hback =>
    have hclear := hinv.clear (by rintro rfl; cases hphase)
    obtain ⟨hout, hclear'⟩ :=
      hinv.out.kexinitSent hclear hnot (hinv.kex.not_sentnewkeys hnot) hsent
    obtain ⟨hout', hclear''⟩ := hout.acts hclear' hback.acts
    exact ⟨hkex, hout', fun _ => hclear''⟩
  | flush hflush =>
    obtain ⟨hout, hclear⟩ := hinv.out.flushed hflush
    exact ⟨hkex, hout, fun _ => hclear⟩
  | write =>
    have hout := hinv.out
    refine ⟨hkex, ⟨hout.gate, hout.kexinit, hout.newkeys, ?_⟩, fun _ => ?_⟩
    · exact (List.drop_suffix _ _).trans hout.queued
    · exact hinv.clear (by rintro rfl; cases hphase)

theorem LoopInv.step {l l' : Loop} {e : Option Event} (hinv : LoopInv l)
    (he : ∀ e', e = some e' → e'.Submits OutsideKex) (h : LoopStep cfg l e l') : LoopInv l' := by
  cases h with
  | call hphase hstep => exact hinv.call (he _ rfl) hphase hstep
  | idle => exact ⟨hinv.kex, hinv.out, fun hne => absurd rfl hne⟩

/-- The session before our first `KEXINIT`. -/
def freshSession (env : Env) (banner : Option Bytes) : Session :=
  kexfirstinitialise env {
    authstate := svr_authinitialise env
    connect_time := env.now
    last_packet_time_keepalive_recv := env.now
    out := { last_packet_time_idle := env.now }
    banner := banner }

theorem svr_session_eq {banner : Option Bytes} :
    svr_session cfg env banner = send_msg_kexinit cfg env (freshSession env banner) := rfl

theorem LoopInv.init {banner : Option Bytes} (h : svr_session cfg env banner = .ok s) :
    LoopInv ⟨.connects, s⟩ := by
  have hkex := KexInv.init h
  have hfresh : OutInv (freshSession env banner) :=
    ⟨⟨⟨rfl, List.forall_mem_nil _⟩, List.forall_mem_nil _, rfl, atEach_nil⟩, fun _ => rfl,
      fun _ => rfl, List.suffix_refl _⟩
  rw [svr_session_eq] at h
  obtain ⟨hout, hclear⟩ := hfresh.kexinitSent (fun _ => rfl) rfl rfl h
  exact ⟨hkex, hout, fun _ => hclear⟩

/-- **Outbound order**: in every state that the loop reaches, the write queue holds the last of the
packets that were ever put on it, and of those, between our `KEXINIT` and our `NEWKEYS`, there are
only packets that may be sent during a key exchange. The other packets on it, followed by those in
the reply queue, are the ones that were submitted, in this order. -/
theorem outbound_order (cfg : Config) (env : Env) (banner : Option Bytes) {s₀ : Session} {l : Loop}
    {es : List (Option Event)} (h0 : svr_session cfg env banner = .ok s₀)
    (hrun : Run (LoopStep cfg) ⟨.connects, s₀⟩ es l)
    (hsubmits : ∀ e, some e ∈ es → e.Submits OutsideKex) :
    l.ses.out.writequeue <:+ l.ses.out.sent ∧
    (∀ before kexinit during p after,
      l.ses.out.sent.map Packet.payload = before ++ kexinit :: (during ++ p :: after) →
      packetType kexinit = SSH_MSG_KEXINIT → (∀ q ∈ during, packetType q ≠ SSH_MSG_NEWKEYS) →
      packet_is_okay_kex (packetType p) = true) ∧
    (l.ses.out.sent.map Packet.payload).filter (fun p => !packet_is_okay_kex (packetType p)) ++
        l.ses.out.reply_queue =
      l.ses.out.submitted.filter (fun p => !packet_is_okay_kex (packetType p)) := by
  have hguard := hrun.guard_events (P := fun e => ∀ e', e = some e' → e'.Submits OutsideKex)
    fun e he e' heq => hsubmits e' (heq ▸ he)
  have hend : LoopInv l :=
    hguard.invariant (fun _ _ _ hinv hstep => LoopInv.step hinv hstep.1 hstep.2) (LoopInv.init h0)
  have hitems : l.ses.gate.items = l.ses.out.sent.map Packet.payload := by
    simp only [Gate.items, Session.gate, List.map_map]
    rfl
  refine ⟨hend.out.queued, ?_, ?_⟩
  · intro before kexinit during p after hsent hkexinit hduring
    rw [← hitems, ← List.cons_append, ← List.append_assoc] at hsent
    refine hend.out.gate.only _ p after hsent (inside_of_begun (beq_iff_eq.mpr hkexinit) ?_)
    intro q hq
    exact beq_eq_false_iff_ne.mpr (hduring q hq)
  · rw [← hitems]
    exact hend.out.gate.faithful.conserved

/-! ## A concrete run -/

/-- The loop, as a function of its events. -/
def loopFun (cfg : Config) (l : Loop) : Option Event → Option Loop
  | none => if l.phase = .input then some ⟨.flush, l.ses⟩ else none
  | some e =>
    if l.phase.calls e then (execEvent cfg l.ses e).toOption.map fun s => ⟨l.phase.next, s⟩
    else none

theorem loopFun_step {l l' : Loop} {e : Option Event} (h : loopFun cfg l e = some l') :
    LoopStep cfg l e l' := by
  obtain ⟨phase, s⟩ := l
  cases e with
  | none =>
    simp only [loopFun] at h
    split at h
    case isTrue hphase =>
      cases hphase
      cases h
      exact .idle
    case isFalse => cases h
  | some e =>
    simp only [loopFun] at h
    split at h
    case isTrue hcalls =>
      obtain ⟨s', hexec, rfl⟩ := Option.map_eq_some_iff.mp h
      exact .call hcalls (execEvent_ok (toOption_eq_some hexec))
    case isFalse => cases h

/-- What `exec` computes from the start of a session. -/
theorem session_run {banner : Option Bytes} {es : List (Option Event)} (test : Loop → Bool)
    (h : ((svr_session cfg env banner).toOption.bind fun s₀ =>
      exec (loopFun cfg) ⟨.connects, s₀⟩ es).any test = true) :
    ∃ s₀ l, svr_session cfg env banner = .ok s₀ ∧
      Run (LoopStep cfg) ⟨.connects, s₀⟩ es l ∧ test l = true := by
  obtain ⟨l, hl, htest⟩ := (Option.any_eq_true _ _).mp h
  obtain ⟨s₀, h0, hexec⟩ := Option.bind_eq_some_iff.mp hl
  have hrun : Run (LoopStep cfg) ⟨.connects, s₀⟩ es l :=
    (run_of_exec hexec).mono fun _ _ _ hstep => loopFun_step hstep
  exact ⟨s₀, l, toOption_eq_some h0, hrun, htest⟩

/-- A packet with this payload arrives. -/
def received (env : Env) (trans : Direction) (bytes : Bytes) (h : bytes.length ≤ BUF_MAX_SIZE) :
    Event := .packet env (payloadOf bytes h) (wireLength trans bytes.length) (.ok [])

/-- One iteration of the loop, in which nothing but this is going on. -/
def iteration (env : Env) (input : Option Event) : List (Option Event) :=
  [some (.channels env []), some (.timeouts env none), input, some (.flush env),
   some (.channels env []), some (.write 2)]

theorem received_submits {P : Bytes → Prop} {trans : Direction} {bytes : Bytes}
    {h : bytes.length ≤ BUF_MAX_SIZE} : (received env trans bytes h).Submits P := by
  intro payloads hok
  cases hok
  exact List.forall_mem_nil _

theorem iterations_submits {P : Bytes → Prop} {inputs : List (Option Event)}
    (hinputs : ∀ e, some e ∈ inputs → e.Submits P) :
    ∀ e, some e ∈ inputs.flatMap (iteration env) → e.Submits P := by
  intro e he
  obtain ⟨input, hmem, he⟩ := List.mem_flatMap.mp he
  simp only [iteration, List.mem_cons, List.not_mem_nil, or_false, Option.some.injEq] at he
  rcases he with rfl | rfl | rfl | rfl | rfl | rfl
  · exact List.forall_mem_nil _
  · trivial
  · exact hinputs e hmem
  · trivial
  · exact List.forall_mem_nil _
  · trivial

/-- The directions before and after the first exchange, as far as they matter for lengths. -/
def plainDirection : Direction := {}

def keyedDirection : Direction := { algo_crypt := ⟨16, 16⟩, algo_mac := ⟨20, 20⟩ }

theorem length_newkeys : [SSH_MSG_NEWKEYS].length ≤ BUF_MAX_SIZE := by decide

theorem length_serviceRequest :
    (SSH_MSG_SERVICE_REQUEST :: putstring SSH_SERVICE_USERAUTH).length ≤ BUF_MAX_SIZE := by decide

/-- The client identifies itself, exchanges keys with these packets and requests the authentication
service. -/
def clientInputs (env : Env) (kexinit kexdhInit : Bytes) (h : kexinit.length ≤ BUF_MAX_SIZE)
    (h' : kexdhInit.length ≤ BUF_MAX_SIZE) : List (Option Event) :=
  [none, some (.ident [some (ascii "SSH-2.0-client")]),
   some (received env plainDirection kexinit h), some (received env plainDirection kexdhInit h'),
   some (received env plainDirection _ length_newkeys),
   some (received env keyedDirection _ length_serviceRequest)]

theorem clientInputs_submits {P : Bytes → Prop} {kexinit kexdhInit : Bytes}
    {h : kexinit.length ≤ BUF_MAX_SIZE} {h' : kexdhInit.length ≤ BUF_MAX_SIZE} :
    ∀ e, some e ∈ clientInputs env kexinit kexdhInit h h' → e.Submits P := by
  intro e he
  simp only [clientInputs, List.mem_cons, List.not_mem_nil, or_false, reduceCtorEq, false_or,
    Option.some.injEq] at he
  rcases he with rfl | rfl | rfl | rfl | rfl
  · trivial
  all_goals exact received_submits

theorem length_clientKexinit : clientKexinit.length ≤ BUF_MAX_SIZE := by decide +kernel

theorem length_clientKexdhInit :
    (SSH_MSG_KEXDH_INIT :: putstring clientQ).length ≤ BUF_MAX_SIZE := by decide +kernel

def exchangeInputs : List (Option Event) :=
  clientInputs exchangeEnv _ _ length_clientKexinit length_clientKexdhInit

theorem outbound_order_exchange : ∃ s₀ l,
    svr_session (plainConfig noCrypto exchangeCrypto) exchangeEnv none = .ok s₀ ∧
    Run (LoopStep (plainConfig noCrypto exchangeCrypto)) ⟨.connects, s₀⟩
      (exchangeInputs.flatMap (iteration exchangeEnv)) l ∧
    l.ses.out.sent.map (packetType ·.payload) =
      [SSH_MSG_KEXINIT, SSH_MSG_KEXDH_REPLY, SSH_MSG_NEWKEYS, SSH_MSG_SERVICE_ACCEPT] ∧
    (l.ses.out.sent.map Packet.payload).filter (fun p => !packet_is_okay_kex (packetType p)) ++
        l.ses.out.reply_queue =
      l.ses.out.submitted.filter (fun p => !packet_is_okay_kex (packetType p)) := by
  have hcompute : ((svr_session (plainConfig noCrypto exchangeCrypto) exchangeEnv none).toOption.bind
      fun s₀ => exec (loopFun (plainConfig noCrypto exchangeCrypto)) ⟨.connects, s₀⟩
        (exchangeInputs.flatMap (iteration exchangeEnv))).any
      (fun l => l.ses.out.sent.map (packetType ·.payload) ==
        [SSH_MSG_KEXINIT, SSH_MSG_KEXDH_REPLY, SSH_MSG_NEWKEYS, SSH_MSG_SERVICE_ACCEPT]) = true := by
    decide +kernel
  obtain ⟨s₀, l, h0, hrun, hsent⟩ := session_run _ hcompute
  have horder := outbound_order _ _ _ h0 hrun (iterations_submits clientInputs_submits)
  exact ⟨s₀, l, h0, hrun, beq_iff_eq.mp hsent, horder.2.2⟩

end SimpleSshd.Dropbear
