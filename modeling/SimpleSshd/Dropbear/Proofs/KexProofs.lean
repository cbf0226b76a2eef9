import SimpleSshd.Dropbear.Proofs.ActsProofs

/-!
# Proofs: what the functions of a session do to the key exchange

Most functions leave the key exchange alone and only send packets (`Quiet`). For each of those that
do not there is one lemma that says what it changes.
-/

namespace SimpleSshd.Dropbear

open Fallible

variable {cfg : Config} {env : Env} {s s' s'' : Session} {payload : Buffer}

/-! ## Functions that leave the key exchange alone -/

/-- Nothing of the key exchange changes, and packets may have been sealed. -/
structure Quiet (s s' : Session) : Prop where
  kexstate : s'.kexstate = s.kexstate
  keys : s'.keys = s.keys
  newkeys : s'.newkeys = s.newkeys
  requirenext : s'.requirenext = s.requirenext
  session_id : s'.session_id = s.session_id
  log : ∃ new, s'.log = new ++ s.log ∧ AllSealed s.keys.trans new

theorem Quiet.trans (h : Quiet s s') (h' : Quiet s' s'') : Quiet s s'' := by
  obtain ⟨new, hlog, hnew⟩ := h.log
  obtain ⟨new', hlog', hnew'⟩ := h'.log
  rw [h.keys] at hnew'
  refine ⟨h'.kexstate.trans h.kexstate, h'.keys.trans h.keys, h'.newkeys.trans h.newkeys,
    h'.requirenext.trans h.requirenext, h'.session_id.trans h.session_id, new' ++ new, ?_,
    hnew.append hnew'⟩
  rw [hlog', hlog, List.append_assoc]

/-- The other fields may change. -/
theorem quiet_of_view (h : kexView s' = kexView s) : Quiet s s' := by
  simp only [kexView, Prod.mk.injEq] at h
  obtain ⟨hkex, hkeys, hnew, hreq, hid, hlog⟩ := h
  exact ⟨hkex, hkeys, hnew, hreq, hid, [], hlog, List.forall_mem_nil _⟩

theorem Sent.quiet (h : Sent s s') : Quiet s s' := by
  obtain ⟨out, new, rfl, hnew⟩ := h
  exact ⟨rfl, rfl, rfl, rfl, rfl, new, rfl, hnew⟩

section

variable {P : Bytes → Prop}

theorem Acts.quiet (h : Acts cfg P s s') : Quiet s s' := by
  induction h with
  | refl => exact quiet_of_view rfl
  | tail _ hact ih =>
    cases hact with
    | other hview => exact ih.trans (quiet_of_view (congrArg Prod.fst hview))
    | submit _ hsent => exact ih.trans (encrypt_packet_sent hsent).quiet

theorem send_msg_userauth_success_quiet (h : send_msg_userauth_success cfg env s = .ok s') :
    Quiet s s' := by
  simp only [send_msg_userauth_success, bind_eq_ok] at h
  obtain ⟨s₁, hsent, h⟩ := h
  obtain rfl := (pure_eq_ok _ _).mp h
  exact (encrypt_packet_sent hsent).quiet.trans (quiet_of_view rfl)

theorem AuthActs.quiet (h : AuthActs cfg P s s') : Quiet s s' := by
  cases h with
  | refused h => exact h.quiet
  | accepted h _ hsuccess => exact h.quiet.trans (send_msg_userauth_success_quiet hsuccess)

theorem Background.quiet (h : Background cfg P s s') : Quiet s s' := h.acts.quiet

end

/-- The flush only sends. -/
theorem maybe_flush_reply_queue_quiet (h : maybe_flush_reply_queue cfg env s = .ok s') :
    Quiet s s' ∧ s'.authstate = s.authstate := by
  unfold maybe_flush_reply_queue at h
  split_ifs at h
  · obtain rfl := (pure_eq_ok _ _).mp h
    exact ⟨(Sent.refl s).quiet, rfl⟩
  · obtain ⟨s₁, hsent, h⟩ := bind_eq_ok.mp h
    obtain rfl := (pure_eq_ok _ _).mp h
    have hsent := encrypt_packets_sent hsent
    exact ⟨hsent.quiet.trans (quiet_of_view rfl), hsent.authstate⟩

/-! ## KEXINIT -/

/-- Our `KEXINIT` was sent. -/
structure KexinitSent (s s' : Session) : Prop where
  authstate : s'.authstate = s.authstate
  kexstate : s'.kexstate = { s.kexstate with sentkexinit := true }
  keys : s'.keys = s.keys
  requirenext : s'.requirenext = s.requirenext
  session_id : s'.session_id = s.session_id
  log : ∃ new, s'.log = new ++ s.log ∧ AllSealed s.keys.trans new

theorem send_msg_kexinit_ok (h : send_msg_kexinit cfg env s = .ok s') : KexinitSent s s' := by
  simp only [send_msg_kexinit, bind_eq_ok] at h
  obtain ⟨writepayload, -, s₁, hsent, h⟩ := h
  obtain ⟨out, new, rfl, hnew⟩ := encrypt_packet_sent hsent
  obtain rfl := (pure_eq_ok _ _).mp h
  exact ⟨rfl, rfl, rfl, rfl, rfl, new, rfl, hnew⟩

/-- The client's `KEXINIT` was handled. -/
structure KexinitReceived (s s' : Session) : Prop where
  authstate : s'.authstate = s.authstate
  sentkexinit : s'.kexstate.sentkexinit = true
  recvkexinit : s'.kexstate.recvkexinit = true
  sentnewkeys : s'.kexstate.sentnewkeys = s.kexstate.sentnewkeys
  recvnewkeys : s'.kexstate.recvnewkeys = s.kexstate.recvnewkeys
  keys : s'.keys = s.keys
  requirenext : s'.requirenext = SSH_MSG_KEXDH_INIT
  session_id : s'.session_id = s.session_id
  log : ∃ new, s'.log = new ++ s.log ∧ AllSealed s.keys.trans new

theorem recv_kexinit_body_ok (hsent : s.kexstate.sentkexinit = true)
    (h : recv_kexinit_body cfg s payload = .ok s') : KexinitReceived s s' := by
  unfold recv_kexinit_body at h
  split at h
  · simp only [bind_eq_ok, Prod.exists] at h
    obtain ⟨newkeys, follows, ignore, -, h⟩ := h
    obtain rfl := (pure_eq_ok _ _).mp h
    exact ⟨rfl, hsent, rfl, rfl, rfl, rfl, rfl, rfl, [], rfl, List.forall_mem_nil _⟩
  · exact absurd h (throw_ne_ok _ _)

theorem recv_msg_kexinit_ok (h : recv_msg_kexinit cfg env s payload = .ok s') :
    KexinitReceived s s' := by
  unfold recv_msg_kexinit at h
  by_cases hsent : s.kexstate.sentkexinit = true
  · rw [if_pos hsent] at h
    exact recv_kexinit_body_ok hsent h
  · rw [if_neg hsent, bind_eq_ok] at h
    obtain ⟨s₁, hkexinit, h⟩ := h
    obtain ⟨hauth, hkexstate, hkeys, -, hid, new, hlog, hnew⟩ := send_msg_kexinit_ok hkexinit
    have hsent₁ : s₁.kexstate.sentkexinit = true := by rw [hkexstate]
    obtain ⟨hauth', hs, hr, hsn, hrn, hk, hreq, hsid, new', hlog', hnew'⟩ :=
      recv_kexinit_body_ok hsent₁ h
    rw [hkexstate] at hsn hrn
    rw [hkeys] at hnew' hk
    refine ⟨hauth'.trans hauth, hs, hr, hsn, hrn, hk, hreq, hsid.trans hid, new' ++ new, ?_,
      hnew.append hnew'⟩
    rw [hlog', hlog, List.append_assoc]

/-! ## KEXDH_INIT and NEWKEYS -/

/-- A packet that may be sent during the key exchange is sealed at once. -/
theorem encrypt_packet_newkeys (h : encrypt_packet cfg env s [SSH_MSG_NEWKEYS] = .ok s') :
    ∃ out, s' = { s with
      out := out, log := .sealed SSH_MSG_NEWKEYS s.keys.trans :: s.log } := by
  simp only [encrypt_packet, ite_exit_eq_ok] at h
  obtain ⟨-, h⟩ := h
  have hokay : packet_is_okay_kex SSH_MSG_NEWKEYS = true := by decide
  rw [hokay, Bool.not_true, Bool.and_false, if_neg Bool.false_ne_true, pure_eq_ok] at h
  exact ⟨_, h.symm⟩

theorem gen_new_keys_ok (h : gen_new_keys cfg s = .ok s') :
    ∃ newkeys, newkeys.recv.valid = true ∧ newkeys.trans.valid = true ∧
      s' = { s with newkeys := some newkeys, dh_K := none, hash := none } := by
  unfold gen_new_keys at h
  split at h
  · split at h
    · exact absurd h (throw_ne_ok _ _)
    · simp only [bind_eq_ok] at h
      obtain ⟨recv, -, trans, -, h⟩ := h
      exact ⟨_, rfl, rfl, ((pure_eq_ok _ _).mp h).symm⟩
  · exact absurd h (throw_ne_ok _ _)

theorem switch_keys_ok (h : switch_keys env s = .ok s') :
    s.kexstate.sentkexinit = true ∧ s.kexstate.recvkexinit = true ∧ ∃ newkeys,
      s.newkeys = some newkeys ∧
        s' = switchDone env (switchTrans (switchRecv s newkeys) newkeys) newkeys := by
  simp only [switch_keys, ite_exit_eq_ok] at h
  obtain ⟨hstate, h⟩ := h
  have hboth : s.kexstate.sentkexinit = true ∧ s.kexstate.recvkexinit = true := by
    simpa using hstate
  split at h
  case h_1 => exact absurd h (throw_ne_ok _ _)
  case h_2 newkeys hnew => exact ⟨hboth.1, hboth.2, newkeys, hnew, ((pure_eq_ok _ _).mp h).symm⟩

section Switch

variable {newkeys : KeyContext}

theorem switchRecv_of_not (h : s.kexstate.recvnewkeys = false) : switchRecv s newkeys = s := by
  unfold switchRecv
  rw [h, Bool.false_and, if_neg Bool.false_ne_true]

theorem switchRecv_of_valid (h : s.kexstate.recvnewkeys = true) (hv : newkeys.recv.valid = true) :
    switchRecv s newkeys = { s with
      keys := { s.keys with recv := newkeys.recv }
      newkeys := s.newkeys.map ({ · with recv := {} })
      log := .switchedRecv s.keys.recv newkeys.recv :: s.log } := by
  unfold switchRecv
  rw [h, hv, Bool.true_and, if_pos rfl]

theorem switchTrans_of_not (hv : newkeys.trans.valid = false) : switchTrans s newkeys = s := by
  unfold switchTrans
  rw [hv, Bool.and_false, if_neg Bool.false_ne_true]

theorem switchTrans_of_valid (h : s.kexstate.sentnewkeys = true)
    (hv : newkeys.trans.valid = true) :
    switchTrans s newkeys = { s with
      keys := { s.keys with trans := newkeys.trans }
      newkeys := s.newkeys.map ({ · with trans := {} })
      log := .switchedTrans s.keys.trans newkeys.trans :: s.log } := by
  unfold switchTrans
  rw [h, hv, Bool.true_and, if_pos rfl]

theorem switchDone_of_not (h : s.kexstate.recvnewkeys = false) :
    switchDone env s newkeys = s := by
  unfold switchDone
  rw [h, Bool.and_false, if_neg Bool.false_ne_true]

theorem switchDone_of_both (h : s.kexstate.sentnewkeys = true)
    (h' : s.kexstate.recvnewkeys = true) :
    switchDone env s newkeys = kexinitialise env { s with
      keys := { s.keys with
        algo_kex := newkeys.algo_kex
        algo_hostkey := newkeys.algo_hostkey }
      newkeys := none } := by
  unfold switchDone
  rw [h, h', Bool.true_and, if_pos rfl]

/-- After our `NEWKEYS` only the sending direction changes over. -/
theorem switch_keys_sent (h : switch_keys env s = .ok s') (hrecv : s.kexstate.recvnewkeys = false)
    (hsent : s.kexstate.sentnewkeys = true) (hnew : s.newkeys = some newkeys)
    (hv : newkeys.trans.valid = true) :
    s.kexstate.sentkexinit = true ∧ s' = { s with
      keys := { s.keys with trans := newkeys.trans }
      newkeys := some { newkeys with trans := {} }
      log := .switchedTrans s.keys.trans newkeys.trans :: s.log } := by
  obtain ⟨hkexinit, -, newkeys', hnew', rfl⟩ := switch_keys_ok h
  have hsame : newkeys' = newkeys := Option.some.inj (hnew'.symm.trans hnew)
  subst hsame
  rw [switchRecv_of_not hrecv, switchTrans_of_valid hsent hv, hnew, Option.map_some,
    switchDone_of_not]
  · exact ⟨hkexinit, rfl⟩
  · exact hrecv

/-- After the client's, if ours was sent, the receiving direction does, and the exchange is over. -/
theorem switch_keys_received (h : switch_keys env s = .ok s')
    (hrecv : s.kexstate.recvnewkeys = true) (hsent : s.kexstate.sentnewkeys = true)
    (hnew : s.newkeys = some newkeys) (hvrecv : newkeys.recv.valid = true)
    (hvtrans : newkeys.trans.valid = false) :
    s' = kexinitialise env { s with
      keys := { s.keys with
        recv := newkeys.recv
        algo_kex := newkeys.algo_kex
        algo_hostkey := newkeys.algo_hostkey }
      newkeys := none
      log := .switchedRecv s.keys.recv newkeys.recv :: s.log } := by
  obtain ⟨-, -, newkeys', hnew', rfl⟩ := switch_keys_ok h
  have hsame : newkeys' = newkeys := Option.some.inj (hnew'.symm.trans hnew)
  subst hsame
  rw [switchRecv_of_valid hrecv hvrecv, switchTrans_of_not hvtrans, switchDone_of_both]
  · exact hsent
  · exact hrecv

end Switch

/-- Our `NEWKEYS` was sealed with the old keys, and then the new ones came into use. -/
structure NewkeysSent (s s' : Session) : Prop where
  authstate : s'.authstate = s.authstate
  kexstate : s'.kexstate = { s.kexstate with sentnewkeys := true, donefirstkex := true }
  sentkexinit : s.kexstate.sentkexinit = true
  recv : s'.keys.recv = s.keys.recv
  newkeys : ∃ newkeys, s'.newkeys = some newkeys ∧ newkeys.recv.valid = true ∧
    newkeys.trans.valid = false
  session_id : s'.session_id = s.session_id
  log : s'.log = .switchedTrans s.keys.trans s'.keys.trans ::
    .sealed SSH_MSG_NEWKEYS s.keys.trans :: s.log

theorem send_msg_newkeys_ok (hrecv : s.kexstate.recvnewkeys = false)
    (h : send_msg_newkeys cfg env s = .ok s') : NewkeysSent s s' := by
  simp only [send_msg_newkeys, bind_eq_ok] at h
  obtain ⟨s₁, hsent, s₂, hgen, h⟩ := h
  obtain ⟨out, rfl⟩ := encrypt_packet_newkeys hsent
  obtain ⟨newkeys, hvrecv, hvtrans, rfl⟩ := gen_new_keys_ok hgen
  obtain ⟨hkexinit, rfl⟩ := switch_keys_sent h hrecv rfl rfl hvtrans
  exact ⟨rfl, rfl, hkexinit, rfl, ⟨_, rfl, hvrecv, rfl⟩, rfl, rfl⟩

/-- The exchange hash is computed; the session id stays if there is one. -/
theorem send_msg_kexdh_reply_ok {newkeys : KeyContext} {kex : Kex} {theirs : KexValue}
    (h : send_msg_kexdh_reply cfg env s newkeys kex theirs = .ok s') :
    s'.authstate = s.authstate ∧ s'.kexstate = s.kexstate ∧ s'.keys = s.keys ∧
      (∀ id, s.session_id = some id → s'.session_id = some id) ∧
      ∃ new, s'.log = new ++ s.log ∧ AllSealed s.keys.trans new := by
  unfold send_msg_kexdh_reply at h
  split at h
  · simp only [bind_eq_ok, Prod.exists] at h
    obtain ⟨hostkey, -, ours, dh_K, -, h⟩ := h
    obtain ⟨out, new, rfl, hnew⟩ := encrypt_packet_sent h
    refine ⟨rfl, rfl, rfl, fun id hid => ?_, new, rfl, hnew⟩
    show some (s.session_id.getD _) = some id
    rw [hid, Option.getD_some]
  · exact absurd h (throw_ne_ok _ _)

/-- The client's `KEXDH_INIT` was handled. -/
structure KexdhReceived (s s' : Session) : Prop where
  authstate : s'.authstate = s.authstate
  recvkexinit : s.kexstate.recvkexinit = true
  sentkexinit : s'.kexstate.sentkexinit = true
  recvkexinit' : s'.kexstate.recvkexinit = true
  sentnewkeys : s'.kexstate.sentnewkeys = true
  recvnewkeys : s'.kexstate.recvnewkeys = false
  recv : s'.keys.recv = s.keys.recv
  newkeys : ∃ newkeys, s'.newkeys = some newkeys ∧ newkeys.recv.valid = true ∧
    newkeys.trans.valid = false
  requirenext : s'.requirenext = SSH_MSG_NEWKEYS
  session_id : ∀ id, s.session_id = some id → s'.session_id = some id
  log : ∃ new, s'.log = .switchedTrans s.keys.trans s'.keys.trans ::
    .sealed SSH_MSG_NEWKEYS s.keys.trans :: (new ++ s.log) ∧ AllSealed s.keys.trans new

theorem recv_msg_kexdh_init_ok (hrecv : s.kexstate.recvnewkeys = false)
    (h : recv_msg_kexdh_init cfg env s payload = .ok s') : KexdhReceived s s' := by
  simp only [recv_msg_kexdh_init, ite_exit_eq_ok] at h
  obtain ⟨hinit, h⟩ := h
  have hinit : s.kexstate.recvkexinit = true := by simpa using hinit
  split at h
  · exact absurd h (throw_ne_ok _ _)
  split at h
  · exact absurd h (throw_ne_ok _ _)
  simp only [bind_eq_ok] at h
  obtain ⟨theirs, -, s₁, hreply, s₂, hnewkeys, h⟩ := h
  obtain rfl := (pure_eq_ok _ _).mp h
  obtain ⟨hauth, hkexstate, hkeys, hid, new, hlog, hnew⟩ := send_msg_kexdh_reply_ok hreply
  rw [← hkexstate] at hrecv
  obtain ⟨hauth', hstate, hsent, hkrecv, hnk, hsid, hlog'⟩ := send_msg_newkeys_ok hrecv hnewkeys
  rw [hkeys] at hkrecv hlog'
  rw [hlog] at hlog'
  refine ⟨hauth'.trans hauth, hinit, ?_, ?_, ?_, ?_, hkrecv, hnk, rfl,
    fun id h => hsid.trans (hid id h), new, hlog', hnew⟩
  · show s₂.kexstate.sentkexinit = true
    rw [hstate]
    exact hsent
  · show s₂.kexstate.recvkexinit = true
    rw [hstate, hkexstate]
    exact hinit
  · show s₂.kexstate.sentnewkeys = true
    rw [hstate]
  · show s₂.kexstate.recvnewkeys = false
    rw [hstate]
    exact hrecv

/-- The client's `NEWKEYS` was handled, which ends the exchange. -/
structure NewkeysReceived (s s' : Session) : Prop where
  authstate : s'.authstate = s.authstate
  recvkexinit : s'.kexstate.recvkexinit = false
  sentnewkeys : s'.kexstate.sentnewkeys = false
  recvnewkeys : s'.kexstate.recvnewkeys = false
  trans : s'.keys.trans = s.keys.trans
  valid : s'.keys.recv.valid = true
  requirenext : s'.requirenext = s.requirenext
  session_id : s'.session_id = s.session_id
  log : s'.log = .kexinitialised :: .switchedRecv s.keys.recv s'.keys.recv :: s.log

theorem recv_msg_newkeys_recvkexinit (h : recv_msg_newkeys env s = .ok s') :
    s.kexstate.recvkexinit = true := (switch_keys_ok h).2.1

theorem recv_msg_newkeys_ok {newkeys : KeyContext} (hsent : s.kexstate.sentnewkeys = true)
    (hnew : s.newkeys = some newkeys) (hvrecv : newkeys.recv.valid = true)
    (hvtrans : newkeys.trans.valid = false) (h : recv_msg_newkeys env s = .ok s') :
    NewkeysReceived s s' := by
  obtain rfl := switch_keys_received h rfl hsent hnew hvrecv hvtrans
  exact ⟨rfl, rfl, rfl, rfl, rfl, hvrecv, rfl, rfl, rfl⟩

/-! ## The past -/

/-- What every later state keeps: the session id once it is set, and the log so far. -/
structure Later (s s' : Session) : Prop where
  session_id : ∀ id, s.session_id = some id → s'.session_id = some id
  log : s.log <:+ s'.log

theorem Later.refl (s : Session) : Later s s := ⟨fun _ hid => hid, List.suffix_refl _⟩

theorem Later.trans (h : Later s s') (h' : Later s' s'') : Later s s'' :=
  ⟨fun id hid => h'.session_id id (h.session_id id hid), h.log.trans h'.log⟩

theorem later_of_append {new : List LogEntry} (hid : s'.session_id = s.session_id)
    (hlog : s'.log = new ++ s.log) : Later s s' :=
  ⟨fun _ h => hid.trans h, hlog ▸ List.suffix_append new s.log⟩

theorem Quiet.later (h : Quiet s s') : Later s s' := by
  obtain ⟨new, hlog, -⟩ := h.log
  exact later_of_append h.session_id hlog

theorem KexinitSent.later (h : KexinitSent s s') : Later s s' := by
  obtain ⟨new, hlog, -⟩ := h.log
  exact later_of_append h.session_id hlog

theorem KexinitReceived.later (h : KexinitReceived s s') : Later s s' := by
  obtain ⟨new, hlog, -⟩ := h.log
  exact later_of_append h.session_id hlog

theorem KexdhReceived.later (h : KexdhReceived s s') : Later s s' := by
  obtain ⟨new, hlog, -⟩ := h.log
  refine ⟨h.session_id, ?_⟩
  rw [hlog]
  exact List.suffix_append (_ :: _ :: new) s.log

theorem NewkeysReceived.later (h : NewkeysReceived s s') : Later s s' := by
  refine ⟨fun id hid => h.session_id.trans hid, ?_⟩
  rw [h.log]
  exact List.suffix_append [_, _] s.log

end SimpleSshd.Dropbear
