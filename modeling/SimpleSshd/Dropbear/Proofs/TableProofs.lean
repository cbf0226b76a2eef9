import SimpleSshd.Dropbear.Proofs.ChildrenProofs

/-!
# Proofs: closing frees the slot of a channel

When the peer has closed a channel, `check_close` answers and removes it, unless there is data to write
or the channel is a session for which no exit was recorded. The latter also holds for a session on
which no command was ever started: it stays in the table.
-/

namespace SimpleSshd.Dropbear

open Fallible Slots

variable {cfg : Config} {opts : Opts} {env₀ : Env} {s : Server} {es : List ServerEvent} {c : Channel}

/-- **The peer closes** a channel that may be closed. -/
theorem recv_msg_channel_close_removes (hdone : cbuf_getused c.writebuf = 0)
    (hallowed : c.closeAllowed = true) (answers : FlushAnswers) :
    ∃ c', recv_msg_channel_close c answers = .ok c' ∧ c'.removed = true ∧ c'.sent_close = true := by
  have hpending : write_pending c = false := by
    rw [write_pending, hdone]
    exact Bool.and_false _
  obtain ⟨c₁, hc₁⟩ : ∃ c₁, c₁ = { c with
      recv_eof := true
      recv_close := true
      flushing := c.flushing || (!c.sent_close && c.exited) } := ⟨_, rfl⟩
  have hcheck : (c₁.recv_close && !write_pending c₁ && c₁.closeAllowed) = true := by
    rw [hc₁]
    show (true && !write_pending c && c.closeAllowed) = true
    rw [hpending, hallowed]
    rfl
  have hclose : recv_msg_channel_close c answers =
      .ok (remove_channel (if c₁.sent_close then c₁ else send_msg_channel_close c₁)) := by
    rw [hc₁] at hcheck ⊢
    exact if_pos hcheck
  refine ⟨_, hclose, rfl, ?_⟩
  show (if c₁.sent_close then c₁ else send_msg_channel_close c₁).sent_close = true
  split
  · assumption
  · obtain ⟨errfd, heq, -⟩ := send_msg_channel_close_eq c₁
    rw [heq]
    rfl

theorem closeAllowed_of_exit (hexit : c.type = .svrchansess → c.exit ≠ none) :
    c.closeAllowed = true := by
  unfold Channel.closeAllowed Channel.exited
  cases htype : c.type with
  | svrchansess =>
    rw [Option.isSome_iff_ne_none.mpr (hexit htype)]
    exact Bool.or_true _
  | svr_chan_tcpdirect => rfl
  | svr_chan_tcpremote => rfl

/-- A full table has that many channels. -/
theorem ServerInv.full (h : ServerInv opts s) (hfull : s.newchannel = none) :
    MAX_CHANNELS ≤ s.chancount := by
  unfold Server.newchannel at hfull
  split at hfull
  · rename_i hnone
    rw [h.chancount, firstFree_eq_none (Option.isNone_iff_eq_none.mp hnone.1)]
    exact hnone.2
  · cases hfull

/-- **Closing frees the slot** of every channel that has nothing to write and is no session without an
exit: one `CHANNEL_CLOSE` has then been sent, and there is one channel less. So only as many open
channels fill the table. -/
theorem close_frees_slot (h : ServerRun cfg opts env₀ es s) :
    (∀ i slot answers, lookup s.channels i = some slot → cbuf_getused slot.channel.writebuf = 0 →
      (slot.channel.type = .svrchansess → slot.channel.exit ≠ none) →
      ∃ s' c', ServerStep cfg opts s (.channel i (.close answers)) s' ∧
        lookup s'.channels i = none ∧ (∀ j, i ≠ j → lookup s'.channels j = lookup s.channels j) ∧
        s'.chancount + 1 = s.chancount ∧ s'.gone = s.gone ++ [{ slot with channel := c' }] ∧
        c'.roles.count .close = 1) ∧
      (s.newchannel = none → MAX_CHANNELS ≤ s.chancount) := by
  have hs := ServerRun.settled h
  refine ⟨fun i slot answers hslot hdone hexit => ?_, hs.inv.full⟩
  obtain ⟨hreached, -⟩ := hs.inv.channels i slot hslot
  obtain ⟨c', hclose, hremoved, hsent⟩ :=
    recv_msg_channel_close_removes hdone (closeAllowed_of_exit hexit) answers
  have hstep : ChannelStep opts slot.channel (.close answers) c' :=
    ⟨hs.present i slot hslot, trivial, hclose⟩
  have hput : lookup (s.put i slot c').channels i = some { slot with channel := c' } :=
    lookup_place_self (lt_of_lookup hslot)
  obtain ⟨s', hs'⟩ : ∃ s', s' = (s.put i slot c').remove_channel i { slot with channel := c' } :=
    ⟨_, rfl⟩
  have hserver : serverStep cfg opts s (.channel i (.close answers)) = .ok s' := by
    simp only [serverStep, hslot]
    refine bind_eq_ok.mpr ⟨c', hclose, ?_⟩
    rw [hs']
    exact congrArg Except.ok (if_pos hremoved)
  refine ⟨s', c', ⟨⟨hs.inv.authdone hslot, fun _ _ => trivial⟩, hserver⟩, ?_⟩
  have hused := used_clear hput
  have hcount : s.chancount = used (s.put i slot c').channels :=
    hs.inv.chancount.trans (used_replace hslot).symm
  rw [hs', remove_channel_eq]
  refine ⟨lookup_clear_self, fun j hij => ?_, ?_, rfl, ?_⟩
  · exact (lookup_clear_ne hij).trans (lookup_place_ne hij)
  · show s.chancount - 1 + 1 = s.chancount
    omega
  · rw [(hreached.step hstep).known.closing.closes, hsent]
    rfl

/-- The process of a session has been waited for. -/
def execAndExit : List ServerEvent :=
  loginAndOpen ++
    [.channel 0 (.request (requestOf "exec" (stringOf (ascii "cat"))) plainEnv)] ++ endOf 42 0

theorem close_frees_slot_execAndExit : ∃ (s s' : Server) (c' : Channel),
    ServerRun (plainConfig noCrypto noKexCrypto) tinyOpts noKeysEnv execAndExit s ∧
      ServerStep (plainConfig noCrypto noKexCrypto) tinyOpts s (.channel 0 (.close noFlush)) s' ∧
      lookup s'.channels 0 = none ∧ s'.chancount + 1 = s.chancount ∧ c'.roles.count .close = 1 := by
  have hexec : (runServer (plainConfig noCrypto noKexCrypto) tinyOpts noKeysEnv execAndExit).any
      (fun s => (lookup s.channels 0).any fun slot =>
        decide (cbuf_getused slot.channel.writebuf = 0 ∧ slot.channel.exit ≠ none)) = true := by
    decide +kernel
  obtain ⟨s, hs, hany⟩ := (Option.any_eq_true _ _).mp hexec
  obtain ⟨slot, hslot, htest⟩ := (Option.any_eq_true _ _).mp hany
  obtain ⟨hdone, hexit⟩ := of_decide_eq_true htest
  have hrun := serverRun_of_runServer hs
  obtain ⟨s', c', hstep, hfree, -, hcount, -, hclose⟩ :=
    (close_frees_slot hrun).1 0 slot noFlush hslot hdone fun _ => hexit
  exact ⟨s, s', c', hrun, hstep, hfree, hcount, hclose⟩

/-- **A session without a command cannot be closed**: it has no process and nothing to write, and the
`CHANNEL_CLOSE` of the peer is not answered. -/
theorem session_stays_open : ∃ s s' slot slot',
    ServerRun (plainConfig noCrypto noKexCrypto) tinyOpts noKeysEnv loginAndOpen s ∧
      lookup s.channels 0 = some slot ∧ s.processes = [] ∧
      slot.channel.await_open = false ∧ cbuf_getused slot.channel.writebuf = 0 ∧
      ServerStep (plainConfig noCrypto noKexCrypto) tinyOpts s (.channel 0 (.close noFlush)) s' ∧
      lookup s'.channels 0 = some slot' ∧ slot'.channel.recv_close = true ∧
      slot'.channel.roles.count .close = 0 ∧ s'.chancount = s.chancount := by
  have hexec : (runServer (plainConfig noCrypto noKexCrypto) tinyOpts noKeysEnv loginAndOpen).any
      (fun s => (lookup s.channels 0).any fun slot => decide (s.processes = [] ∧
          slot.channel.await_open = false ∧ cbuf_getused slot.channel.writebuf = 0) &&
        (stepServer (plainConfig noCrypto noKexCrypto) tinyOpts s (.channel 0 (.close noFlush))).any
          fun s' => (lookup s'.channels 0).any fun slot' => decide (slot'.channel.recv_close = true ∧
            slot'.channel.roles.count .close = 0 ∧ s'.chancount = s.chancount)) = true := by
    decide +kernel
  obtain ⟨s, hs, hany⟩ := (Option.any_eq_true _ _).mp hexec
  obtain ⟨slot, hslot, htest⟩ := (Option.any_eq_true _ _).mp hany
  obtain ⟨hbefore, hany⟩ := Bool.and_eq_true_iff.mp htest
  obtain ⟨s', hs', hany⟩ := (Option.any_eq_true _ _).mp hany
  obtain ⟨slot', hslot', hafter⟩ := (Option.any_eq_true _ _).mp hany
  obtain ⟨hnone, hopen, hdone⟩ := of_decide_eq_true hbefore
  exact ⟨s, s', slot, slot', serverRun_of_runServer hs, hslot, hnone, hopen, hdone,
    stepServer_eq_some hs', hslot', of_decide_eq_true hafter⟩

end SimpleSshd.Dropbear
