import SimpleSshd.Dropbear.Proofs.CommandProofs

/-!
# Proofs: how a channel ends

`CHANNEL_EOF` is sent when `readfd` and `errfd` look closed, and `CHANNEL_CLOSE` when nothing is left to
do. That nothing follows rests on the descriptors: a channel that ended its output has none to read
from, and one that is closed has none at all. A process that is started later sets them up again.
-/

namespace SimpleSshd.Dropbear

variable {opts : Opts} {c c' : Channel} {es : List ChannelEvent}

/-! ## What is submitted -/

/-- What a message is for, as far as the end of a channel goes. -/
inductive Role
  | data
  | eof
  | close
  | other
  deriving DecidableEq

def ChannelMsg.role : ChannelMsg → Role
  | .CHANNEL_DATA _ _ => .data
  | .CHANNEL_EXTENDED_DATA _ _ => .data
  | .CHANNEL_EOF _ => .eof
  | .CHANNEL_CLOSE _ => .close
  | _ => .other

/-- What was submitted on a channel. -/
def Channel.roles (c : Channel) : List Role := c.sent.map ChannelMsg.role

theorem ChannelMsg.role_of_isExit {m : ChannelMsg} (h : m.isExit = true) : m.role = .other := by
  cases m <;> first | rfl | cases h

theorem role_dataMessage (isextended : Bool) (remotechan : Nat) (data : Bytes) :
    (dataMessage isextended remotechan data).role = .data := by
  cases isextended <;> rfl

theorem roles_exitMessages (c : Channel) :
    c.exitMessages.map ChannelMsg.role = List.replicate c.exitMessages.length .other := by
  rw [List.map_eq_replicate_iff]
  exact fun m hm => ChannelMsg.role_of_isExit (isExit_exitMessages c m hm)

/-- What an act submits, and when. -/
inductive Submits (c : Channel) : List Role → Prop
  | nothing : Submits c []
  | other (h : 0 ≤ c.writefd ∨ c.sent_close = false) : Submits c [.other]
  | data (isextended : Bool) (hclose : c.sent_close = false) (hfd : 0 ≤ c.sourceFd isextended) :
      Submits c [.data]
  | eof (heof : c.sent_eof = false) : Submits c [.eof]
  | close (exits : Nat) (hclose : c.sent_close = false) :
      Submits c (List.replicate exits .other ++ [.close])

/-- The flags say what was submitted. -/
structure Noted (c c' : Channel) (rs : List Role) : Prop where
  roles : c'.roles = c.roles ++ rs
  sent_eof : c'.sent_eof = (c.sent_eof || decide (Role.eof ∈ rs) || decide (Role.close ∈ rs))
  sent_close : c'.sent_close = (c.sent_close || decide (Role.close ∈ rs))

theorem noted_nothing (hsent : c'.sent = c.sent) (heof : c'.sent_eof = c.sent_eof)
    (hclose : c'.sent_close = c.sent_close) : Noted c c' [] where
  roles := by rw [Channel.roles, Channel.roles, hsent, List.append_nil]
  sent_eof := by simp [heof]
  sent_close := by simp [hclose]

theorem noted_one (m : ChannelMsg) {r : Role} (hsent : c'.sent = c.sent ++ [m])
    (heof : c'.sent_eof = c.sent_eof) (hclose : c'.sent_close = c.sent_close) (hm : m.role = r)
    (hr : r = .other ∨ r = .data) : Noted c c' [r] where
  roles := by rw [Channel.roles, Channel.roles, hsent, List.map_append, List.map_singleton, hm]
  sent_eof := by rcases hr with rfl | rfl <;> simp [heof]
  sent_close := by rcases hr with rfl | rfl <;> simp [hclose]

theorem noted_submit (m : ChannelMsg) (hm : m.role = .other) : Noted c (c.submit m) [.other] :=
  noted_one m rfl rfl rfl hm (.inl rfl)

/-- Closing, with or without removing the channel. -/
theorem noted_closed (c : Channel) :
    Noted c c.closed (List.replicate c.exitMessages.length .other ++ [.close]) where
  roles := by
    rw [Channel.roles, Channel.roles, Channel.closed, List.map_append, List.map_append,
      roles_exitMessages, List.append_assoc]
    rfl
  sent_eof := by simp [Channel.closed]
  sent_close := by simp [Channel.closed]

theorem Wiring.not_sent_close (hw : Wiring c) (h : c.sent_eof = false) : c.sent_close = false := by
  by_contra hclose
  have heof := hw.finished (Bool.not_eq_false _ ▸ hclose)
  rw [h] at heof
  cases heof

/-- **What an act submits.** -/
theorem ChannelAct.submits {kind : ActKind} (h : ChannelAct opts kind c c') (hw : Wiring c) :
    ∃ rs, Submits c rs ∧ Noted c c' rs := by
  cases h with
  | extended hopen hmuch =>
    exact ⟨_, .other (.inl hopen),
      noted_one (.CHANNEL_WINDOW_ADJUST c.remotechan c.recvdonelen) rfl rfl rfl rfl (.inl rfl)⟩
  | writeErrorExtended hopen hmuch =>
    exact ⟨_, .other (.inl hopen),
      noted_one (.CHANNEL_WINDOW_ADJUST c.remotechan c.recvdonelen) rfl rfl rfl rfl (.inl rfl)⟩
  | succeeded hclose => exact ⟨_, .other (.inr hclose), noted_submit _ rfl⟩
  | failed hclose => exact ⟨_, .other (.inr hclose), noted_submit _ rfl⟩
  | keptAlive hready =>
    have heof : c.sent_eof = false := by
      simp only [Channel.isReady, Bool.and_eq_true, Bool.not_eq_true', Bool.or_eq_false_iff] at hready
      exact hready.1.1
    exact ⟨_, .other (.inr (hw.not_sent_close heof)), noted_submit _ rfl⟩
  | connected sock hpending =>
    have hclose := hw.not_sent_close (hw.pending hpending).sent_eof
    exact ⟨_, .other (.inr hclose),
      noted_one (.CHANNEL_OPEN_CONFIRMATION _ _ _ _) rfl rfl rfl rfl (.inl rfl)⟩
  | connectFailed hpending =>
    have hclose := hw.not_sent_close (hw.pending hpending).sent_eof
    exact ⟨_, .other (.inr hclose), noted_one (.CHANNEL_OPEN_FAILURE _ _) rfl rfl rfl rfl (.inl rfl)⟩
  | read isextended answer hclose hfd hmax =>
    by_cases hdata : (c.readCall isextended answer).data = []
    · refine ⟨[], .nothing, noted_nothing ?_ rfl rfl⟩
      show c.sent ++ ReadCall.messages _ _ = c.sent
      rw [ReadCall.messages, if_pos hdata, List.append_nil]
    · have hsent : (c.didRead (c.readCall isextended answer)).sent = c.sent ++
          [dataMessage isextended c.remotechan (c.readCall isextended answer).data] := by
        show c.sent ++ ReadCall.messages _ _ = _
        rw [ReadCall.messages, if_neg hdata]
        rfl
      exact ⟨[.data], .data isextended hclose hfd,
        noted_one _ hsent rfl rfl (role_dataMessage _ _ _) (.inr rfl)⟩
  | sentEof heof hread =>
    refine ⟨[.eof], .eof heof, ?_, ?_, ?_⟩
    · exact List.map_append
    · simp [send_msg_channel_eof]
    · simp [send_msg_channel_eof, Channel.submit]
  | sentClose hclose hallowed hread hwrite => exact ⟨_, .close _ hclose, noted_closed c⟩
  | closedRemoved hidle hrecv hclose hallowed hdone =>
    have hnoted := noted_closed c
    exact ⟨_, .close _ hclose, hnoted.roles, hnoted.sent_eof, hnoted.sent_close⟩
  | _ => exact ⟨[], .nothing, noted_nothing rfl rfl rfl⟩

/-! ## The processes of a channel over time -/

theorem ChannelAct.started_append {kind : ActKind} (h : ChannelAct opts kind c c') :
    ∃ new, c'.trace.started = c.trace.started ++ new := by
  cases h with
  | started => exact ⟨_, rfl⟩
  | startedPty => exact ⟨_, rfl⟩
  | _ => exact ⟨[], (List.append_nil _).symm⟩

theorem ActsOf.started_eq {kind : ActKind} (h : ActsOf opts kind c c') (hkind : kind ≠ .request) :
    c'.trace.started = c.trace.started := by
  induction h with
  | refl => rfl
  | tail _ hact ih => exact (hact.started_eq hkind).trans ih

/-- A process is started, or a connection made, or there are no new descriptors. -/
theorem ChannelAct.sets_up {kind : ActKind} (h : ChannelAct opts kind c c') (hw : Wiring c) :
    (∃ p ∈ c'.trace.started, p.afterEof = c.sent_eof ∧ p.afterClose = c.sent_close ∧
        c'.sent_eof = c.sent_eof ∧ c'.sent_close = c.sent_close) ∨
      c'.sent_eof = false ∨
      SameOrClosed c.writefd c'.writefd ∧ SameOrClosed c.readfd c'.readfd ∧
        SameOrClosed c.errfd c'.errfd := by
  rcases h.descriptors with hset | ⟨-, hfds⟩
  · cases h with
    | started =>
      exact .inl ⟨_, List.mem_append_right _ (List.mem_singleton_self _), rfl, rfl, rfl, rfl⟩
    | startedPty =>
      exact .inl ⟨_, List.mem_append_right _ (List.mem_singleton_self _), rfl, rfl, rfl, rfl⟩
    | connected sock hpending => exact .inr (.inl (hw.pending hpending).sent_eof)
    | _ => exact absurd hset (Nat.ne_of_lt (Nat.lt_succ_self _))
  · exact .inr (.inr hfds)

/-! ## The end of a channel -/

/-- No process was started after the output had ended. -/
def Channel.OutputFirst (c : Channel) : Prop := ∀ p ∈ c.trace.started, p.afterEof = false

/-- No process was started after the channel had been closed. -/
def Channel.CloseFinal (c : Channel) : Prop := ∀ p ∈ c.trace.started, p.afterClose = false

structure Closing (c : Channel) : Prop where
  eofs : c.roles.count .eof ≤ c.sent_eof.toNat
  closes : c.roles.count .close = c.sent_close.toNat
  /-- A channel that ended its output has nothing to read from. -/
  unread : c.OutputFirst → c.sent_eof = true → c.readfd < 0 ∧ c.errfd < 0
  /-- One that was closed has no descriptors. -/
  shut : c.CloseFinal → c.sent_close = true → c.writefd < 0 ∧ c.readfd < 0 ∧ c.errfd < 0
  dataFirst : c.OutputFirst → c.roles.Pairwise fun earlier later => earlier = .eof → later ≠ .data
  closeLast : c.CloseFinal → c.roles.Pairwise fun earlier _ => earlier ≠ .close
  /-- A session whose first process has a command starts none when it is closed. -/
  final : (∀ p ∈ c.trace.started.head?, p.cmd ≠ none) → c.CloseFinal

section Counts

variable {kind : ActKind} {rs : List Role}

theorem Noted.eofs (hn : Noted c c' rs) (hs : Submits c rs)
    (h : c.roles.count .eof ≤ c.sent_eof.toNat) : c'.roles.count .eof ≤ c'.sent_eof.toNat := by
  rw [hn.roles, hn.sent_eof, List.count_append]
  cases hs with
  | nothing => simpa using h
  | other _ => simpa using h
  | data _ _ _ => simpa using h
  | eof heof =>
    rw [heof] at h ⊢
    simpa using h
  | close exits hclose =>
    refine Nat.le_trans (Nat.add_le_add_right h _) ?_
    simpa [List.count_replicate] using Bool.toNat_le c.sent_eof

theorem Noted.closes (hn : Noted c c' rs) (hs : Submits c rs)
    (h : c.roles.count .close = c.sent_close.toNat) :
    c'.roles.count .close = c'.sent_close.toNat := by
  rw [hn.roles, hn.sent_close, List.count_append, h]
  cases hs with
  | nothing => simp
  | other _ => simp
  | data _ _ _ => simp
  | eof _ => simp
  | close exits hclose =>
    rw [hclose]
    simp [List.count_replicate]

end Counts

section Acts

variable {kind : ActKind}

theorem ChannelAct.unread (h : ChannelAct opts kind c c') (hw : Wiring c) (hc : Closing c)
    (hfirst : c'.OutputFirst) (heof : c'.sent_eof = true) : c'.readfd < 0 ∧ c'.errfd < 0 := by
  obtain ⟨new, happend⟩ := h.started_append
  have hfirst' : c.OutputFirst := fun p hp => hfirst p (by rw [happend]; exact List.mem_append_left _ hp)
  rcases h.sets_up hw with ⟨p, hp, hafter, -, hsame, -⟩ | hno | ⟨-, hread, herr⟩
  · have hbefore := hfirst p hp
    rw [hafter, ← hsame, heof] at hbefore
    cases hbefore
  · rw [heof] at hno
    cases hno
  · by_cases hprev : c.sent_eof = true
    · obtain ⟨hread', herr'⟩ := hc.unread hfirst' hprev
      exact ⟨hread.neg hread', herr.neg herr'⟩
    · -- the output ends with this act
      cases h with
      | sentEof _ hclosed =>
        rw [Channel.readClosed, Bool.and_eq_true, beq_iff_eq, beq_iff_eq] at hclosed
        refine ⟨?_, ?_⟩
        · show c.readfd < 0
          rw [hclosed.1]
          exact FD_CLOSED_neg
        · show c.errfd < 0
          rw [hclosed.2]
          exact FD_CLOSED_neg
      | sentClose => exact ⟨FD_CLOSED_neg, FD_CLOSED_neg⟩
      | closedRemoved => exact ⟨FD_CLOSED_neg, FD_CLOSED_neg⟩
      | _ => exact absurd heof hprev

theorem ChannelAct.shut (h : ChannelAct opts kind c c') (hw : Wiring c) (hc : Closing c)
    (hfinal : c'.CloseFinal) (hclose : c'.sent_close = true) :
    c'.writefd < 0 ∧ c'.readfd < 0 ∧ c'.errfd < 0 := by
  obtain ⟨new, happend⟩ := h.started_append
  have hfinal' : c.CloseFinal := fun p hp => hfinal p (by rw [happend]; exact List.mem_append_left _ hp)
  rcases h.sets_up hw with ⟨p, hp, -, hafter, -, hsame⟩ | hno | ⟨hwrite, hread, herr⟩
  · have hbefore := hfinal p hp
    rw [hafter, ← hsame, hclose] at hbefore
    cases hbefore
  · have heof := h.finished_eof hw.finished hclose
    rw [hno] at heof
    cases heof
  · by_cases hprev : c.sent_close = true
    · obtain ⟨hwrite', hread', herr'⟩ := hc.shut hfinal' hprev
      exact ⟨hwrite.neg hwrite', hread.neg hread', herr.neg herr'⟩
    · cases h with
      | sentClose => exact ⟨FD_CLOSED_neg, FD_CLOSED_neg, FD_CLOSED_neg⟩
      | closedRemoved => exact ⟨FD_CLOSED_neg, FD_CLOSED_neg, FD_CLOSED_neg⟩
      | _ => exact absurd hclose hprev

/-- No data is submitted after the output has ended. -/
theorem Closing.data_first (hc : Closing c) {rs : List Role} (hs : Submits c rs)
    (hfirst : c.OutputFirst) :
    (c.roles ++ rs).Pairwise fun earlier later => earlier = .eof → later ≠ .data := by
  refine List.pairwise_append.mpr ⟨hc.dataFirst hfirst, ?_, ?_⟩
  · cases hs with
    | close exits hclose =>
      refine List.pairwise_append.mpr ⟨?_, List.pairwise_singleton _ _, ?_⟩
      · exact List.pairwise_replicate.mpr (.inr fun h => nomatch h)
      · intro earlier _ later hlater _
        rw [List.mem_singleton.mp hlater]
        exact nofun
    | nothing => exact List.Pairwise.nil
    | _ => exact List.pairwise_singleton _ _
  · intro earlier hearlier later hlater heof hdata
    subst heof hdata
    have hsent : c.sent_eof = true := by
      have hcount := List.count_pos_iff.mpr hearlier
      have heofs := hc.eofs
      by_contra hno
      rw [Bool.eq_false_iff.mpr hno] at heofs
      exact absurd hcount (Nat.not_lt.mpr heofs)
    obtain ⟨hread, herr⟩ := hc.unread hfirst hsent
    cases hs with
    | data isextended hclose hfd =>
      cases isextended with
      | true => exact absurd hfd (Int.not_le.mpr herr)
      | false => exact absurd hfd (Int.not_le.mpr hread)
    | close exits hclose => simp at hlater
    | nothing => cases hlater
    | other _ => simp at hlater
    | eof _ => simp at hlater

/-- Nothing is submitted for a channel that was closed. -/
theorem Submits.nil_of_closed {rs : List Role} (hs : Submits c rs) (hw : Wiring c)
    (hclose : c.sent_close = true) (hwrite : c.writefd < 0) : rs = [] := by
  cases hs with
  | nothing => rfl
  | other hwhy =>
    rcases hwhy with hopen | hnot
    · exact absurd hopen (Int.not_le.mpr hwrite)
    · rw [hclose] at hnot
      cases hnot
  | data _ hnot _ =>
    rw [hclose] at hnot
    cases hnot
  | eof hnot =>
    rw [hw.finished hclose] at hnot
    cases hnot
  | close _ hnot =>
    rw [hclose] at hnot
    cases hnot

theorem Closing.close_last (hc : Closing c) (hw : Wiring c) {rs : List Role} (hs : Submits c rs)
    (hfinal : c.CloseFinal) : (c.roles ++ rs).Pairwise fun earlier _ => earlier ≠ .close := by
  by_cases hclose : c.sent_close = true
  · rw [hs.nil_of_closed hw hclose (hc.shut hfinal hclose).1, List.append_nil]
    exact hc.closeLast hfinal
  · have hnone : .close ∉ c.roles := by
      have hcount := hc.closes
      rw [Bool.eq_false_iff.mpr hclose] at hcount
      exact List.count_eq_zero.mp hcount
    refine List.pairwise_append.mpr ⟨hc.closeLast hfinal, ?_, ?_⟩
    · cases hs with
      | close exits _ =>
        refine List.pairwise_append.mpr ⟨?_, List.pairwise_singleton _ _, ?_⟩
        · exact List.pairwise_replicate.mpr (.inr nofun)
        · intro earlier hearlier _ _
          rw [List.eq_of_mem_replicate hearlier]
          exact nofun
      | nothing => exact List.Pairwise.nil
      | _ => exact List.pairwise_singleton _ _
    · intro earlier hearlier _ _ heq
      rw [heq] at hearlier
      exact hnone hearlier

/-- A process is started before the channel is closed, unless one without a command was started. -/
theorem Processes.not_closed (hp : Processes c) (hw : Wiring c) {old : ChanSess}
    (hold : c.chansess = some old) (htype : c.type = .svrchansess) (hfree : old.cmd = none)
    (hfirst : ∀ p ∈ c.trace.started.head?, p.cmd ≠ none) : c.sent_close = false := by
  by_contra hclose
  have hcheck : c.type.check_close = true := by
    rw [htype]
    rfl
  -- the session was closed because a process had exited
  have hexited := hw.closed hcheck (Bool.not_eq_false _ ▸ hclose)
  rw [Channel.exited, hcheck, Bool.true_and] at hexited
  obtain ⟨info, hinfo⟩ := Option.isSome_iff_exists.mp hexited
  have hpid := hp.exits info hinfo
  rcases hstarted : c.trace.started with _ | ⟨p, rest⟩
  · rw [hstarted] at hpid
    cases hpid
  · -- its command is still there
    have hcmd : p.cmd ≠ none := by
      refine hfirst p ?_
      rw [hstarted]
      rfl
    have hmem : p ∈ c.trace.started := by
      rw [hstarted]
      exact List.mem_cons_self
    exact hcmd ((hp.held old hold p hmem hcmd).symm.trans hfree)

theorem ChannelAct.close_final (h : ChannelAct opts kind c c') (hw : Wiring c) (hp : Processes c)
    (hc : Closing c) (hfirst : ∀ p ∈ c'.trace.started.head?, p.cmd ≠ none) : c'.CloseFinal := by
  have hfirst' : ∀ p ∈ c.trace.started.head?, p.cmd ≠ none := by
    obtain ⟨new, happend⟩ := h.started_append
    intro p hmem
    refine hfirst p ?_
    rw [happend, List.head?_append, hmem]
    rfl
  have hold := hc.final hfirst'
  have hstart : ∀ {old chansess : ChanSess} {pid : Nat} {pty : Bool} {writefd readfd errfd : Int},
      c.chansess = some old → c.type = .svrchansess → old.cmd = none →
      (c.startedOn chansess pid pty writefd readfd errfd).CloseFinal := by
    intro old chansess pid pty writefd readfd errfd hsess htype hfree p hmem
    rcases List.mem_append.mp hmem with hmem | hmem
    · exact hold p hmem
    · rw [List.mem_singleton.mp hmem]
      exact hp.not_closed hw hsess htype hfree hfirst'
  cases h with
  | started old requested env spawn chansess hsess htype hfree hspawn hchansess hterm =>
    exact hstart hsess htype hfree
  | startedPty old requested env spawn chansess hsess htype hfree hspawn hchansess hmaster =>
    exact hstart hsess htype hfree
  | _ => exact hold

theorem ChannelAct.closing (h : ChannelAct opts kind c c') (hw : Wiring c) (hp : Processes c)
    (hc : Closing c) : Closing c' := by
  obtain ⟨rs, hs, hn⟩ := h.submits hw
  obtain ⟨new, happend⟩ := h.started_append
  have hold : ∀ p ∈ c.trace.started, p ∈ c'.trace.started := by
    intro p hp
    rw [happend]
    exact List.mem_append_left _ hp
  refine ⟨hn.eofs hs hc.eofs, hn.closes hs hc.closes, h.unread hw hc, h.shut hw hc, ?_, ?_,
    h.close_final hw hp hc⟩
  · intro hfirst
    rw [hn.roles]
    exact hc.data_first hs fun p hp => hfirst p (hold p hp)
  · intro hfinal
    rw [hn.roles]
    exact hc.close_last hw hs fun p hp => hfinal p (hold p hp)

end Acts

theorem Fresh.closing (h : Fresh opts c) : Closing c := by
  have hnew : (c.roles = [] ∨ c.roles = [.other]) ∧ c.sent_eof = false ∧ c.sent_close = false ∧
      c.trace.started = [] := by
    cases h with
    | session => exact ⟨.inr rfl, rfl, rfl, rfl⟩
    | connecting => exact ⟨.inl rfl, rfl, rfl, rfl⟩
    | prohibited => exact ⟨.inr rfl, rfl, rfl, rfl⟩
    | outgoing => exact ⟨.inr rfl, rfl, rfl, rfl⟩
  obtain ⟨hroles, heof, hclose, hstarted⟩ := hnew
  refine ⟨?_, ?_, ?_, ?_, ?_, ?_, ?_⟩
  · rcases hroles with hroles | hroles <;> simp [hroles]
  · rcases hroles with hroles | hroles <;> simp [hroles, hclose]
  · intro _ hsent
    rw [heof] at hsent
    cases hsent
  · intro _ hsent
    rw [hclose] at hsent
    cases hsent
  · rcases hroles with hroles | hroles <;> simp [hroles]
  · rcases hroles with hroles | hroles <;> simp [hroles]
  · intro _ p hp
    rw [hstarted] at hp
    cases hp

/-- What is known of every channel. -/
structure Known (c : Channel) : Prop where
  wiring : Wiring c
  processes : Processes c
  closing : Closing c

theorem ChannelAct.known {kind : ActKind} (h : ChannelAct opts kind c c') (hk : Known c) : Known c' where
  wiring := h.wiring hk.wiring
  processes := h.processes hk.wiring hk.processes
  closing := h.closing hk.wiring hk.processes hk.closing

theorem ActsOf.known {kind : ActKind} (h : ActsOf opts kind c c') (hk : Known c) : Known c' :=
  ChannelActs.invariant (fun _ _ _ hinv hact => hact.known hinv) (ActsOf.acts h) hk

theorem ChannelRun.known (h : ChannelRun opts es c) : Orderly opts c ∧ Known c := by
  have hact : ∀ ⦃kind c c'⦄, Sound opts c → Known c → ChannelAct opts kind c c' → Known c' :=
    fun _ _ _ _ hinv hact => hact.known hinv
  have hall := h.invariant (fun _ hfresh => ⟨hfresh.wiring, hfresh.processes, hfresh.closing⟩) hact
  exact hall

/-! ## Data after the end of the output -/

/-- **No data after the end of the output**, if no process is started after it. -/
theorem no_data_after_eof (h : ChannelRun opts es c)
    (hfirst : ∀ p ∈ c.trace.started, p.afterEof = false) :
    c.roles.Pairwise fun earlier later => earlier = .eof → later ≠ .data :=
  h.known.2.closing.dataFirst hfirst

/-- A command writes to its output, and ends it. -/
def outputThenEof : List ChannelEvent :=
  [.request (requestOf "exec" (stringOf (ascii "ls"))) plainEnv,
    readable (some (.bytes (ascii "x"))) none false,
    readable (some (.bytes [])) (some (.bytes [])) false]

theorem no_data_after_eof_outputThenEof : ∃ c, ChannelRun tinyOpts outputThenEof c ∧
    c.roles = [.other, .other, .data, .eof] ∧
      c.roles.Pairwise fun earlier later => earlier = .eof → later ≠ .data := by
  have hexec : (runSession tinyOpts 100 100 outputThenEof).any (fun c =>
      decide (c.roles = [.other, .other, .data, .eof]) &&
        c.trace.started.all fun p => !p.afterEof) = true := by
    decide +kernel
  obtain ⟨c, hc, htest⟩ := (Option.any_eq_true _ _).mp hexec
  rw [Bool.and_eq_true, List.all_eq_true, decide_eq_true_eq] at htest
  obtain ⟨hroles, hall⟩ := htest
  have hrun := channelRun_of_runSession hc
  have hfirst : ∀ p ∈ c.trace.started, p.afterEof = false := by
    intro p hp
    simpa using hall p hp
  exact ⟨c, hrun, hroles, no_data_after_eof hrun hfirst⟩

/-- The client ends its input before it asks for a command. -/
def eofBeforeExec : List ChannelEvent :=
  [.eof noFlush, .request (requestOf "exec" (stringOf (ascii "ls"))) plainEnv,
    readable (some (.bytes (ascii "x"))) none false]

/-- **A command can be started after the end of the output**: the descriptors of a session without a
process look closed once the client has ended its input, and the output of the command follows. -/
theorem data_after_eof : ∃ c, ChannelRun tinyOpts eofBeforeExec c ∧
    c.sent = [.CHANNEL_OPEN_CONFIRMATION 0 0 8 RECV_MAX_CHANNEL_DATA_LEN, .CHANNEL_EOF 0,
      .CHANNEL_SUCCESS 0, .CHANNEL_DATA 0 (ascii "x")] := by
  have hexec : (runSession tinyOpts 100 100 eofBeforeExec).any (fun c =>
      c.sent == [.CHANNEL_OPEN_CONFIRMATION 0 0 8 RECV_MAX_CHANNEL_DATA_LEN, .CHANNEL_EOF 0,
        .CHANNEL_SUCCESS 0, .CHANNEL_DATA 0 (ascii "x")]) = true := by
    decide +kernel
  obtain ⟨c, hc, htest⟩ := (Option.any_eq_true _ _).mp hexec
  exact ⟨c, channelRun_of_runSession hc, beq_iff_eq.mp htest⟩

/-! ## Silence after the channel was closed -/

theorem Known.no_send {a : Abort} (hk : Known c)
    (hfirst : ∀ p ∈ c.trace.started.head?, p.cmd ≠ none) (h : SendAbort opts c a) : False := by
  obtain ⟨c₁, isextended, hacts, hclose, hfd⟩ := h
  have hstarted := ActsOf.started_eq hacts nofun
  have hk₁ := ActsOf.known hacts hk
  rw [← hstarted] at hfirst
  obtain ⟨-, hread, herr⟩ := hk₁.closing.shut (hk₁.closing.final hfirst) hclose
  cases isextended with
  | true => exact absurd hfd (Int.not_le.mpr herr)
  | false => exact absurd hfd (Int.not_le.mpr hread)

/-- **A channel is ended and closed once**; and if its first process has a command, nothing is submitted
and no process is started after that, and no event violates the assertion about it. -/
theorem silent_after_close (h : ChannelRun opts es c) :
    c.roles.count .eof ≤ 1 ∧ c.roles.count .close ≤ 1 ∧
      ((∀ p ∈ c.trace.started.head?, p.cmd ≠ none) →
        c.roles.Pairwise (fun earlier _ => earlier ≠ .close) ∧
        (∀ p ∈ c.trace.started, p.afterClose = false) ∧
        ∀ e a, e.Possible c → channelStep opts c e = .error a →
          a ≠ .assertion .sendDataClosed) := by
  obtain ⟨horder, hk⟩ := h.known
  have hc := hk.closing
  refine ⟨Nat.le_trans hc.eofs (Bool.toNat_le _), ?_, fun hfirst => ⟨?_, hc.final hfirst, ?_⟩⟩
  · rw [hc.closes]
    exact Bool.toNat_le _
  · exact hc.closeLast (hc.final hfirst)
  · intro e a hpossible hstep
    have habort := (channelStep_meets horder.sound horder.idle hpossible).of_error hstep
    cases habort with
    | send hsend => exact absurd hsend (hk.no_send hfirst)
    | peer hpeer =>
      cases hpeer
      exact nofun
    | _ => exact nofun

/-- A command that ends, and requests after the channel was closed. -/
def execUntilClose : List ChannelEvent :=
  [.request (requestOf "exec" (stringOf (ascii "ls"))) plainEnv, .childExited succeeded,
    readable (some (.bytes [])) (some (.bytes [])) true,
    .request (requestOf "shell" []) { plainEnv with spawn := some spawnedNext }]

theorem silent_after_close_execUntilClose : ∃ c, ChannelRun tinyOpts execUntilClose c ∧
    c.roles = [.other, .other, .eof, .other, .close] ∧
      ∀ e a, e.Possible c → channelStep tinyOpts c e = .error a →
        a ≠ .assertion .sendDataClosed := by
  have hexec : (runSession tinyOpts 100 100 execUntilClose).any (fun c =>
      decide (c.roles = [.other, .other, .eof, .other, .close]) &&
        c.trace.started.head?.all fun p => p.cmd.isSome) = true := by
    decide +kernel
  obtain ⟨c, hc, htest⟩ := (Option.any_eq_true _ _).mp hexec
  rw [Bool.and_eq_true, decide_eq_true_eq, Option.all_eq_true] at htest
  obtain ⟨hroles, hcmd⟩ := htest
  have hrun := channelRun_of_runSession hc
  have hfirst : ∀ p ∈ c.trace.started.head?, p.cmd ≠ none := by
    intro p hp
    exact Option.isSome_iff_ne_none.mp (hcmd p hp)
  exact ⟨c, hrun, hroles, ((silent_after_close hrun).2.2 hfirst).2.2⟩

/-- A shell that ends, and another that is asked for after the channel was closed. -/
def shellAfterClose : List ChannelEvent :=
  [.request (requestOf "shell" []) plainEnv, .childExited succeeded,
    readable (some (.bytes [])) (some (.bytes [])) true,
    .request (requestOf "shell" []) { plainEnv with spawn := some spawnedNext }]

/-- **A shell can be started on a closed channel**, and its output then ends the server. -/
theorem shell_on_closed_channel : ∃ c, ChannelRun tinyOpts shellAfterClose c ∧
    c.sent.getLast? = some (.CHANNEL_CLOSE 0) ∧ c.trace.started.map Started.pid = [42, 43] ∧
      c.trace.started.map Started.afterClose = [false, true] ∧
      channelStep tinyOpts c (readable (some (.bytes (ascii "x"))) none false) =
        .error (.assertion .sendDataClosed) := by
  have hexec : (runSession tinyOpts 100 100 shellAfterClose).any (fun c =>
      decide (c.sent.getLast? = some (.CHANNEL_CLOSE 0) ∧
        c.trace.started.map Started.pid = [42, 43] ∧
        c.trace.started.map Started.afterClose = [false, true]) &&
      match channelStep tinyOpts c (readable (some (.bytes (ascii "x"))) none false) with
      | .error a => decide (a = .assertion .sendDataClosed)
      | .ok _ => false) = true := by
    decide +kernel
  obtain ⟨c, hc, htest⟩ := (Option.any_eq_true _ _).mp hexec
  obtain ⟨hstate, habort⟩ := Bool.and_eq_true_iff.mp htest
  obtain ⟨hsent, hpids, hafter⟩ := of_decide_eq_true hstate
  refine ⟨c, channelRun_of_runSession hc, hsent, hpids, hafter, ?_⟩
  split at habort
  · rename_i a hstep
    rw [hstep, of_decide_eq_true habort]
  · cases habort

end SimpleSshd.Dropbear
