import SimpleSshd.Dropbear.Proofs.ServerProofs
import SimpleSshd.Dropbear.Proofs.AuthSafetyProofs
import Mathlib.Data.List.Nodup

/-!
# Proofs: whose exit status is recorded

An exit is recorded for the session that `childpids` names for its pid. An entry stays there until the
session is removed, and its pid is free once the process was waited for: if the kernel uses the pid
again for another session, the exit of that process is recorded for the first one. As long as no
process gets a pid that `childpids` or `lastexit` still holds, every exit is that of a process that was
started for the session.
-/

namespace SimpleSshd.Dropbear

open Slots

variable {cfg : Config} {opts : Opts} {env₀ : Env} {s s' : Server} {es : List ServerEvent} {i : Nat}
  {slot : Slot} {c c' : Channel} {kind : ActKind}

/-! ## What a channel records and reports -/

/-- The reports of exits that have been sent. -/
def Channel.exitReports (c : Channel) : List ChannelMsg := c.sent.filter ChannelMsg.isExit

theorem exitReports_append {ms : List ChannelMsg} (hsent : c'.sent = c.sent ++ ms) :
    c'.exitReports = c.exitReports ++ ms.filter ChannelMsg.isExit := by
  rw [Channel.exitReports, hsent, List.filter_append]
  rfl

/-- A message that is not about an exit. -/
theorem exitReports_other {m : ChannelMsg} (hsent : c'.sent = c.sent ++ [m])
    (hm : m.isExit = false) : c'.exitReports = c.exitReports := by
  rw [exitReports_append hsent, List.filter_cons_of_neg (Bool.eq_false_iff.mp hm), List.filter_nil,
    List.append_nil]

theorem exitReports_closed (c : Channel) : c.closed.exitReports = c.exitReports ++ c.exitMessages := by
  have hsent : c.closed.sent = c.sent ++ (c.exitMessages ++ [.CHANNEL_CLOSE c.remotechan]) :=
    List.append_assoc _ _ _
  rw [exitReports_append hsent, List.filter_append,
    List.filter_eq_self.mpr (isExit_exitMessages c)]
  exact congrArg _ (List.append_nil _)

theorem filter_readMessages (call : ReadCall) (remotechan : Nat) :
    (call.messages remotechan).filter ChannelMsg.isExit = [] := by
  unfold ReadCall.messages dataMessage
  split
  · rfl
  · cases call.isextended with
    | false => rfl
    | true => rfl

/-- **What is reported is what is recorded** at that time. -/
theorem ChannelAct.exitReports (h : ChannelAct opts kind c c') :
    c'.exitReports = c.exitReports ∨ c'.exitReports = c.exitReports ++ c.exitMessages := by
  cases h with
  | extended hopen hmuch =>
    exact .inl (exitReports_other (m := .CHANNEL_WINDOW_ADJUST _ _) rfl rfl)
  | writeErrorExtended hopen hmuch =>
    exact .inl (exitReports_other (m := .CHANNEL_WINDOW_ADJUST _ _) rfl rfl)
  | succeeded hclose => exact .inl (exitReports_other rfl rfl)
  | failed hclose => exact .inl (exitReports_other rfl rfl)
  | keptAlive hready => exact .inl (exitReports_other rfl rfl)
  | connected sock hpending =>
    exact .inl (exitReports_other (m := .CHANNEL_OPEN_CONFIRMATION _ _ _ _) rfl rfl)
  | connectFailed hpending =>
    exact .inl (exitReports_other (m := .CHANNEL_OPEN_FAILURE _ _) rfl rfl)
  | read isextended answer hclose hfd hmax =>
    left
    refine (exitReports_append (show (c.didRead _).sent = c.sent ++ ReadCall.messages _ _ from rfl)).trans ?_
    rw [filter_readMessages, List.append_nil]
  | sentEof heof hread => exact .inl (exitReports_other (m := .CHANNEL_EOF _) rfl rfl)
  | sentClose hclose hallowed hread hwrite => exact .inr (exitReports_closed c)
  | closedRemoved hidle hrecv hclose hallowed hdone => exact .inr (exitReports_closed c)
  | _ => exact .inl rfl

theorem mem_exitMessages {m : ChannelMsg} (h : m ∈ c.exitMessages) :
    ∃ info, c.exit = some info ∧ m ∈ info.status.messages c.remotechan := by
  unfold Channel.exitMessages at h
  split at h
  · cases hexit : c.exit with
    | none =>
      rw [hexit] at h
      cases h
    | some info =>
      rw [hexit] at h
      exact ⟨info, rfl, h⟩
  · cases h

/-- The message reports the exit. -/
def ExitInfo.ReportedBy (info : ExitInfo) (m : ChannelMsg) : Prop :=
  ∃ remotechan, m ∈ info.status.messages remotechan

/-- What is recorded stays, and only that is reported. -/
structure Reports (c c' : Channel) : Prop where
  exit : c'.exit = c.exit
  reports : ∀ m ∈ c'.exitReports, m ∈ c.exitReports ∨ ∃ info, c.exit = some info ∧ info.ReportedBy m

theorem ChannelAct.reports (h : ChannelAct opts kind c c') (hkind : kind ≠ .exit) : Reports c c' := by
  refine ⟨h.exit_eq hkind, fun m hm => ?_⟩
  rcases h.exitReports with hsame | hmore
  · rw [hsame] at hm
    exact .inl hm
  · rw [hmore] at hm
    rcases List.mem_append.mp hm with hold | hnew
    · exact .inl hold
    · obtain ⟨info, hinfo, hm⟩ := mem_exitMessages hnew
      exact .inr ⟨info, hinfo, _, hm⟩

theorem EventActs.reports {e : ChannelEvent} (h : EventActs opts e c c')
    (hexit : ∀ info, e ≠ .childExited info) : Reports c c' := by
  have hallow : ∀ kind, e.Allows kind → kind ≠ .exit := by
    intro kind hkind
    cases e with
    | request payload env =>
      rw [show kind = .request from hkind]
      decide
    | childExited info => exact absurd rfl (hexit info)
    | _ => exact hkind.2
  induction h with
  | refl => exact ⟨rfl, fun m hm => .inl hm⟩
  | tail _ hact ih =>
    obtain ⟨kind, hkind, hact⟩ := hact
    have hstep := hact.reports (hallow kind hkind)
    refine ⟨hstep.exit.trans ih.exit, fun m hm => ?_⟩
    rcases hstep.reports m hm with hold | ⟨info, hinfo, hby⟩
    · exact ih.reports m hold
    · exact .inr ⟨info, ih.exit.symm.trans hinfo, hby⟩

theorem recordExit_exit {info info' : ExitInfo} (h : (c.recordExit info).exit = some info') :
    info' = info := by
  obtain ⟨cs, hcs, hexit⟩ := Option.bind_eq_some_iff.mp h
  obtain ⟨old, -, rfl⟩ := Option.map_eq_some_iff.mp hcs
  exact (Option.some.inj hexit).symm

theorem Fresh.no_reports (h : Fresh opts c) : c.exitReports = [] := by
  cases h with
  | session => rfl
  | connecting => rfl
  | prohibited => rfl
  | outgoing => rfl

/-! ## Processes of the kernel -/

/-- What can become of a process: one that was waited for stays as it is. -/
structure Process.Later (p p' : Process) : Prop where
  pid : p'.pid = p.pid
  owner : p'.owner = p.owner
  reaped : p.state.isReaped = true → p' = p

theorem Process.later_exit (pid : Nat) (status : ExitStatus) (p : Process) :
    p.Later (p.exit pid status) := by
  unfold Process.exit
  split
  · rename_i h
    refine ⟨rfl, rfl, fun hreaped => ?_⟩
    rw [h.2] at hreaped
    cases hreaped
  · exact ⟨rfl, rfl, fun _ => rfl⟩

theorem Process.later_reap (info : ExitInfo) (p : Process) : p.Later (p.reap info) := by
  unfold Process.reap
  split
  · rename_i h
    refine ⟨rfl, rfl, fun hreaped => ?_⟩
    rw [h.2] at hreaped
    cases hreaped
  · exact ⟨rfl, rfl, fun _ => rfl⟩

/-- A process that was started for the channel with this serial number has exited so. -/
def Server.Ended (s : Server) (serial : Nat) (info : ExitInfo) : Prop :=
  ∃ p ∈ s.processes, p.owner = serial ∧ p.pid = info.exitpid ∧ p.state = .reaped info.status

theorem Server.Ended.later {f : Process → Process} {serial : Nat} {info : ExitInfo}
    (h : s.Ended serial info) (hf : ∀ p : Process, p.Later (f p)) :
    Server.Ended { s with processes := s.processes.map f } serial info := by
  obtain ⟨p, hp, howner, hpid, hstate⟩ := h
  have hsame : f p = p := (hf p).reaped (by rw [hstate]; rfl)
  exact ⟨p, List.mem_map.mpr ⟨p, hp, hsame⟩, howner, hpid, hstate⟩

/-! ## Attribution -/

/-- Neither `childpids` nor `lastexit` holds the pid. -/
def Server.PidUnknown (s : Server) (pid : Nat) : Prop :=
  (∀ entry ∈ s.childpids, ∀ child ∈ entry, child.pid ≠ pid) ∧
    ∀ info ∈ s.lastexit, info.exitpid ≠ pid

instance (s : Server) (pid : Nat) : Decidable (s.PidUnknown pid) :=
  inferInstanceAs (Decidable ((∀ entry ∈ _, ∀ child ∈ entry, _) ∧ ∀ info ∈ _, _))

structure Attributed (s : Server) : Prop where
  /-- A process that an entry of `childpids` can still mean was started for the session of the
  entry. -/
  entries : ∀ child, some child ∈ s.childpids → ∀ slot, lookup s.channels child.chansess = some slot →
    ∀ p ∈ s.processes, p.pid = child.pid → p.state.isReaped = false → p.owner = slot.serial
  unmatched : ∀ info, s.lastexit = some info → ∀ child, some child ∈ s.childpids →
    child.pid ≠ info.exitpid
  recorded : ∀ slot, s.Has slot → ∀ info, slot.channel.exit = some info → s.Ended slot.serial info
  reported : ∀ slot, s.Has slot → ∀ m ∈ slot.channel.exitReports,
    ∃ info, s.Ended slot.serial info ∧ info.ReportedBy m

theorem Attributed.start (authstate : AuthState) : Attributed (Server.start authstate) := by
  refine ⟨fun child hchild => ?_, nofun, fun slot hslot => ?_, fun slot hslot => ?_⟩
  · cases List.mem_singleton.mp hchild
  · exact absurd hslot (not_has_start _ slot)
  · exact absurd hslot (not_has_start _ slot)

/-- Something becomes of the processes. -/
theorem Attributed.kernel {f : Process → Process} (h : Attributed s)
    (hf : ∀ p : Process, p.Later (f p)) :
    Attributed { s with processes := s.processes.map f } := by
  refine ⟨fun child hchild slot hslot p' hp' hpid hlive => ?_, h.unmatched,
    fun slot hslot info hinfo => (h.recorded slot hslot info hinfo).later hf,
    fun slot hslot m hm => ?_⟩
  · obtain ⟨p, hp, rfl⟩ := List.mem_map.mp hp'
    have hbefore : p.state.isReaped = false := by
      by_contra hreaped
      rw [(hf p).reaped (Bool.eq_true_of_not_eq_false hreaped)] at hlive
      exact hreaped hlive
    rw [(hf p).owner]
    exact h.entries child hchild slot hslot p hp ((hf p).pid.symm.trans hpid) hbefore
  · obtain ⟨info, hended, hby⟩ := h.reported slot hslot m hm
    exact ⟨info, hended.later hf, hby⟩

/-- A channel in the table changes. -/
theorem Attributed.put (h : Attributed s) (hslot : lookup s.channels i = some slot)
    (hrecorded : ∀ info, c'.exit = some info → s.Ended slot.serial info)
    (hreported : ∀ m ∈ c'.exitReports, ∃ info, s.Ended slot.serial info ∧ info.ReportedBy m) :
    Attributed (s.put i slot c') := by
  refine ⟨fun child hchild slot' hslot' => ?_, h.unmatched, fun slot' hslot' => ?_,
    fun slot' hslot' => ?_⟩
  · rcases lookup_put hslot' with ⟨hij, rfl⟩ | ⟨-, hold⟩
    · exact h.entries child hchild slot (hij ▸ hslot)
    · exact h.entries child hchild slot' hold
  · rcases has_put hslot' with rfl | hold
    · exact hrecorded
    · exact h.recorded slot' hold
  · rcases has_put hslot' with rfl | hold
    · exact hreported
    · exact h.reported slot' hold

/-- An event of a channel that records no exit. -/
theorem Attributed.stepped {e : ChannelEvent} (h : Attributed s) (hinv : ServerInv opts s)
    (hslot : lookup s.channels i = some slot) (hstep : ChannelStep opts slot.channel e c')
    (hexit : ∀ info, e ≠ .childExited info) : Attributed (s.put i slot c') := by
  obtain ⟨es, hrun⟩ := (hinv.channels i slot hslot).1
  have hreports := EventActs.reports (hstep.handled hrun.orderly).1 hexit
  have hhas : s.Has slot := .inl ⟨i, hslot⟩
  refine h.put hslot (fun info hinfo => ?_) fun m hm => ?_
  · exact h.recorded slot hhas info (hreports.exit.symm.trans hinfo)
  · rcases hreports.reports m hm with hold | ⟨info, hinfo, hby⟩
    · exact h.reported slot hhas m hold
    · exact ⟨info, h.recorded slot hhas info hinfo, hby⟩

theorem Attributed.entered {channels : List (Option Slot)} (h : Attributed s)
    (hinv : ServerInv opts s) (hnew : s.newchannel = some (channels, i))
    (hcreated : Created opts c) : Attributed (s.entered channels i c) := by
  obtain ⟨hlt, hfree, hsame, -⟩ := newchannel_spec hnew
  refine ⟨fun child hchild slot hslot => ?_, h.unmatched, fun slot hslot => ?_, fun slot hslot => ?_⟩
  · have hij : i ≠ child.chansess := by
      rintro rfl
      obtain ⟨slot', hslot', -⟩ := hinv.children child hchild
      rw [hfree] at hslot'
      cases hslot'
    rw [Server.entered, lookup_place_ne hij, hsame] at hslot
    exact h.entries child hchild slot hslot
  · rcases has_entered hnew hslot with rfl | hold
    · intro info hinfo
      rw [hcreated.fresh.unstarted.2] at hinfo
      cases hinfo
    · exact h.recorded slot hold
  · rcases has_entered hnew hslot with rfl | hold
    · intro m hm
      rw [hcreated.fresh.no_reports] at hm
      cases hm
    · exact h.reported slot hold

theorem Attributed.removed (h : Attributed s) (hinv : ServerInv opts s)
    (hslot : lookup s.channels i = some slot) : Attributed (s.remove_channel i slot) := by
  have hchildren : ∀ child, some child ∈ (s.remove_channel i slot).childpids →
      some child ∈ s.childpids ∧ child.chansess ≠ i := fun _ => mem_childpids_remove hinv hslot
  have hhas : ∀ slot', (s.remove_channel i slot).Has slot' → s.Has slot' :=
    fun _ => has_remove hslot
  rw [remove_channel_eq] at hhas ⊢
  refine ⟨fun child hchild slot' hslot' => ?_, fun info hinfo child hchild => ?_,
    fun slot' hslot' => h.recorded slot' (hhas slot' hslot'),
    fun slot' hslot' => h.reported slot' (hhas slot' hslot')⟩
  · obtain ⟨hmem, hne⟩ := hchildren child hchild
    rw [lookup_clear_ne hne.symm] at hslot'
    exact h.entries child hmem slot' hslot'
  · exact h.unmatched info hinfo child (hchildren child hchild).1

/-- **A process is started** with a pid that nothing holds any more. -/
theorem Attributed.started {pid : Nat} {pid_pos : 0 < pid} (h : Attributed s)
    (hslot : lookup s.channels i = some slot) (hfree : s.PidFree pid) (hunknown : s.PidUnknown pid) :
    Attributed ((s.fork pid slot.serial).addchildpid i pid pid_pos) := by
  have hended : ∀ {serial info}, s.Ended serial info →
      ((s.fork pid slot.serial).addchildpid i pid pid_pos).Ended serial info := by
    rintro serial info ⟨p, hp, hrest⟩
    exact ⟨p, List.mem_append_left _ hp, hrest⟩
  refine ⟨fun child hchild slot' hslot' p hp hpid hlive => ?_, fun info hinfo child hchild => ?_,
    fun slot' hslot' info hinfo => hended (h.recorded slot' hslot' info hinfo),
    fun slot' hslot' m hm => ?_⟩
  · rcases List.mem_append.mp hp with hp | hp
    · rcases mem_addchildpid hchild with rfl | hold
      · -- the pid is free
        rw [hfree p hp hpid] at hlive
        cases hlive
      · exact h.entries child hold slot' hslot' p hp hpid hlive
    · obtain rfl := List.mem_singleton.mp hp
      rcases mem_addchildpid hchild with rfl | hold
      · rw [show lookup s.channels i = some slot' from hslot'] at hslot
        cases hslot
        rfl
      · -- no other entry has it
        exact absurd hpid.symm (hunknown.1 _ hold child rfl)
  · rcases mem_addchildpid hchild with rfl | hold
    · exact (hunknown.2 info hinfo).symm
    · exact h.unmatched info hinfo child hold
  · obtain ⟨info, hinfo, hby⟩ := h.reported slot' hslot' m hm
    exact ⟨info, hended hinfo, hby⟩

/-- **A child is waited for**: the exit is recorded for the session that started it. -/
theorem Attributed.reaped {info : ExitInfo} (h : Attributed s)
    (hzombie : ∃ p ∈ s.processes, p.pid = info.exitpid ∧ p.state = .zombie info.status)
    (hsession : s.sessionOf info.exitpid = some i) (hslot : lookup s.channels i = some slot) :
    Attributed { s.put i slot (slot.channel.recordExit info) with
      processes := s.processes.map (Process.reap info) } := by
  have hkernel := h.kernel (Process.later_reap info)
  have hhas : s.Has slot := .inl ⟨i, hslot⟩
  obtain ⟨p, hp, hpid, hstate⟩ := hzombie
  obtain ⟨child, hchild, hchildpid, rfl⟩ := sessionOf_eq_some hsession
  have howner : p.owner = slot.serial :=
    h.entries child hchild slot hslot p hp (hpid.trans hchildpid.symm) (by rw [hstate]; rfl)
  have hended : Server.Ended { s with processes := s.processes.map (Process.reap info) }
      slot.serial info := by
    refine ⟨p.reap info, List.mem_map.mpr ⟨p, hp, rfl⟩, ?_⟩
    rw [Process.reap, if_pos ⟨hpid, hstate⟩]
    exact ⟨howner, hpid, rfl⟩
  refine hkernel.put hslot (fun info' hinfo' => ?_) fun m hm => hkernel.reported slot hhas m hm
  rw [recordExit_exit hinfo']
  exact hended

/-- **Every act** keeps exits where they belong. -/
theorem ServerAct.attributed (h : ServerAct opts Server.PidUnknown s s') (hinv : ServerInv opts s)
    (ha : Attributed s) : Attributed s' := by
  cases h with
  | entered _ hnew hcreated => exact ha.entered hinv hnew hcreated
  | stepped hslot hstep hexit _ => exact ha.stepped hinv hslot hstep hexit
  | removed hslot => exact ha.removed hinv hslot
  | @started i slot _ _ c' _ spawn hslot hstep _ _ _ hfree hunknown =>
    have hput := ha.stepped hinv hslot hstep nofun
    have hhere : lookup (s.put i slot c').channels i = some { slot with channel := c' } :=
      lookup_place_self (lt_of_lookup hslot)
    have hstarted : Attributed (((s.put i slot c').fork spawn.pid
        ({ slot with channel := c' } : Slot).serial).addchildpid i spawn.pid spawn.pid_pos) :=
      hput.started hhere hfree hunknown
    exact hstarted
  | late hlast hsession _ _ =>
    -- there is no entry with the pid of `lastexit`
    obtain ⟨child, hchild, hpid, -⟩ := sessionOf_eq_some hsession
    exact absurd hpid (ha.unmatched _ hlast child hchild)
  | exited pid status => exact ha.kernel (Process.later_exit pid status)
  | reaped hzombie hsession hslot _ => exact ha.reaped hzombie hsession hslot
  | @unmatched info hsession =>
    have hkernel := ha.kernel (Process.later_reap info)
    refine ⟨hkernel.entries, fun info' hinfo' child hchild => ?_, hkernel.recorded, hkernel.reported⟩
    cases hinfo'
    exact sessionOf_eq_none hsession hchild

/-! ## Serial numbers -/

/-- A serial number is that of one channel. -/
structure Serials (s : Server) : Prop where
  table : ∀ i j a b, lookup s.channels i = some a → lookup s.channels j = some b →
    a.serial = b.serial → i = j
  apart : ∀ i a, lookup s.channels i = some a → ∀ b ∈ s.gone, a.serial ≠ b.serial
  gone : (s.gone.map Slot.serial).Nodup
  below : ∀ b ∈ s.gone, b.serial < s.opened

/-- Processes and pids do not matter. -/
theorem Serials.kernel (h : Serials s) (processes : List Process) (childpids : List (Option ChildPid))
    (lastexit : Option ExitInfo) :
    Serials { s with processes := processes, childpids := childpids, lastexit := lastexit } :=
  ⟨h.table, h.apart, h.gone, h.below⟩

theorem Serials.put (h : Serials s) (hslot : lookup s.channels i = some slot) (c' : Channel) :
    Serials (s.put i slot c') := by
  -- the table has the same serial numbers as before
  have hbefore : ∀ j a, lookup (s.put i slot c').channels j = some a →
      ∃ a', lookup s.channels j = some a' ∧ a'.serial = a.serial := by
    intro j a ha
    rcases lookup_put ha with ⟨rfl, rfl⟩ | ⟨-, hold⟩
    · exact ⟨slot, hslot, rfl⟩
    · exact ⟨a, hold, rfl⟩
  refine ⟨fun j k a b ha hb hab => ?_, fun j a ha b hb => ?_, h.gone, h.below⟩
  · obtain ⟨a', ha', hsa⟩ := hbefore j a ha
    obtain ⟨b', hb', hsb⟩ := hbefore k b hb
    exact h.table j k a' b' ha' hb' (by rw [hsa, hab, hsb])
  · obtain ⟨a', ha', hsa⟩ := hbefore j a ha
    rw [← hsa]
    exact h.apart j a' ha' b hb

theorem Serials.entered {channels : List (Option Slot)} (h : Serials s) (hinv : ServerInv opts s)
    (hnew : s.newchannel = some (channels, i)) : Serials (s.entered channels i c) := by
  -- the new channel has a number that is not yet in use
  have hbefore : ∀ j a, lookup (s.entered channels i c).channels j = some a →
      i = j ∧ a.serial = s.opened ∨ lookup s.channels j = some a ∧ a.serial < s.opened := by
    intro j a ha
    rcases lookup_entered hnew ha with ⟨hij, rfl⟩ | ⟨-, hold⟩
    · exact .inl ⟨hij, rfl⟩
    · exact .inr ⟨hold, (hinv.channels j a hold).2⟩
  refine ⟨fun j k a b ha hb hab => ?_, fun j a ha b hb hab => ?_, h.gone, fun b hb => ?_⟩
  · rcases hbefore j a ha with ⟨rfl, hsa⟩ | ⟨ha, hsa⟩
    · rcases hbefore k b hb with ⟨rfl, -⟩ | ⟨-, hsb⟩
      · rfl
      · omega
    · rcases hbefore k b hb with ⟨rfl, hsb⟩ | ⟨hb, -⟩
      · omega
      · exact h.table j k a b ha hb hab
  · have hsb := h.below b hb
    rcases hbefore j a ha with ⟨-, hsa⟩ | ⟨ha, -⟩
    · omega
    · exact h.apart j a ha b hb hab
  · exact Nat.lt_succ_of_lt (h.below b hb)

theorem Serials.removed (h : Serials s) (hinv : ServerInv opts s)
    (hslot : lookup s.channels i = some slot) : Serials (s.remove_channel i slot) := by
  rw [remove_channel_eq]
  have hbefore : ∀ j a, lookup (clear s.channels i) j = some a →
      i ≠ j ∧ lookup s.channels j = some a := fun _ _ => lookup_clear_eq_some
  refine ⟨fun j k a b ha hb => h.table j k a b (hbefore j a ha).2 (hbefore k b hb).2,
    fun j a ha b hb => ?_, ?_, fun b hb => ?_⟩
  · obtain ⟨hij, ha'⟩ := hbefore j a ha
    rcases List.mem_append.mp hb with hold | hlast
    · exact h.apart j a ha' b hold
    · obtain rfl := List.mem_singleton.mp hlast
      exact fun hab => hij (h.table j i a b ha' hslot hab).symm
  · rw [List.map_append]
    refine List.Nodup.append h.gone (List.nodup_singleton _) ?_
    intro serial hold hlast
    obtain ⟨a, ha, rfl⟩ := List.mem_map.mp hold
    exact h.apart i slot hslot a ha (List.mem_singleton.mp hlast).symm
  · rcases List.mem_append.mp hb with hold | hlast
    · exact h.below b hold
    · obtain rfl := List.mem_singleton.mp hlast
      exact (hinv.channels i b hslot).2

theorem ServerAct.serials {fresh : Server → Nat → Prop} (h : ServerAct opts fresh s s')
    (hinv : ServerInv opts s) (hs : Serials s) : Serials s' := by
  cases h with
  | entered _ hnew _ => exact hs.entered hinv hnew
  | stepped hslot _ _ _ => exact hs.put hslot _
  | removed hslot => exact hs.removed hinv hslot
  | started hslot => exact (hs.put hslot _).kernel _ _ _
  | late _ _ hslot _ => exact (hs.put hslot _).kernel _ _ _
  | exited => exact hs.kernel _ _ _
  | reaped _ _ hslot _ => exact (hs.put hslot _).kernel _ _ _
  | unmatched => exact hs.kernel _ _ _

theorem Serials.unique {slot' : Slot} (h : Serials s) (hslot : s.Has slot) (hslot' : s.Has slot')
    (hserial : slot'.serial = slot.serial) : slot' = slot := by
  rcases hslot with ⟨i, hi⟩ | hgone
  · rcases hslot' with ⟨j, hj⟩ | hgone'
    · obtain rfl := h.table j i slot' slot hj hi hserial
      exact Option.some.inj (hj.symm.trans hi)
    · exact absurd hserial.symm (h.apart i slot hi slot' hgone')
  · rcases hslot' with ⟨j, hj⟩ | hgone'
    · exact absurd hserial (h.apart j slot' hj slot hgone)
    · exact List.inj_on_of_nodup_map h.gone hgone' hgone hserial

/-! ## Every run -/

/-- Exits and serial numbers are as they should be. -/
structure Attribution (s : Server) : Prop where
  attributed : Attributed s
  serials : Serials s

theorem Attribution.start (authstate : AuthState) : Attribution (Server.start authstate) := by
  refine ⟨.start authstate, fun i j a b ha => ?_, fun i a ha => ?_, List.nodup_nil,
    fun b hb => absurd hb List.not_mem_nil⟩
  · rw [lookup_start] at ha
    cases ha
  · rw [lookup_start] at ha
    cases ha

theorem Attribution.auth {rest : Session} {r : Request} (h : Attribution s)
    (hauth : Authenticates cfg rest r s s') : Attribution s' := by
  obtain ⟨session, -, rfl⟩ := hauth
  obtain ⟨ha, hs⟩ := h
  exact ⟨⟨ha.entries, ha.unmatched, ha.recorded, ha.reported⟩,
    ⟨hs.table, hs.apart, hs.gone, hs.below⟩⟩

/-- **The exit of a session is that of its own process**, recorded or reported, if no process gets a
pid that `childpids` or `lastexit` still holds. The serial number of a channel is its own. -/
theorem exit_attribution (h : FreshRun cfg opts Server.PidUnknown
      (Server.start (svr_authinitialise env₀)) es s) (hslot : s.Has slot) :
    (∀ info, slot.channel.exit = some info → s.Ended slot.serial info) ∧
      (∀ m ∈ slot.channel.sent, m.isExit = true →
        ∃ info, s.Ended slot.serial info ∧ info.ReportedBy m) ∧
      ∀ slot', s.Has slot' → slot'.serial = slot.serial → slot' = slot := by
  have hauth : ∀ ⦃rest r s s'⦄, ServerInv opts s → Attribution s → Authenticates cfg rest r s s' →
      Attribution s' := fun _ _ _ _ _ ha hauth => ha.auth hauth
  have hact : ∀ ⦃s s'⦄, ServerInv opts s → Attribution s → ServerAct opts Server.PidUnknown s s' →
      Attribution s' := fun _ _ hinv ha hact =>
    ⟨hact.attributed hinv ha.attributed, hact.serials hinv ha.serials⟩
  have hall := (FreshRun.invariant hauth hact h ⟨Settled.start _, .start _⟩).2
  refine ⟨hall.attributed.recorded slot hslot, fun m hm hexit => ?_,
    fun slot' hslot' hserial => hall.serials.unique hslot hslot' hserial⟩
  exact hall.attributed.reported slot hslot m (List.mem_filter.mpr ⟨hm, hexit⟩)

instance (ok : Nat → Prop) [DecidablePred ok] : (e : ServerEvent) → Decidable (e.SpawnsOnly ok)
  | .channel _ (.request _ env) => inferInstanceAs (Decidable (∀ spawn ∈ env.spawn, ok spawn.pid))
  | .channel _ (.data _ _) | .channel _ (.eof _) | .channel _ (.close _)
  | .channel _ (.windowAdjust _) | .channel _ (.openConfirmation _) | .channel _ .openFailure
  | .channel _ (.connectDone _) | .channel _ (.childExited _) | .channel _ (.io _)
  | .channel _ .keepalive | .userauth _ _ | .channelOpen _ _ _ _ _ | .forwarded _ | .exits _ _
  | .reap _ => inferInstanceAs (Decidable True)

/-- A client that has logged in opens a session. -/
def loginAndOpen : List ServerEvent :=
  [.userauth passwordSession (passwordRequest (ascii "user") (by decide)),
    .channelOpen .svrchansess 0 0 100 false]

/-- The end of a process: it exits, and is waited for. -/
def endOf (pid status : Nat) : List ServerEvent :=
  [.exits pid (.exitstatus status), .reap ⟨pid, .exitstatus status⟩]

/-- Two sessions with a command each. -/
def twoSessions : List ServerEvent :=
  loginAndOpen ++ [.channelOpen .svrchansess 1 0 100 false,
    .channel 0 (.request (requestOf "exec" (stringOf (ascii "cat"))) plainEnv),
    .channel 1 (.request (requestOf "exec" (stringOf (ascii "ls")))
      { plainEnv with spawn := some spawnedNext })] ++ endOf 43 7

theorem exit_attribution_twoSessions : ∃ s slot,
    FreshRun (plainConfig noCrypto noKexCrypto) tinyOpts Server.PidUnknown
        (Server.start (svr_authinitialise noKeysEnv)) twoSessions s ∧
      lookup s.channels 1 = some slot ∧ slot.channel.exit = some ⟨43, .exitstatus 7⟩ ∧
      s.Ended slot.serial ⟨43, .exitstatus 7⟩ := by
  have hexec : (Runs.exec (fun s e => if e.SpawnsOnly s.PidUnknown then
      stepServer (plainConfig noCrypto noKexCrypto) tinyOpts s e else none)
      (Server.start (svr_authinitialise noKeysEnv)) twoSessions).any (fun s =>
        (lookup s.channels 1).any fun slot => slot.channel.exit = some ⟨43, .exitstatus 7⟩) =
          true := by
    decide +kernel
  obtain ⟨s, hs, hany⟩ := (Option.any_eq_true _ _).mp hexec
  obtain ⟨slot, hslot, hexit⟩ := (Option.any_eq_true _ _).mp hany
  have hrun : FreshRun (plainConfig noCrypto noKexCrypto) tinyOpts Server.PidUnknown
      (Server.start (svr_authinitialise noKeysEnv)) twoSessions s :=
    (Runs.run_guarded_of_exec hs).mono fun _ _ _ hstep => ⟨hstep.1, stepServer_eq_some hstep.2⟩
  have hexit := of_decide_eq_true hexit
  exact ⟨s, slot, hrun, hslot, hexit, (exit_attribution hrun (.inl ⟨1, hslot⟩)).1 _ hexit⟩

/-- A process with the pid of one that was waited for. -/
def spawnedAgain : Spawned :=
  { spawnedNext with pid := spawned.pid, pid_pos := spawned.pid_pos }

/-- After a signal there is nothing left to read. -/
def drained : ChannelEvent :=
  .io {
    read := none
    err := none
    write := none
    signal := true
    flush := { read := .bytes [], err := .bytes [] } }

/-- The first session has exited but cannot be closed, because its output does not fit in the window of
the client. A second one gets the same pid. -/
def pidReused : List ServerEvent :=
  loginAndOpen ++ [.channel 0 (.request (requestOf "exec" (stringOf (ascii "cat"))) plainEnv)] ++
    endOf 42 0 ++ [.channel 0 (readable none none true), .channelOpen .svrchansess 1 0 100 false,
      .channel 1 (.request (requestOf "exec" (stringOf (ascii "ls")))
        { plainEnv with spawn := some spawnedAgain })] ++ endOf 42 7 ++
    [.channel 0 (.windowAdjust (messageOf (Framing.be32 100))),
      .channel 0 drained]

/-- **The exit of the second process is recorded for the first session** and reported there, and none
for its own. -/
theorem exit_of_another_session : ∃ s first second,
    ServerRun (plainConfig noCrypto noKexCrypto) tinyOpts noKeysEnv pidReused s ∧
      lookup s.channels 0 = some first ∧ lookup s.channels 1 = some second ∧
      first.channel.exit = some ⟨42, .exitstatus 7⟩ ∧ .exitstatus 0 7 ∈ first.channel.sent ∧
      second.channel.exit = none ∧
      s.processes = [⟨42, first.serial, .reaped (.exitstatus 0)⟩,
        ⟨42, second.serial, .reaped (.exitstatus 7)⟩] ∧ first.serial ≠ second.serial := by
  have hexec : (runServer (plainConfig noCrypto noKexCrypto) tinyOpts noKeysEnv pidReused).any
      (fun s => (lookup s.channels 0).any fun first => (lookup s.channels 1).any fun second =>
        decide (first.channel.exit = some ⟨42, .exitstatus 7⟩ ∧
          .exitstatus 0 7 ∈ first.channel.sent ∧ second.channel.exit = none ∧
          s.processes = [⟨42, first.serial, .reaped (.exitstatus 0)⟩,
            ⟨42, second.serial, .reaped (.exitstatus 7)⟩] ∧ first.serial ≠ second.serial)) = true := by
    decide +kernel
  obtain ⟨s, hs, hany⟩ := (Option.any_eq_true _ _).mp hexec
  obtain ⟨first, hfirst, hany⟩ := (Option.any_eq_true _ _).mp hany
  obtain ⟨second, hsecond, htest⟩ := (Option.any_eq_true _ _).mp hany
  exact ⟨s, first, second, serverRun_of_runServer hs, hfirst, hsecond, of_decide_eq_true htest⟩

end SimpleSshd.Dropbear
