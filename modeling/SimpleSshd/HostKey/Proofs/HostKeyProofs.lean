import Mathlib.Data.List.Basic
import SimpleSshd.HostKey.HostKey

/-!
# Proofs: all sessions show the same host key, unless `rename` replaces the file

The key file changes only when it is published. `link` publishes only a missing file, so on a file
system with hard links the first key stays. `rename` publishes over whatever is there, and a session
that has read the earlier key goes on showing it.
-/

namespace SimpleSshd.HostKey

variable {Key : Type} {fs : FileSystem} {parse : Bytes → Parsed Key} {s t : State Key} {e : Event}

/-- What an event can do to the key file and to the keys in memory. -/
inductive Effect (fs : FileSystem) (parse : Bytes → Parsed Key) (s : State Key) :
    Event → State Key → Prop
  | connect : Effect fs parse s .connect { s with procs := s.procs ++ [{}] }
  /-- The process has its key already. -/
  | stay {e : Event} : Effect fs parse s e s
  | move {e : Event} {i : Nat} {p : Process Key} {pc : Pc} {temp : Option Bytes}
      (h : s.procs[i]? = some p) (hpc : pc = .rename → fs = .no_hard_links) :
      Effect fs parse s e (s.set i { p with pc := pc, temp := temp })
  | load {i : Nat} {ok : Bool} {p : Process Key} {key : Key} (h : s.procs[i]? = some p)
      (hread : readhostkey parse ok s.keyfile = .success key) :
      Effect fs parse s (.read i ok) (s.set i { p with pc := .idle, hostkey := some key })
  | publish {i : Nat} {p : Process Key} (h : s.procs[i]? = some p) (habsent : s.keyfile = none) :
      Effect fs parse s (.link i) ({ s with keyfile := p.temp }.set i { p with pc := .unlink true })
  | replace {i : Nat} {p : Process Key} (h : s.procs[i]? = some p) (hpc : p.pc = .rename) :
      Effect fs parse s (.rename i true)
        ({ s with keyfile := p.temp }.set i { p with pc := .unlink true, temp := none })

theorem effect_read {i : Nat} {ok : Bool} {p : Process Key} {next : Pc}
    (h : s.procs[i]? = some p) (hnext : next ≠ .rename) :
    Effect fs parse s (.read i ok)
      (s.set i (afterRead p next (readhostkey parse ok s.keyfile))) := by
  cases hread : readhostkey parse ok s.keyfile with
  | exit => exact .move h nofun
  | failure => exact .move h fun hr => absurd hr hnext
  | success key => exact .load h hread

/-- **Inversion of `act`.** -/
theorem act_effect {i : Nat} {p : Process Key} (h : s.procs[i]? = some p)
    (he : e.process = some i) (hs : act fs parse s i p e = some t) : Effect fs parse s e t := by
  cases e with
  | connect => cases he
  | call j =>
    simp only [act, Option.ite_none_right_eq_some, Option.some.injEq] at hs
    obtain ⟨-, rfl⟩ := hs
    split_ifs
    · exact .stay
    · exact .move h nofun
  | read j ok =>
    obtain rfl : j = i := Option.some.inj he
    simp only [act] at hs
    split at hs
    case h_1 =>
      cases hs
      exact effect_read h nofun
    case h_2 =>
      cases hs
      exact effect_read h nofun
    case h_3 => cases hs
  | write j buf written =>
    simp only [act, Option.ite_none_right_eq_some] at hs
    obtain ⟨-, hs⟩ := hs
    cases written with
    | none =>
      cases hs
      exact .move h nofun
    | some n =>
      cases hs
      exact .move h (by split_ifs <;> nofun)
  | link j =>
    obtain rfl : j = i := Option.some.inj he
    simp only [act, Option.ite_none_right_eq_some] at hs
    obtain ⟨-, hs⟩ := hs
    split at hs
    case h_1 hk =>
      cases hs
      exact .publish h hk
    case h_2 =>
      cases hs
      exact .move h nofun
    case h_3 =>
      cases hs
      exact .move h fun _ => rfl
  | rename j ok =>
    obtain rfl : j = i := Option.some.inj he
    simp only [act, Option.ite_none_right_eq_some] at hs
    obtain ⟨hpc, hs⟩ := hs
    cases ok with
    | true =>
      cases hs
      exact .replace h hpc
    | false =>
      cases hs
      exact .move h nofun
  | unlink j =>
    simp only [act] at hs
    split at hs
    case h_1 =>
      cases hs
      exact .move h (by split_ifs <;> nofun)
    case h_2 => cases hs

theorem step_effect (h : step fs parse s e = some t) : Effect fs parse s e t := by
  simp only [step] at h
  split at h
  case h_1 he =>
    cases e <;> first | (cases he; done) | (cases h; exact .connect)
  case h_2 i he =>
    obtain ⟨p, hp, hs⟩ := Option.bind_eq_some_iff.mp h
    exact act_effect hp he hs

/-! ## Agreement -/

/-- Keys in memory are the key of the file, and nobody renames where links work. -/
structure Agreed (fs : FileSystem) (parse : Bytes → Parsed Key) (s : State Key) : Prop where
  loaded : ∀ p ∈ s.procs, ∀ k, p.hostkey = some k →
    readhostkey parse true s.keyfile = .success k
  no_rename : fs = .hard_links → ∀ p ∈ s.procs, p.pc ≠ .rename

theorem Agreed.init : Agreed fs parse ({} : State Key) :=
  ⟨nofun, fun _ => nofun⟩

/-- A process goes from `p` to `p'` and the keys in memory still match the file. -/
theorem Agreed.set (hi : Agreed fs parse s) {i : Nat} {p p' : Process Key}
    (hprocs : t.procs = s.procs.set i p') (hkeep : ∀ q ∈ s.procs, ∀ k, q.hostkey = some k →
      readhostkey parse true t.keyfile = .success k)
    (hp : s.procs[i]? = some p)
    (hkey : p'.hostkey = p.hostkey ∨
      ∃ k, p'.hostkey = some k ∧ readhostkey parse true t.keyfile = .success k)
    (hpc : p'.pc = .rename → fs = .no_hard_links) : Agreed fs parse t := by
  refine ⟨fun q hq k hk => ?_, fun hfs q hq => ?_⟩
  · rw [hprocs] at hq
    rcases List.mem_or_eq_of_mem_set hq with hq | rfl
    · exact hkeep q hq k hk
    · rcases hkey with hsame | ⟨k', hk', hread⟩
      · exact hkeep p (List.mem_of_getElem? hp) k (hsame ▸ hk)
      · rw [hk', Option.some.injEq] at hk
        exact hk ▸ hread
  · rw [hprocs] at hq
    rcases List.mem_or_eq_of_mem_set hq with hq | rfl
    · exact hi.no_rename hfs q hq
    · intro hr
      rw [hpc hr] at hfs
      cases hfs

/-- While the file is missing no key is in memory. -/
theorem Agreed.absent (hi : Agreed fs parse s) (h : s.keyfile = none) :
    ∀ q ∈ s.procs, ∀ k, q.hostkey ≠ some k := by
  intro q hq k hk
  have hread := hi.loaded q hq k hk
  rw [h] at hread
  cases hread

/-- A replacing `rename` meets the condition only where there is nothing to replace. -/
theorem Agreed.replace_absent (hi : Agreed fs parse s) {i : Nat} {p : Process Key} {ok : Bool}
    (hok : RenameFresh fs s (.rename i ok)) (hp : s.procs[i]? = some p) (hpc : p.pc = .rename) :
    s.keyfile = none := by
  rcases hok with hfs | habsent
  · exact absurd hpc (hi.no_rename hfs p (List.mem_of_getElem? hp))
  · exact habsent

theorem Agreed.step (hi : Agreed fs parse s) (hok : RenameFresh fs s e)
    (h : Effect fs parse s e t) : Agreed fs parse t := by
  cases h with
  | connect =>
    refine ⟨fun p hp => ?_, fun hfs p hp => ?_⟩
    · rcases List.mem_append.mp hp with hp | hp
      · exact hi.loaded p hp
      · rw [List.mem_singleton.mp hp]
        exact nofun
    · rcases List.mem_append.mp hp with hp | hp
      · exact hi.no_rename hfs p hp
      · rw [List.mem_singleton.mp hp]
        exact nofun
  | stay => exact hi
  | move h hpc => exact hi.set rfl hi.loaded h (Or.inl rfl) hpc
  | @load i ok p key h hread =>
    refine hi.set rfl hi.loaded h (Or.inr ⟨key, rfl, ?_⟩) nofun
    cases ok with
    | true => exact hread
    | false => cases hread
  | publish h habsent =>
    exact hi.set rfl (fun q hq k hk => absurd hk (hi.absent habsent q hq k)) h (Or.inl rfl) nofun
  | replace h hpc =>
    have habsent := hi.replace_absent hok h hpc
    exact hi.set rfl (fun q hq k hk => absurd hk (hi.absent habsent q hq k)) h (Or.inl rfl) nofun

/-- A key file that is there stays as it is. -/
theorem Agreed.keyfile_step (hi : Agreed fs parse s) (hok : RenameFresh fs s e)
    (h : Effect fs parse s e t) (hk : s.keyfile ≠ none) : t.keyfile = s.keyfile := by
  cases h with
  | connect => rfl
  | stay => rfl
  | move h hpc => rfl
  | load h hread => rfl
  | publish h habsent => exact absurd habsent hk
  | replace h hpc => exact absurd (hi.replace_absent hok h hpc) hk

/-- The runs of any number of session processes in which no `rename` replaces a key file. -/
abbrev FreshRun (fs : FileSystem) (parse : Bytes → Parsed Key) :
    State Key → List Event → State Key → Prop :=
  Runs.Run (Runs.guarded (Runs.ofFun (HostKey.step fs parse)) (RenameFresh fs))

theorem FreshRun.agreed {es : List Event} (h : FreshRun fs parse s es t)
    (hi : Agreed fs parse s) : Agreed fs parse t :=
  h.invariant (fun _ _ _ hi hs => hi.step hs.1 (step_effect hs.2)) hi

theorem FreshRun.keyfile_eq {es : List Event} (h : FreshRun fs parse s es t)
    (hi : Agreed fs parse s) (hk : s.keyfile ≠ none) : t.keyfile = s.keyfile := by
  induction h with
  | nil s => rfl
  | @cons s u t e es hs _ ih =>
    have hu : u.keyfile = s.keyfile := hi.keyfile_step hs.1 (step_effect hs.2) hk
    rw [ih (hi.step hs.1 (step_effect hs.2)) (hu ▸ hk), hu]

/-- **Host key agreement.** On a file system with hard links, and on one without as long as no
`rename` replaces a key file: a process that has its host key has the one that is in the file, then
and ever after; the file does not change once some process has read it; and any two processes have
the same key. -/
theorem hostkey_agreement {es fs' : List Event} {u : State Key}
    (h : FreshRun fs parse {} es s) (h' : FreshRun fs parse s fs' u)
    {p : Process Key} (hp : p ∈ s.procs) {k : Key} (hk : p.hostkey = some k) :
    u.keyfile = s.keyfile ∧ readhostkey parse true u.keyfile = .success k ∧
      ∀ q ∈ u.procs, ∀ k', q.hostkey = some k' → k' = k := by
  have hi : Agreed fs parse s := h.agreed Agreed.init
  have hread : readhostkey parse true s.keyfile = .success k := hi.loaded p hp k hk
  have hpresent : s.keyfile ≠ none := by
    intro hnone
    rw [hnone] at hread
    cases hread
  have hsame : u.keyfile = s.keyfile := h'.keyfile_eq hi hpresent
  refine ⟨hsame, hsame ▸ hread, fun q hq k' hk' => ?_⟩
  have hread' := (h'.agreed hi).loaded q hq k' hk'
  rw [hsame, hread] at hread'
  cases hread'
  rfl

/-! ## Two sessions and two keys -/

/-- The `len` low bytes of a number, most significant first. -/
def beBytes (len n : Nat) : Bytes :=
  (List.range len).reverse.map fun i => UInt8.ofNat (n >>> (8 * i))

/-- The private scalars of two `ecdsa-sha2-nistp256` keys. -/
def scalarA : Nat := 0xd23f0824128b2f330c5c7fd0a6a3a4506513270e269e0d37f2a74de452e6b439
def scalarB : Nat := 0x36f675cc81e74ef5e8e25d940ed904759531985d5d9dc9f81818e811892f902c

/-- A key as `buf_put_priv_key` writes it: key type, curve, point and scalar. -/
def ecdsaKey (x y : Nat) (scalar : Bytes) : Bytes :=
  beBytes 23 0x0000001365636473612d736861322d6e69737470323536 ++ beBytes 12 0x000000086e69737470323536 ++
    beBytes 5 0x0000004104 ++ beBytes 32 x ++ beBytes 32 y ++ beBytes 4 scalar.length ++ scalar

def keyA : Bytes :=
  ecdsaKey 0x14b8a2c95626f164e38703bd976b200e0650503e4b701ecbf29f96abf786d31f
    0x9b978f67b1ea482736e63b98c445745a521135bf468d6d0c168ef66a4163f46f (beBytes 33 scalarA)

def keyB : Bytes :=
  ecdsaKey 0x8dd0cb91f783328c76cbdbdc3106e4435e34cd7635a747f135f4457e8ecf1a6c
    0x9f417c23844785b2b1e70853e1adf3f4ae42c3e1dd2fdcbe0e23168cfc3578b0 (beBytes 32 scalarB)

/-- `buf_get_priv_key` on these two files. -/
def parseAB (content : Bytes) : Parsed Nat :=
  if content = keyA then .success scalarA
  else if content = keyB then .success scalarB
  else .failure

/-- Two first connections, one after the other in every step, the second publishing last. -/
def raceEvents : List Event :=
  [.connect, .connect, .call 0, .call 1, .read 0 false, .read 1 false, .write 0 keyA (some 141),
    .link 0, .rename 0 true, .unlink 0, .read 0 true, .write 1 keyB (some 140), .link 1,
    .rename 1 true, .unlink 1, .read 1 true]

/-- On a file system with hard links both sessions end with the key of the first. -/
theorem hostkey_agreement_links : ∃ s u : State Nat,
    FreshRun .hard_links parseAB {} [.connect, .connect, .call 0, .call 1, .read 0 false,
      .read 1 false, .write 0 keyA (some 141), .link 0, .unlink 0, .read 0 true] s ∧
    FreshRun .hard_links parseAB s [.write 1 keyB (some 140), .link 1, .unlink 1, .read 1 true] u ∧
    u.procs = [{ hostkey := some scalarA }, { hostkey := some scalarA }] ∧
    u.keyfile = some keyA ∧ readhostkey parseAB true u.keyfile = .success scalarA := by
  have h : FreshRun .hard_links parseAB {} [.connect, .connect, .call 0, .call 1, .read 0 false,
      .read 1 false, .write 0 keyA (some 141), .link 0, .unlink 0, .read 0 true]
      { keyfile := some keyA, procs := [{ hostkey := some scalarA }, { pc := .write }] } :=
    Runs.run_guarded_of_exec (by decide +kernel)
  have h' : FreshRun .hard_links parseAB
      { keyfile := some keyA, procs := [{ hostkey := some scalarA }, { pc := .write }] }
      [.write 1 keyB (some 140), .link 1, .unlink 1, .read 1 true]
      { keyfile := some keyA, procs := [{ hostkey := some scalarA }, { hostkey := some scalarA }] } :=
    Runs.run_guarded_of_exec (by decide +kernel)
  have hagree := hostkey_agreement h h' List.mem_cons_self rfl
  exact ⟨_, _, h, h', rfl, rfl, hagree.2.1⟩

/-- **Two clients can be shown different host keys.** Without hard links the second session's `rename`
replaces the key that the first one has read and goes on using. -/
theorem hostkey_disagreement : ∃ s : State Nat,
    Runs.Run (Runs.ofFun (step .no_hard_links parseAB)) {} raceEvents s ∧
      s.procs = [{ hostkey := some scalarA }, { hostkey := some scalarB }] ∧
      s.keyfile = some keyB ∧ readhostkey parseAB true s.keyfile = .success scalarB ∧
      scalarA ≠ scalarB := by
  have h : Runs.Run (Runs.ofFun (step .no_hard_links parseAB)) {} raceEvents
      { keyfile := some keyB,
        procs := [{ hostkey := some scalarA }, { hostkey := some scalarB }] } :=
    Runs.run_of_exec (by decide +kernel)
  exact ⟨_, h, rfl, rfl, by decide +kernel, by decide⟩

end SimpleSshd.HostKey
