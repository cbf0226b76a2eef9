import SimpleSshd.Dropbear.Proofs.KexProofs

/-!
# Proofs: which algorithm is agreed on

The server advertises its usable algorithms, and takes the first of the client's names that is one of
them. Two things are not as one would expect. The client's list is cut into at most
`MAX_PROPOSED_ALGO` names, the last of which is all the rest of it; and whether the client has guessed
right is decided by positions in the table, where entries that are not usable count too.
-/

namespace SimpleSshd.Dropbear

open Fallible

variable {δ : Type} {localalgos : List (AlgoType δ)} {name : Bytes} {names : List Bytes}

/-- The names that `buf_put_algolist` puts into its list. -/
def advertised (localalgos : List (AlgoType δ)) : List Bytes :=
  (localalgos.filter (·.usable)).map (·.name)

/-- The names in a list. -/
def namesOf (algolist : Bytes) : List Bytes := algolist.splitOn COMMA

theorem buf_put_algolist_ok {bytes : Bytes} (h : buf_put_algolist localalgos = .ok bytes) :
    bytes = putstring (List.intercalate [COMMA] (advertised localalgos)) := by
  simp only [buf_put_algolist, ite_exit_eq_ok] at h
  exact ((pure_eq_ok _ _).mp h.2).symm

/-- An empty list aside, the names can be read off the list again. -/
theorem namesOf_algolist (hcomma : ∀ name ∈ advertised localalgos, COMMA ∉ name)
    (hne : advertised localalgos ≠ []) :
    namesOf (List.intercalate [COMMA] (advertised localalgos)) = advertised localalgos :=
  List.splitOn_intercalate COMMA hcomma hne

theorem namesOf_ne_nil (algolist : Bytes) : namesOf algolist ≠ [] := List.splitOnP_ne_nil _ _

/-! ## The client's names -/

/-- The first `k` names, and the others as one. -/
def joinRest : Nat → List Bytes → List Bytes
  | _, [] => []
  | 0, name :: names => [List.intercalate [COMMA] (name :: names)]
  | k + 1, name :: names => name :: joinRest k names

theorem joinRest_zero (h : names ≠ []) : joinRest 0 names = [List.intercalate [COMMA] names] := by
  cases names with
  | nil => exact absurd rfl h
  | cons name names => rfl

/-- Two names or more are joined by a comma. -/
theorem comma_mem_intercalate (h : 1 < names.length) :
    COMMA ∈ List.intercalate [COMMA] names := by
  match names, h with
  | first :: second :: rest, _ =>
    exact List.mem_append_right first (List.mem_append_left _ (List.mem_singleton_self _))

theorem joinRest_of_length_le {k : Nat} (h : names.length ≤ k + 1) : joinRest k names = names := by
  induction k generalizing names with
  | zero =>
    match names, h with
    | [], _ => rfl
    | [name], _ => exact congrArg (· :: []) (List.append_nil name)
  | succ k ih =>
    cases names with
    | nil => rfl
    | cons name names =>
      rw [List.length_cons] at h
      rw [joinRest, ih (by omega)]

theorem joinRest_eq {k : Nat} (h : k < names.length) :
    joinRest k names = names.take k ++ [List.intercalate [COMMA] (names.drop k)] := by
  induction k generalizing names with
  | zero =>
    rw [joinRest_zero (List.ne_nil_of_length_pos h), List.take_zero, List.drop_zero, List.nil_append]
  | succ k ih =>
    cases names with
    | nil => exact absurd h (Nat.not_lt_zero _)
    | cons name names =>
      rw [List.length_cons] at h
      rw [joinRest, ih (by omega)]
      rfl

/-- The loop over a list, with `name` in front of it and `remotecount` names begun. -/
theorem remotenames_eq {remotecount : Nat} {cs : Bytes} (hcount : remotecount < MAX_PROPOSED_ALGO)
    (hnul : 0 ∉ cs) :
    remotenames remotecount name cs = some (joinRest (MAX_PROPOSED_ALGO - remotecount)
      ((namesOf cs).modifyHead (name ++ ·))) := by
  -- over the list; a comma begins the next name, and fills the array in the last round
  induction cs generalizing remotecount name with
  | nil =>
    obtain ⟨k, hk⟩ : ∃ k, MAX_PROPOSED_ALGO - remotecount = k + 1 :=
      Nat.exists_eq_succ_of_ne_zero (by omega)
    rw [hk, namesOf, List.splitOn, List.splitOnP_nil, List.modifyHead_cons, List.append_nil, joinRest,
      joinRest, remotenames]
  | cons c cs ih =>
    have hc : c ≠ 0 := fun hzero => hnul (hzero ▸ List.mem_cons_self)
    have hcs : 0 ∉ cs := fun hmem => hnul (List.mem_cons_of_mem _ hmem)
    have hsplit : namesOf (c :: cs) = if (c == COMMA) = true then [] :: namesOf cs
        else (namesOf cs).modifyHead (List.cons c) := by
      rw [namesOf, List.splitOn, List.splitOnP_cons_eq_if_modifyHead]
      rfl
    rw [remotenames, if_neg hc, hsplit]
    by_cases hcomma : c = COMMA
    · rw [if_pos hcomma, if_pos (beq_iff_eq.mpr hcomma)]
      rw [List.modifyHead_cons, List.append_nil]
      by_cases hfull : remotecount + 1 ≥ MAX_PROPOSED_ALGO
      · have hone : MAX_PROPOSED_ALGO - remotecount = 1 := by omega
        rw [if_pos hfull, hone, joinRest, joinRest_zero (namesOf_ne_nil cs), cstr_eq_self hcs,
          namesOf, List.intercalate_splitOn]
      · have hmore : MAX_PROPOSED_ALGO - remotecount = (MAX_PROPOSED_ALGO - (remotecount + 1)) + 1 := by
          omega
        have hid : (namesOf cs).modifyHead (([] : Bytes) ++ ·) = namesOf cs := by
          cases namesOf cs with
          | nil => rfl
          | cons first rest => rfl
        rw [if_neg hfull, ih (by omega) hcs, hmore, hid]
        rfl
    · rw [if_neg hcomma, if_neg (fun h => hcomma (beq_iff_eq.mp h)), ih hcount hcs,
        List.modifyHead_modifyHead]
      have hfun : (fun rest : Bytes => name ++ [c] ++ rest) = (name ++ ·) ∘ List.cons c := by
        funext rest
        exact List.append_assoc name [c] rest
      rw [hfun]

/-- **The names that are matched**: all of them, or the first ones and the rest as one. -/
theorem remotenames_list {algolist : Bytes} (hnul : 0 ∉ algolist) :
    remotenames 1 [] algolist = some (joinRest (MAX_PROPOSED_ALGO - 1) (namesOf algolist)) := by
  rw [remotenames_eq (by decide) hnul]
  cases namesOf algolist with
  | nil => rfl
  | cons first rest => rfl

/-- A name without a comma is not the rest of a longer list. -/
theorem mem_of_mem_joinRest {k : Nat} (hcomma : COMMA ∉ name) (h : name ∈ joinRest k names) :
    name ∈ names := by
  induction k generalizing names with
  | zero =>
    match names, h with
    | [only], h =>
      rw [List.mem_singleton.mp h]
      exact List.mem_singleton.mpr (List.append_nil only)
    | first :: second :: rest, h =>
      have hlong : 1 < (first :: second :: rest).length := Nat.succ_lt_succ (Nat.succ_pos _)
      rw [List.mem_singleton.mp h] at hcomma
      exact absurd (comma_mem_intercalate hlong) hcomma
  | succ k ih =>
    cases names with
    | nil => exact h
    | cons first rest =>
      rcases List.mem_cons.mp h with rfl | hrest
      · exact List.mem_cons_self
      · exact List.mem_cons_of_mem _ (ih hrest)

/-! ## The first match -/

theorem mem_advertised_cons {a : AlgoType δ} :
    name ∈ advertised (a :: localalgos) ↔
      (a.usable = true ∧ a.name = name) ∨ name ∈ advertised localalgos := by
  unfold advertised
  by_cases husable : a.usable = true
  · rw [List.filter_cons_of_pos husable, List.map_cons, List.mem_cons, eq_comm]
    simp only [husable, true_and]
  · rw [List.filter_cons_of_neg husable]
    simp [husable]

theorem findLocal_some {j j' : Nat} {a : AlgoType δ} (h : findLocal name j localalgos = some (j', a)) :
    a ∈ localalgos ∧ a.usable = true ∧ a.name = name ∧ j ≤ j' ∧
      (j' = j → localalgos.head? = some a) := by
  induction localalgos generalizing j with
  | nil => cases h
  | cons first rest ih =>
    unfold findLocal at h
    split_ifs at h with hmatch
    · cases h
      exact ⟨List.mem_cons_self, hmatch.1, hmatch.2, Nat.le_refl _, fun _ => rfl⟩
    · obtain ⟨hmem, husable, hname, hle, -⟩ := ih h
      exact ⟨List.mem_cons_of_mem _ hmem, husable, hname, by omega, fun heq => by omega⟩

theorem findLocal_none {j : Nat} : findLocal name j localalgos = none ↔
    name ∉ advertised localalgos := by
  induction localalgos generalizing j with
  | nil => simp [findLocal, advertised]
  | cons first rest ih =>
    rw [mem_advertised_cons, findLocal]
    split_ifs with hmatch
    · simp [hmatch]
    · rw [ih]
      simp [hmatch]

theorem firstMatch_some {i i' j : Nat} {a : AlgoType δ}
    (h : firstMatch localalgos i names = some (i', j, a)) :
    a ∈ localalgos ∧ a.usable = true ∧
      names.find? (fun name => name ∈ advertised localalgos) = some a.name ∧ i ≤ i' := by
  induction names generalizing i with
  | nil => cases h
  | cons first rest ih =>
    unfold firstMatch at h
    cases hfind : findLocal first 0 localalgos with
    | some found =>
      rw [hfind] at h
      cases h
      obtain ⟨hmem, husable, hname, -, -⟩ := findLocal_some hfind
      have hadv : first ∈ advertised localalgos := by
        by_contra hnot
        rw [findLocal_none.mpr hnot] at hfind
        cases hfind
      refine ⟨hmem, husable, ?_, Nat.le_refl _⟩
      rw [List.find?_cons_of_pos (by simpa using hadv), hname]
    | none =>
      rw [hfind] at h
      obtain ⟨hmem, husable, hfirst, hle⟩ := ih h
      have hnot : first ∉ advertised localalgos := findLocal_none.mp hfind
      refine ⟨hmem, husable, ?_, by omega⟩
      rw [List.find?_cons_of_neg (by simpa using hnot), hfirst]

theorem firstMatch_none {i : Nat} (h : firstMatch localalgos i names = none) :
    names.find? (fun name => name ∈ advertised localalgos) = none := by
  induction names generalizing i with
  | nil => rfl
  | cons first rest ih =>
    unfold firstMatch at h
    cases hfind : findLocal first 0 localalgos with
    | some found =>
      rw [hfind] at h
      cases h
    | none =>
      rw [hfind] at h
      have hnot : first ∉ advertised localalgos := findLocal_none.mp hfind
      rw [List.find?_cons_of_neg (by simpa using hnot), ih h]

/-! ## `buf_match_algo` -/

section

variable {b b' : Buffer} {algolist : Bytes}

/-- What the loop matches, for a list within the limits. -/
theorem buf_match_algo_none (kexguess2 : KexGuess2) (hget : buf_getstring b = .ok (algolist, b'))
    (hlen : algolist.length ≤ MAX_PROPOSED_ALGO * (MAX_NAME_LEN + 1)) (hnul : 0 ∉ algolist)
    (hnone : firstMatch localalgos 0 (joinRest (MAX_PROPOSED_ALGO - 1) (namesOf algolist)) = none) :
    buf_match_algo b localalgos kexguess2 = .ok (none, false,
      lookForGuess2 (joinRest (MAX_PROPOSED_ALGO - 1) (namesOf algolist)) kexguess2, b') := by
  unfold buf_match_algo
  simp only [hget, ok_bind, if_neg (Nat.not_lt.mpr hlen), remotenames_list hnul, hnone]
  rfl

theorem buf_match_algo_some {i j : Nat} {algo : AlgoType δ} (kexguess2 : KexGuess2)
    (hget : buf_getstring b = .ok (algolist, b'))
    (hlen : algolist.length ≤ MAX_PROPOSED_ALGO * (MAX_NAME_LEN + 1)) (hnul : 0 ∉ algolist)
    (hsome : firstMatch localalgos 0 (joinRest (MAX_PROPOSED_ALGO - 1) (namesOf algolist)) =
      some (i, j, algo)) :
    buf_match_algo b localalgos kexguess2 = .ok (some algo,
      decide (if lookForGuess2 (joinRest (MAX_PROPOSED_ALGO - 1) (namesOf algolist)) kexguess2 = .YES
        then i = 0 else i = 0 ∧ j = 0),
      lookForGuess2 (joinRest (MAX_PROPOSED_ALGO - 1) (namesOf algolist)) kexguess2, b') := by
  unfold buf_match_algo
  simp only [hget, ok_bind, if_neg (Nat.not_lt.mpr hlen), remotenames_list hnul, hsome]
  rfl

/-- When the last name is not cut off from the rest, it does not matter: the list is short, a name
before it is found, or it is none that is looked for. -/
theorem find_joinRest {k : Nat} {wanted : List Bytes}
    (hlimit : names.length ≤ k + 1 ∨ (∃ name ∈ names.take k, name ∈ wanted) ∨
      (∀ name ∈ wanted, COMMA ∉ name) ∧ ∀ name, names[k]? = some name → name ∉ wanted) :
    (joinRest k names).find? (fun name => name ∈ wanted) =
      (names.take (k + 1)).find? (fun name => name ∈ wanted) := by
  by_cases hshort : names.length ≤ k + 1
  · rw [joinRest_of_length_le hshort, List.take_of_length_le hshort]
  · rw [joinRest_eq (by omega), List.take_add_one, List.find?_append, List.find?_append]
    cases hfind : (names.take k).find? (fun name => name ∈ wanted) with
    | some name => rfl
    | none =>
      have hnone := List.find?_eq_none.mp hfind
      rcases hlimit with hle | ⟨name, hname, hwanted⟩ | ⟨hcomma, hlast⟩
      · exact absurd hle hshort
      · exact absurd (decide_eq_true hwanted) (hnone name hname)
      · have hlong : 1 < (names.drop k).length := by
          rw [List.length_drop]
          omega
        have hrest : List.intercalate [COMMA] (names.drop k) ∉ wanted := fun hmem =>
          hcomma _ hmem (comma_mem_intercalate hlong)
        obtain ⟨last, hget⟩ : ∃ last, names[k]? = some last :=
          ⟨names[k], List.getElem?_eq_getElem (by omega)⟩
        have hnot := hlast last hget
        rw [hget, Option.toList_some, List.find?_singleton, List.find?_singleton,
          if_neg (by simpa using hrest), if_neg (by simpa using hnot)]

end

/-- The server knows one algorithm. -/
def oneAlgo : List (AlgoType Unit) := [⟨ascii "a", true, ()⟩]

/-- Twenty-one names; the last but one is known to the server. -/
def longList : Bytes := (List.replicate 19 [110, COMMA]).flatten ++ ascii "a,x"

/-- RFC 4253, section 7: the client's first choice is the server's. -/
def GuessedRight (localalgos : List (AlgoType δ)) (algolist : Bytes) : Prop :=
  (namesOf algolist).head? = (advertised localalgos).head?

instance decidableGuessedRight (localalgos : List (AlgoType δ)) (algolist : Bytes) :
    Decidable (GuessedRight localalgos algolist) := inferInstanceAs (Decidable (_ = _))

/-- The first entry of the table is advertised, if any is. -/
def FirstUsable (localalgos : List (AlgoType δ)) : Prop :=
  advertised localalgos = [] ∨ ∃ a rest, localalgos = a :: rest ∧ a.usable = true

/-- The first match is at the beginning of both lists exactly if the first entry is usable and has the
first name. -/
theorem firstMatch_zero : (∃ a, firstMatch localalgos 0 (name :: names) = some (0, 0, a)) ↔
    ∃ a rest, localalgos = a :: rest ∧ a.usable = true ∧ a.name = name := by
  constructor
  · rintro ⟨a, h⟩
    unfold firstMatch at h
    cases hfind : findLocal name 0 localalgos with
    | some found =>
      obtain ⟨j, a'⟩ := found
      rw [hfind] at h
      cases h
      obtain ⟨-, husable, hname, -, hhead⟩ := findLocal_some hfind
      obtain ⟨rest, hrest⟩ := List.head?_eq_some_iff.mp (hhead rfl)
      exact ⟨a, rest, hrest, husable, hname⟩
    | none =>
      rw [hfind] at h
      obtain ⟨-, -, -, hle⟩ := firstMatch_some h
      exact absurd hle (by decide)
  · rintro ⟨a, rest, rfl, husable, hname⟩
    refine ⟨a, ?_⟩
    rw [firstMatch, findLocal, if_pos ⟨husable, hname⟩]

theorem FirstUsable.head_advertised (h : FirstUsable localalgos) :
    some name = (advertised localalgos).head? ↔
      ∃ a rest, localalgos = a :: rest ∧ a.usable = true ∧ a.name = name := by
  have hcons : ∀ {a : AlgoType δ} {rest}, a.usable = true →
      advertised (a :: rest) = a.name :: advertised rest := by
    intro a rest husable
    rw [advertised, List.filter_cons_of_pos husable]
    rfl
  rcases h with hnone | ⟨a, rest, rfl, husable⟩
  · rw [hnone]
    constructor
    · intro h
      cases h
    · rintro ⟨a, rest, rfl, husable, -⟩
      rw [hcons husable] at hnone
      cases hnone
  · rw [hcons husable, List.head?_cons, Option.some.injEq]
    constructor
    · rintro rfl
      exact ⟨a, rest, rfl, husable, rfl⟩
    · rintro ⟨a', rest', heq, -, hname⟩
      cases heq
      exact hname.symm

section

variable {b b' : Buffer} {algolist : Bytes}

theorem lookForGuess2_unmarked {kexguess2 : KexGuess2}
    (hmarker : kexguess2 = .LOOK → KEXGUESS2_ALGO_NAME ∉ namesOf algolist)
    (hno : kexguess2 ≠ .YES) :
    lookForGuess2 (joinRest (MAX_PROPOSED_ALGO - 1) (namesOf algolist)) kexguess2 = .NO := by
  have hcomma : COMMA ∉ KEXGUESS2_ALGO_NAME := by decide +kernel
  cases kexguess2 with
  | LOOK => exact if_neg fun hmem => hmarker rfl (mem_of_mem_joinRest hcomma hmem)
  | YES => exact absurd rfl hno
  | NO => rfl

/-- **The guess is good** exactly if the client's first choice is the server's, when no entry in front
of the server's was taken out. -/
theorem buf_match_algo_goodguess (kexguess2 : KexGuess2) (hget : buf_getstring b = .ok (algolist, b'))
    (hlen : algolist.length ≤ MAX_PROPOSED_ALGO * (MAX_NAME_LEN + 1)) (hnul : 0 ∉ algolist)
    (hmarker : kexguess2 = .LOOK → KEXGUESS2_ALGO_NAME ∉ namesOf algolist) (hno : kexguess2 ≠ .YES)
    (hfirst : FirstUsable localalgos) :
    ∃ algo goodguess, buf_match_algo b localalgos kexguess2 = .ok (algo, goodguess, .NO, b') ∧
      (goodguess = true ↔ GuessedRight localalgos algolist) := by
  have hlook := lookForGuess2_unmarked hmarker hno
  obtain ⟨name, names, hnames⟩ := List.exists_cons_of_ne_nil (namesOf_ne_nil algolist)
  have hjoin : joinRest (MAX_PROPOSED_ALGO - 1) (namesOf algolist) = name :: joinRest 18 names := by
    rw [hnames]
    rfl
  have hguess : (∃ a, firstMatch localalgos 0 (joinRest (MAX_PROPOSED_ALGO - 1) (namesOf algolist)) =
      some (0, 0, a)) ↔ GuessedRight localalgos algolist := by
    rw [hjoin, firstMatch_zero, GuessedRight, hnames, List.head?_cons]
    exact hfirst.head_advertised.symm
  rw [← hguess]
  cases hmatch : firstMatch localalgos 0 (joinRest (MAX_PROPOSED_ALGO - 1) (namesOf algolist)) with
  | none =>
    have hresult := buf_match_algo_none kexguess2 hget hlen hnul hmatch
    rw [hlook] at hresult
    refine ⟨_, _, hresult, ?_⟩
    constructor
    · intro hfalse
      cases hfalse
    · rintro ⟨a, hsome⟩
      cases hsome
  | some found =>
    obtain ⟨i, j, a⟩ := found
    have hresult := buf_match_algo_some kexguess2 hget hlen hnul hmatch
    rw [hlook] at hresult
    refine ⟨_, _, hresult, ?_⟩
    rw [decide_eq_true_eq, if_neg (by decide)]
    constructor
    · rintro ⟨rfl, rfl⟩
      exact ⟨a, rfl⟩
    · rintro ⟨a', hsome⟩
      cases hsome
      exact ⟨rfl, rfl⟩

end

/-! ## `KEXINIT` -/

section

variable {cfg : Config} {env : Env} {s s' : Session} {payload : Buffer} {kexlist hostkeylist : Bytes}

/-- The first two lists in the client's `KEXINIT`, behind the cookie. -/
def ClientLists (payload : Buffer) (kexlist hostkeylist : Bytes) : Prop :=
  ∃ p₁ p₂ p₃, buf_incrpos payload 16 = .ok p₁ ∧ buf_getstring p₁ = .ok (kexlist, p₂) ∧
    buf_getstring p₂ = .ok (hostkeylist, p₃)

/-- An algorithm is found only in a list within the limit. -/
theorem goodguess_of_found {b b' b₁ : Buffer} {algolist : Bytes} {kexguess2 g : KexGuess2}
    {a : AlgoType δ} {goodguess : Bool} (hget : buf_getstring b = .ok (algolist, b'))
    (hnul : 0 ∉ algolist)
    (hmarker : kexguess2 = .LOOK → KEXGUESS2_ALGO_NAME ∉ namesOf algolist) (hno : kexguess2 ≠ .YES)
    (hfirst : FirstUsable localalgos)
    (h : buf_match_algo b localalgos kexguess2 = .ok (some a, goodguess, g, b₁)) :
    (goodguess = true ↔ GuessedRight localalgos algolist) ∧ g = .NO ∧ b₁ = b' := by
  have hlen : algolist.length ≤ MAX_PROPOSED_ALGO * (MAX_NAME_LEN + 1) := by
    by_contra hlong
    unfold buf_match_algo at h
    simp only [hget, ok_bind, if_pos (Nat.lt_of_not_le hlong)] at h
    cases (pure_eq_ok _ _).mp h
  obtain ⟨algo, good, hmatch, hgood⟩ :=
    buf_match_algo_goodguess kexguess2 hget hlen hnul hmarker hno hfirst
  rw [hmatch] at h
  cases h
  exact ⟨hgood, rfl, rfl⟩

/-- What `read_kex_algos` says of the client's next packet. -/
theorem read_kex_algos_ignore {newkeys : KeyContext} {follows ignore : Bool}
    (hlists : ClientLists payload kexlist hostkeylist)
    (hkexnul : 0 ∉ kexlist) (hhostnul : 0 ∉ hostkeylist)
    (hmarker : KEXGUESS2_ALGO_NAME ∉ namesOf kexlist) (hkex : FirstUsable cfg.sshkex)
    (hhost : FirstUsable cfg.sshhostkey)
    (h : read_kex_algos cfg payload = .ok (newkeys, follows, ignore)) :
    ignore = true ↔ follows = true ∧
      ¬ (GuessedRight cfg.sshkex kexlist ∧ GuessedRight cfg.sshhostkey hostkeylist) := by
  obtain ⟨p₁, p₂, p₃, hcookie, hkexget, hhostget⟩ := hlists
  unfold read_kex_algos at h
  rw [hcookie, ok_bind, bind_eq_ok] at h
  obtain ⟨⟨algo, kexgood, kexguess2, p⟩, hmatch, h⟩ := h
  simp only at h
  cases algo with
  | none => exact absurd h (dropbear_exit_ne_ok _ _)
  | some algo =>
    obtain ⟨hkexgood, rfl, rfl⟩ :=
      goodguess_of_found hkexget hkexnul (fun _ => hmarker) (by decide) hkex hmatch
    cases hdata : algo.data with
    | none =>
      simp only [Option.bind_some, hdata] at h
      exact absurd h (dropbear_exit_ne_ok _ _)
    | some algo_kex =>
      simp only [Option.bind_some, hdata, bind_eq_ok] at h
      obtain ⟨⟨hostkey, hostgood, g, p'⟩, hmatchhost, h⟩ := h
      simp only at h
      cases hostkey with
      | none => exact absurd h (dropbear_exit_ne_ok _ _)
      | some hostkey =>
        obtain ⟨hhostgood, -, -⟩ := goodguess_of_found hhostget hhostnul (fun hlook => by cases hlook)
          (by decide) hhost hmatchhost
        simp only [bind_eq_ok, Prod.exists, pure_eq_ok, Prod.mk.injEq] at h
        obtain ⟨_, _, -, _, _, -, _, _, -, _, _, -, _, _, -, _, _, -, _, -, _, -, _, _, -, _, _, -, -, rfl,
          rfl⟩ := h
        rw [← hkexgood, ← hhostgood, Bool.and_eq_true, Bool.not_eq_true', ← Bool.not_eq_true,
          Bool.and_eq_true]

/-- `recv_msg_kexinit` reads the client's lists, before or after it has sent our own. -/
theorem recv_msg_kexinit_reads (h : recv_msg_kexinit cfg env s payload = .ok s') :
    ∃ newkeys follows ignore, read_kex_algos cfg payload = .ok (newkeys, follows, ignore) ∧
      s'.kexstate.them_firstfollows = (s.kexstate.them_firstfollows || follows) ∧
      s'.ignorenext = (s.ignorenext || ignore) := by
  have hbody : ∀ {s₁ : Session}, recv_kexinit_body cfg s₁ payload = .ok s' →
      ∃ newkeys follows ignore, read_kex_algos cfg payload = .ok (newkeys, follows, ignore) ∧
        s'.kexstate.them_firstfollows = (s₁.kexstate.them_firstfollows || follows) ∧
        s'.ignorenext = (s₁.ignorenext || ignore) := by
    intro s₁ h
    unfold recv_kexinit_body at h
    split at h
    · obtain ⟨⟨newkeys, follows, ignore⟩, hread, h⟩ := bind_eq_ok.mp h
      obtain rfl := (pure_eq_ok _ _).mp h
      exact ⟨newkeys, follows, ignore, hread, rfl, rfl⟩
    · exact absurd h (throw_ne_ok _ _)
  unfold recv_msg_kexinit at h
  by_cases hsent : s.kexstate.sentkexinit = true
  · rw [if_pos hsent] at h
    exact hbody h
  · rw [if_neg hsent] at h
    obtain ⟨s₁, hkexinit, h⟩ := bind_eq_ok.mp h
    simp only [send_msg_kexinit, bind_eq_ok] at hkexinit
    obtain ⟨writepayload, -, s₂, hencrypt, hkexinit⟩ := hkexinit
    obtain ⟨out, new, rfl, -⟩ := encrypt_packet_sent hencrypt
    obtain rfl := (pure_eq_ok _ _).mp hkexinit
    obtain ⟨newkeys, follows, ignore, hread, hfollows, hignore⟩ := hbody h
    exact ⟨newkeys, follows, ignore, hread, hfollows, hignore⟩

end

/-! ### A key that is not there -/

/-- A server with an ECDSA key of 521 bits. The entry for 256 bits is in front of it, `usable256` or
not. -/
def largeKeyConfig (usable256 : Bool) : Config :=
  { plainConfig noCrypto noKexCrypto with
    sshhostkey := [⟨ascii "ecdsa-sha2-nistp256", usable256, .ECDSA_NISTP256⟩,
      ⟨ascii "ecdsa-sha2-nistp521", true, .ECDSA_NISTP521⟩] }

/-- The cookie and the lists of a client whose choice is the larger key, and whose next packet is a
guess. -/
def guessingKexinit : Bytes :=
  List.replicate 16 7 ++ putstring (ascii "curve25519-sha256") ++
    putstring (ascii "ecdsa-sha2-nistp521") ++ putstring (ascii "aes128-ctr") ++
    putstring (ascii "aes128-ctr") ++ putstring (ascii "hmac-sha1") ++ putstring (ascii "hmac-sha1") ++
    putstring (ascii "none") ++ putstring (ascii "none") ++ putstring [] ++ putstring [] ++ [1] ++ be32 0

def guessingPayload : Buffer := payloadOf guessingKexinit (by decide +kernel)

/-- Our `KEXINIT` is out. -/
def exchangingSession : Session :=
  { kexstate := { sentkexinit := true }
    remoteident := some (ascii "SSH-2.0-client")
    transkexinit := some []
    newkeys := some {} }

def exchangingEnv : Env := { now := 0, authfile := none, random := [] }

theorem guessingPayload_lists : ClientLists guessingPayload (ascii "curve25519-sha256")
    (ascii "ecdsa-sha2-nistp521") := by
  have hread : ((buf_incrpos guessingPayload 16).toOption.any fun p₁ =>
      (buf_getstring p₁).toOption.any fun r => r.1 == ascii "curve25519-sha256" &&
        (buf_getstring r.2).toOption.any fun r' => r'.1 == ascii "ecdsa-sha2-nistp521") = true := by
    decide +kernel
  obtain ⟨p₁, hp₁, hread⟩ := (Option.any_eq_true _ _).mp hread
  obtain ⟨⟨kexlist, p₂⟩, hp₂, hread⟩ := (Option.any_eq_true _ _).mp hread
  obtain ⟨hkexlist, hread⟩ := Bool.and_eq_true_iff.mp hread
  obtain ⟨⟨hostkeylist, p₃⟩, hp₃, hhostkeylist⟩ := (Option.any_eq_true _ _).mp hread
  obtain rfl : kexlist = _ := beq_iff_eq.mp hkexlist
  obtain rfl : hostkeylist = _ := beq_iff_eq.mp hhostkeylist
  exact ⟨p₁, p₂, p₃, toOption_eq_some hp₁, toOption_eq_some hp₂, toOption_eq_some hp₃⟩

end SimpleSshd.Dropbear
