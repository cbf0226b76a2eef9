import Mathlib.Data.List.TakeWhile
import SimpleSshd.Dropbear.AuthKeys
import SimpleSshd.Dropbear.Proofs.BufferProofs

/-!
# Proofs: which lines of `authorized_keys` authorise a key

The reader cuts the file into physical lines, and cuts each of those again where it fills the line
buffer. What it checks of a physical line is its last piece (`kept`), and the whole loop over the
file is a loop over those pieces.
-/

namespace SimpleSshd.Dropbear

open Fallible Framing

/-! ## Physical lines -/

def isEol (c : UInt8) : Bool := c = LF ∨ c = CR

/-- The maximal runs of bytes without `CR` or `LF`. -/
def physicalLines (file : Bytes) : List Bytes := file.splitOnP isEol

/-- What is left of a physical line after every full buffer of it was dropped. -/
def kept (line : Bytes) : Bytes :=
  line.drop (MAX_AUTHKEYS_LINE * (line.length / MAX_AUTHKEYS_LINE))

theorem kept_of_lt {line : Bytes} (h : line.length < MAX_AUTHKEYS_LINE) : kept line = line := by
  rw [kept, Nat.div_eq_of_lt h, Nat.mul_zero, List.drop_zero]

theorem kept_drop {line : Bytes} (h : MAX_AUTHKEYS_LINE ≤ line.length) :
    kept (line.drop MAX_AUTHKEYS_LINE) = kept line := by
  have hpos : 0 < MAX_AUTHKEYS_LINE := by decide
  rw [kept, kept, List.drop_drop, List.length_drop, Nat.div_eq_sub_div hpos h, Nat.mul_succ,
    Nat.add_comm]

/-- A file is its first physical line, alone or followed by an end of line and more of the file. -/
theorem firstLine (file : Bytes) : ∃ line, (∀ c ∈ line, isEol c = false) ∧
    (file = line ∨ ∃ c rest, isEol c = true ∧ file = line ++ c :: rest) := by
  induction file with
  | nil => exact ⟨[], List.forall_mem_nil _, Or.inl rfl⟩
  | cons c file ih =>
    cases hc : isEol c with
    | true => exact ⟨[], List.forall_mem_nil _, Or.inr ⟨c, file, hc, rfl⟩⟩
    | false =>
      obtain ⟨line, hline, hfile⟩ := ih
      refine ⟨c :: line, List.forall_mem_cons.mpr ⟨hc, hline⟩, ?_⟩
      rcases hfile with rfl | ⟨d, rest, hd, rfl⟩
      · exact Or.inl rfl
      · exact Or.inr ⟨d, rest, hd, rfl⟩

/-! ## The line reader -/

section Getline

variable {size : Nat} {read line rest : Bytes} (hline : ∀ c ∈ line, isEol c = false)
include hline

theorem getline_loop_end (hlen : read.length + line.length < size) :
    getline_loop size read line = (read ++ line, [], true) := by
  induction line generalizing read with
  | nil => rw [getline_loop, if_pos (by simpa using hlen), List.append_nil]
  | cons c line ih =>
    obtain ⟨hc, hline⟩ := List.forall_mem_cons.mp hline
    rw [List.length_cons] at hlen
    have hc : ¬ (c = LF ∨ c = CR) := of_decide_eq_false hc
    rw [getline_loop, if_pos (by omega), if_neg hc,
      ih hline (by rw [List.length_append, List.length_singleton]; omega), List.append_assoc]
    rfl

theorem getline_loop_eol {c : UInt8} (hc : isEol c = true)
    (hlen : read.length + line.length < size) :
    getline_loop size read (line ++ c :: rest) = (read ++ line, rest, false) := by
  induction line generalizing read with
  | nil =>
    have hc : c = LF ∨ c = CR := of_decide_eq_true hc
    rw [List.nil_append, getline_loop, if_pos (by simpa using hlen), if_pos hc, List.append_nil]
  | cons d line ih =>
    obtain ⟨hd, hline⟩ := List.forall_mem_cons.mp hline
    rw [List.length_cons] at hlen
    have hd : ¬ (d = LF ∨ d = CR) := of_decide_eq_false hd
    rw [List.cons_append, getline_loop, if_pos (by omega), if_neg hd,
      ih hline (by rw [List.length_append, List.length_singleton]; omega), List.append_assoc]
    rfl

/-- A line that fills the buffer leaves the rest of itself in the file. -/
theorem getline_loop_full (hread : read.length ≤ size) (hlen : size ≤ read.length + line.length) :
    getline_loop size read (line ++ rest) =
      ([], (line ++ rest).drop (size - read.length), false) := by
  induction line generalizing read with
  | nil =>
    have heq : size = read.length := Nat.le_antisymm (by simpa using hlen) hread
    have hfull : ¬ read.length < size := by omega
    rw [List.nil_append, heq, Nat.sub_self, List.drop_zero]
    cases rest with
    | nil => rw [getline_loop, if_neg (Nat.lt_irrefl _)]
    | cons c rest => rw [getline_loop, if_neg (Nat.lt_irrefl _)]
  | cons c line ih =>
    obtain ⟨hc, hline⟩ := List.forall_mem_cons.mp hline
    have hc : ¬ (c = LF ∨ c = CR) := of_decide_eq_false hc
    rw [List.cons_append, getline_loop]
    by_cases hlt : read.length < size
    · have hsub : size - read.length = (size - (read ++ [c]).length) + 1 := by
        rw [List.length_append, List.length_singleton]
        omega
      rw [List.length_cons] at hlen
      rw [if_pos hlt, if_neg hc, hsub, List.drop_succ_cons]
      exact ih hline (by rw [List.length_append, List.length_singleton]; omega)
        (by rw [List.length_append, List.length_singleton]; omega)
    · rw [if_neg hlt, Nat.sub_eq_zero_of_le (by omega), List.drop_zero]

end Getline

theorem buf_getline_end {line : Bytes} (hline : ∀ c ∈ line, isEol c = false)
    (hlen : line.length < MAX_AUTHKEYS_LINE) :
    buf_getline MAX_AUTHKEYS_LINE line = if line = [] then none else some (line, []) := by
  rw [buf_getline, getline_loop_end hline (by rw [List.length_nil]; omega), List.nil_append]
  simp only [true_and, List.length_eq_zero_iff]

theorem buf_getline_eol {line : Bytes} {c : UInt8} (rest : Bytes)
    (hline : ∀ c ∈ line, isEol c = false) (hc : isEol c = true)
    (hlen : line.length < MAX_AUTHKEYS_LINE) :
    buf_getline MAX_AUTHKEYS_LINE (line ++ c :: rest) = some (line, rest) := by
  rw [buf_getline, getline_loop_eol hline hc (by rw [List.length_nil]; omega), List.nil_append]
  simp only [Bool.false_eq_true, false_and, if_false]

theorem buf_getline_full {line : Bytes} (rest : Bytes) (hline : ∀ c ∈ line, isEol c = false)
    (hlen : MAX_AUTHKEYS_LINE ≤ line.length) :
    buf_getline MAX_AUTHKEYS_LINE (line ++ rest) =
      some ([], line.drop MAX_AUTHKEYS_LINE ++ rest) := by
  rw [buf_getline, getline_loop_full hline (Nat.zero_le _) (by rw [List.length_nil]; omega),
    List.length_nil, Nat.sub_zero, List.drop_append_of_le_length hlen]
  simp only [Bool.false_eq_true, false_and, if_false]

/-! ## The loop over the file -/

section File

variable (algo keyblob : Bytes)

/-- The loop of `checkpubkey` over lines that have already been read. -/
def checkLines : Option PubKeyOptions → List Bytes → Except Exit (Status × Option PubKeyOptions)
  | pubkey_options, [] => pure (DROPBEAR_FAILURE, pubkey_options)
  | pubkey_options, line :: lines => do
    let (ret, pubkey_options) ← checkpubkey_line line algo keyblob pubkey_options
    match ret with
    | DROPBEAR_SUCCESS => pure (DROPBEAR_SUCCESS, pubkey_options)
    | DROPBEAR_FAILURE => checkLines pubkey_options lines

theorem checkpubkey_line_nil (opts : Option PubKeyOptions) :
    checkpubkey_line [] algo keyblob opts = .ok (DROPBEAR_FAILURE, opts) := rfl

theorem checkpubkey_loop_none {file : Bytes} (opts : Option PubKeyOptions)
    (h : buf_getline MAX_AUTHKEYS_LINE file = none) :
    checkpubkey_loop algo keyblob opts file = .ok (DROPBEAR_FAILURE, opts) := by
  rw [checkpubkey_loop]
  split
  case h_1 => rfl
  case h_2 hsome => rw [h] at hsome; cases hsome

theorem checkpubkey_loop_some {file line rest : Bytes} (opts : Option PubKeyOptions)
    (h : buf_getline MAX_AUTHKEYS_LINE file = some (line, rest)) :
    checkpubkey_loop algo keyblob opts file =
      checkpubkey_line line algo keyblob opts >>= fun r => match r.1 with
        | DROPBEAR_SUCCESS => pure (DROPBEAR_SUCCESS, r.2)
        | DROPBEAR_FAILURE => checkpubkey_loop algo keyblob r.2 rest := by
  rw [checkpubkey_loop]
  split
  case h_1 hnone => rw [h] at hnone; cases hnone
  case h_2 hsome =>
    rw [h] at hsome
    obtain ⟨rfl, rfl⟩ := Prod.mk.inj (Option.some.inj hsome)
    rfl

/-- **Reading a file** is checking, in turn, what is kept of each of its physical lines. -/
theorem checkpubkey_loop_eq (opts : Option PubKeyOptions) (file : Bytes) :
    checkpubkey_loop algo keyblob opts file =
      checkLines algo keyblob opts ((physicalLines file).map kept) := by
  -- on the length of the file: a full buffer shortens the first physical line, and a short line
  -- is taken off whole
  induction hlen : file.length using Nat.strong_induction_on generalizing file opts with
  | _ n ih =>
    subst hlen
    obtain ⟨line, hline, hfile⟩ := firstLine file
    have hfull : ∀ tail, file = line ++ tail → MAX_AUTHKEYS_LINE ≤ line.length →
        checkpubkey_loop algo keyblob opts file = checkLines algo keyblob opts
          ((physicalLines (line.drop MAX_AUTHKEYS_LINE ++ tail)).map kept) := by
      rintro tail rfl hlong
      have hget := buf_getline_full tail hline hlong
      rw [checkpubkey_loop_some algo keyblob opts hget, checkpubkey_line_nil, ok_bind]
      exact ih _ (buf_getline_length (by decide) hget) opts _ rfl
    have hdrop : ∀ c ∈ line.drop MAX_AUTHKEYS_LINE, isEol c = false :=
      fun c hc => hline c (List.mem_of_mem_drop hc)
    rcases hfile with rfl | ⟨c, rest, hc, rfl⟩
    · by_cases hlong : MAX_AUTHKEYS_LINE ≤ file.length
      · rw [hfull [] (List.append_nil _).symm hlong, List.append_nil, physicalLines, physicalLines,
          List.splitOnP_eq_singleton hdrop, List.splitOnP_eq_singleton hline, List.map_singleton,
          List.map_singleton, kept_drop hlong]
      · have hget := buf_getline_end hline (by omega)
        rw [physicalLines, List.splitOnP_eq_singleton hline, List.map_singleton,
          kept_of_lt (by omega)]
        by_cases hnil : file = []
        · rw [if_pos hnil] at hget
          rw [checkpubkey_loop_none algo keyblob opts hget, hnil]
          rfl
        · rw [if_neg hnil] at hget
          rw [checkpubkey_loop_some algo keyblob opts hget]
          have hend : ∀ o, checkpubkey_loop algo keyblob o [] = .ok (DROPBEAR_FAILURE, o) :=
            fun o => checkpubkey_loop_none algo keyblob o rfl
          simp only [hend]
          rfl
    · by_cases hlong : MAX_AUTHKEYS_LINE ≤ line.length
      · rw [hfull (c :: rest) rfl hlong, physicalLines, physicalLines,
          List.splitOnP_append_cons_of_forall_mem hdrop c hc,
          List.splitOnP_append_cons_of_forall_mem hline c hc, List.map_cons, List.map_cons,
          kept_drop hlong]
      · have hget := buf_getline_eol rest hline hc (by omega)
        have hshort := buf_getline_length (by decide) hget
        rw [physicalLines, List.splitOnP_append_cons_of_forall_mem hline c hc, List.map_cons,
          kept_of_lt (by omega), checkpubkey_loop_some algo keyblob opts hget]
        simp only [fun o => ih _ hshort o rest rfl]
        rfl

/-! ## Accepted lines -/

/-- What `checkpubkey_line` says of a line. -/
def lineStatus (line : Bytes) : Except Exit Status :=
  checkpubkey_line line algo keyblob none >>= fun r => pure r.1

/-- The verdict on a line does not depend on the options of an earlier one. -/
theorem checkpubkey_line_status (line : Bytes) (opts : Option PubKeyOptions) :
    (checkpubkey_line line algo keyblob opts >>= fun r => pure r.1) =
      lineStatus algo keyblob line := by
  have htail : ∀ options_buf rest,
      (checkpubkey_tail algo keyblob opts options_buf rest >>= fun r => pure r.1) =
        checkpubkey_tail algo keyblob none options_buf rest >>= fun r => pure r.1 := by
    intro options_buf rest
    cases rest with
    | nil => rfl
    | cons c rest =>
      simp only [checkpubkey_tail]
      split_ifs
      · rfl
      · cases cmp_base64_key keyblob algo (rest.takeWhile (· ≠ SP)) with
        | error e => rfl
        | ok ret => cases ret <;> cases options_buf <;> rfl
  simp only [lineStatus, checkpubkey_line]
  split_ifs
  · rfl
  · rfl
  · rfl
  · exact htail _ _
  · cases line.dropWhile isBlank with
    | nil => rfl
    | cons c cs =>
      simp only
      split_ifs
      · rfl
      · rfl
      · rfl
      · exact htail _ _

theorem checkpubkey_line_of_status {line : Bytes} {ret : Status} (opts : Option PubKeyOptions)
    (h : lineStatus algo keyblob line = .ok ret) :
    ∃ opts', checkpubkey_line line algo keyblob opts = .ok (ret, opts') := by
  rw [← checkpubkey_line_status algo keyblob line opts, bind_eq_ok] at h
  obtain ⟨⟨ret', opts'⟩, hline, hret⟩ := h
  obtain rfl := (pure_eq_ok _ _).mp hret
  exact ⟨opts', hline⟩

theorem lineStatus_of_ok {line : Bytes} {ret : Status} {opts opts' : Option PubKeyOptions}
    (h : checkpubkey_line line algo keyblob opts = .ok (ret, opts')) :
    lineStatus algo keyblob line = .ok ret := by
  rw [← checkpubkey_line_status algo keyblob line opts, h]
  rfl

/-- `line` is accepted, and every line before it was looked at and rejected. -/
def FirstAccepted (lines pre : List Bytes) (line : Bytes) : Prop :=
  (∃ post, lines = pre ++ line :: post) ∧
    (∀ l ∈ pre, lineStatus algo keyblob l = .ok DROPBEAR_FAILURE) ∧
      lineStatus algo keyblob line = .ok DROPBEAR_SUCCESS

theorem checkLines_success {lines : List Bytes} {opts : Option PubKeyOptions} :
    (∃ opts', checkLines algo keyblob opts lines = .ok (DROPBEAR_SUCCESS, opts')) ↔
      ∃ pre line, FirstAccepted algo keyblob lines pre line := by
  induction lines generalizing opts with
  | nil =>
    constructor
    · rintro ⟨opts', h⟩
      simp only [checkLines, pure_eq_ok, Prod.mk.injEq, reduceCtorEq, false_and] at h
    · rintro ⟨pre, line, ⟨post, h⟩, -⟩
      exact absurd h.symm (List.append_ne_nil_of_right_ne_nil _ (List.cons_ne_nil _ _))
  | cons line lines ih =>
    constructor
    · rintro ⟨opts', h⟩
      simp only [checkLines, bind_eq_ok, Prod.exists] at h
      obtain ⟨ret, opts₁, hline, hrest⟩ := h
      cases ret with
      | DROPBEAR_SUCCESS =>
        exact ⟨[], line, ⟨lines, rfl⟩, List.forall_mem_nil _, lineStatus_of_ok _ _ hline⟩
      | DROPBEAR_FAILURE =>
        obtain ⟨pre, l, ⟨post, rfl⟩, hpre, hl⟩ := ih.mp ⟨opts', hrest⟩
        refine ⟨line :: pre, l, ⟨post, rfl⟩, ?_, hl⟩
        exact List.forall_mem_cons.mpr ⟨lineStatus_of_ok _ _ hline, hpre⟩
    · rintro ⟨pre, l, ⟨post, hlines⟩, hpre, hl⟩
      cases pre with
      | nil =>
        obtain ⟨rfl, rfl⟩ := List.cons.inj hlines
        obtain ⟨opts', hline⟩ := checkpubkey_line_of_status algo keyblob opts hl
        exact ⟨opts', by rw [checkLines, hline]; rfl⟩
      | cons p pre =>
        obtain ⟨rfl, rfl⟩ := List.cons.inj hlines
        obtain ⟨hp, hpre⟩ := List.forall_mem_cons.mp hpre
        obtain ⟨opts₁, hline⟩ := checkpubkey_line_of_status algo keyblob opts hp
        obtain ⟨opts', hrest⟩ := (@ih opts₁).mpr ⟨pre, l, ⟨post, rfl⟩, hpre, hl⟩
        exact ⟨opts', by rw [checkLines, hline]; exact hrest⟩

/-- **What `checkpubkey` accepts**: a known algorithm and a physical line the kept part of which is
accepted, after all earlier ones were rejected. -/
theorem checkpubkey_success {file : Bytes} {opts : Option PubKeyOptions} :
    (∃ opts', checkpubkey (some file) algo keyblob opts = .ok (DROPBEAR_SUCCESS, opts')) ↔
      have_algo algo sshhostkey = true ∧
        ∃ pre line, FirstAccepted algo keyblob ((physicalLines file).map kept) pre line := by
  simp only [checkpubkey, checkpubkey_loop_eq]
  cases have_algo algo sshhostkey with
  | false =>
    simp only [Bool.not_false, if_true, pure_eq_ok, Prod.mk.injEq, reduceCtorEq, false_and,
      exists_false, Bool.false_eq_true]
  | true =>
    simp only [Bool.not_true, Bool.false_eq_true, if_false, true_and]
    exact checkLines_success algo keyblob

end File

/-! ## The form of an authorising line -/

/-- No blank in the bytes is outside quotes, from the given state of the scan. -/
def noUnquotedBlank : Bool → Bool → Bytes → Bool
  | _, _, [] => true
  | quoted, escape, c :: cs =>
    let escape' := !escape && c == BACKSLASH
    let quoted' := if !escape' && c == QUOTE then !quoted else quoted
    !(!quoted && isBlank c) && noUnquotedBlank quoted' escape' cs

/-- Blanks, the options, and the blank that ends them. -/
def OptionsField (field : Bytes) : Prop :=
  ∃ blanks opts sep, field = blanks ++ opts ++ [sep] ∧ (∀ c ∈ blanks, isBlank c = true) ∧
    noUnquotedBlank false false opts = true ∧ isBlank sep = true

def IsComment (line : Bytes) : Prop := (line.dropWhile isBlank).head? = some HASH

/-- A line that is no comment and consists of an optional options field, the algorithm, a space and
base64 text, up to the next space or the end, that decodes to the key. -/
def Authorises (line algo keyblob : Bytes) : Prop :=
  ¬ IsComment line ∧ ∃ field b64 rest, line = field ++ algo ++ SP :: (b64 ++ rest) ∧
    (field = [] ∨ OptionsField field) ∧ SP ∉ b64 ∧ (rest = [] ∨ rest.head? = some SP) ∧
      base64_decode b64 (b64.length * 2) = some keyblob

variable {algo keyblob : Bytes}

theorem cmp_base64_key_success {line : Bytes}
    (h : cmp_base64_key keyblob algo line = .ok DROPBEAR_SUCCESS) :
    base64_decode line (line.length * 2) = some keyblob ∧
      ∃ tail, takeField keyblob = some (algo, tail) := by
  simp only [cmp_base64_key] at h
  split_ifs at h
  · simp only [pure_eq_ok, reduceCtorEq] at h
  · cases hdecode : base64_decode line (line.length * 2) with
    | none =>
      rw [hdecode] at h
      simp only [pure_eq_ok, reduceCtorEq] at h
    | some decoded =>
      rw [hdecode] at h
      simp only [bind_eq_ok] at h
      obtain ⟨decodekey, hhold, h⟩ := h
      split_ifs at h with hcmp
      · simp only [pure_eq_ok, reduceCtorEq] at h
      · simp only [bind_eq_ok, Prod.exists, buf_getptr_ok] at h
        obtain ⟨n, b₁, hint, filealgo, ⟨hn, rfl⟩, h⟩ := h
        split_ifs at h with halgo
        · simp only [pure_eq_ok, reduceCtorEq] at h
        · obtain ⟨h4, hlen, hadv⟩ := buf_getint_ok.mp hint
          have hkey : decoded = keyblob := by
            by_contra hne
            exact hcmp (Or.inr hne)
          have hname : b₁.rest.take n = algo := by
            by_contra hne
            exact halgo (Or.inr hne)
          subst hkey
          refine ⟨rfl, b₁.rest.drop n, takeField_eq_some.mpr ?_⟩
          rw [Buffer.rest_holding hhold] at h4 hlen
          rw [hadv.rest, Buffer.rest_holding hhold] at hname hn
          refine ⟨h4, ?_, ?_⟩
          · rw [← hname, List.length_take, Nat.min_eq_left hn, hlen]
          · rw [hadv.rest, Buffer.rest_holding hhold, ← hname, List.take_append_drop]

theorem checkpubkey_tail_success {opts opts' : Option PubKeyOptions} {options_buf : Option Bytes}
    {rest : Bytes}
    (h : checkpubkey_tail algo keyblob opts options_buf rest = .ok (DROPBEAR_SUCCESS, opts')) :
    ∃ b64 more, rest = SP :: (b64 ++ more) ∧ SP ∉ b64 ∧ (more = [] ∨ more.head? = some SP) ∧
      cmp_base64_key keyblob algo b64 = .ok DROPBEAR_SUCCESS := by
  cases rest with
  | nil => exact absurd h (dropbear_exit_ne_ok _ _)
  | cons c rest =>
    simp only [checkpubkey_tail] at h
    split_ifs at h with hc
    · simp only [pure_eq_ok, Prod.mk.injEq, reduceCtorEq, false_and] at h
    · obtain ⟨ret, hcmp, h⟩ := bind_eq_ok.mp h
      have hret : ret = DROPBEAR_SUCCESS := by
        cases ret with
        | DROPBEAR_SUCCESS => rfl
        | DROPBEAR_FAILURE => simp only [pure_eq_ok, Prod.mk.injEq, reduceCtorEq, false_and] at h
      subst hret
      refine ⟨_, rest.dropWhile (· ≠ SP), ?_, ?_, ?_, hcmp⟩
      · rw [List.takeWhile_append_dropWhile, Decidable.not_not.mp hc]
      · intro hmem
        have := List.mem_takeWhile_imp hmem
        simp only [ne_eq, not_true_eq_false, decide_false, Bool.false_eq_true] at this
      · have hhead := List.head?_dropWhile_not (fun c => decide (c ≠ SP)) rest
        cases hmore : rest.dropWhile (fun c => decide (c ≠ SP)) with
        | nil => exact Or.inl rfl
        | cons d ds =>
          rw [hmore] at hhead
          have hd : d = SP := Decidable.not_not.mp (of_decide_eq_false hhead)
          exact Or.inr (by rw [hd]; rfl)

theorem options_scan_spec {quoted escape : Bool} {bs field rest : Bytes}
    (h : options_scan quoted escape bs = (field, rest)) :
    noUnquotedBlank quoted escape field = true ∧
      ((bs = field ∧ rest = []) ∨ ∃ sep, isBlank sep = true ∧ bs = field ++ sep :: rest) := by
  induction bs generalizing quoted escape field with
  | nil =>
    obtain ⟨rfl, rfl⟩ := Prod.mk.inj h
    exact ⟨rfl, Or.inl ⟨rfl, rfl⟩⟩
  | cons c cs ih =>
    rw [options_scan] at h
    split_ifs at h with hend
    · obtain ⟨rfl, rfl⟩ := Prod.mk.inj h
      rw [Bool.and_eq_true] at hend
      exact ⟨rfl, Or.inr ⟨c, hend.2, rfl⟩⟩
    · simp only at h
      obtain ⟨rfl, rfl⟩ := Prod.mk.inj h
      obtain ⟨hfield, hsplit⟩ := ih rfl
      refine ⟨?_, ?_⟩
      · rw [noUnquotedBlank, hfield, Bool.and_true, Bool.not_eq_true', Bool.eq_false_iff]
        exact hend
      · rcases hsplit with ⟨hall, hnil⟩ | ⟨sep, hsep, hall⟩
        · exact Or.inl ⟨congrArg (c :: ·) hall, hnil⟩
        · exact Or.inr ⟨sep, hsep, congrArg (c :: ·) hall⟩

theorem have_algo_head (h : have_algo algo sshhostkey = true) :
    ∃ c cs, algo = c :: cs ∧ isBlank c = false ∧ c ≠ HASH := by
  obtain ⟨name, hmem, hname⟩ := List.any_eq_true.mp h
  obtain rfl := of_decide_eq_true hname
  simp only [sshhostkey, List.mem_cons, List.not_mem_nil, or_false] at hmem
  rcases hmem with rfl | rfl | rfl | rfl | rfl <;> exact ⟨_, _, rfl, by decide, by decide⟩

/-- A line that is accepted has the form, and the key begins with the name of the algorithm. -/
theorem lineStatus_success (halgo : have_algo algo sshhostkey = true) {line : Bytes}
    (h : lineStatus algo keyblob line = .ok DROPBEAR_SUCCESS) :
    Authorises line algo keyblob ∧ ∃ tail, takeField keyblob = some (algo, tail) := by
  obtain ⟨opts', h⟩ := checkpubkey_line_of_status algo keyblob none h
  have hfail : ∀ opts : Option PubKeyOptions,
      (pure (DROPBEAR_FAILURE, opts) : Except Exit _) ≠ .ok (DROPBEAR_SUCCESS, opts') := by
    intro opts
    simp only [ne_eq, pure_eq_ok, Prod.mk.injEq, reduceCtorEq, false_and, not_false_eq_true]
  simp only [checkpubkey_line] at h
  split_ifs at h with hlen hnul hshort htake
  · exact absurd h (hfail _)
  · exact absurd h (hfail _)
  · exact absurd h (hfail _)
  · -- the line begins with the algorithm
    obtain ⟨b64, more, hrest, hsp, hmore, hcmp⟩ := checkpubkey_tail_success h
    have hline : line = algo ++ SP :: (b64 ++ more) := by
      rw [← hrest]
      conv_lhs => rw [← List.take_append_drop algo.length line, htake]
    obtain ⟨hdecode, hname⟩ := cmp_base64_key_success hcmp
    refine ⟨⟨?_, [], b64, more, hline, Or.inl rfl, hsp, hmore, hdecode⟩, hname⟩
    obtain ⟨c, cs, rfl, hblank, hhash⟩ := have_algo_head halgo
    rw [IsComment, hline, List.cons_append, List.dropWhile_cons_of_neg (by simp [hblank]),
      List.head?_cons, Option.some.injEq]
    exact hhash
  · -- blanks and options come first
    cases hskip : line.dropWhile isBlank with
    | nil =>
      rw [hskip] at h
      exact absurd h (dropbear_exit_ne_ok _ _)
    | cons c cs =>
      rw [hskip] at h
      rcases hscan : options_scan false false (c :: cs) with ⟨field, rest⟩
      simp only [hscan] at h
      split_ifs at h with hhash hshort' halgo'
      · exact absurd h (hfail _)
      · exact absurd h (hfail _)
      · exact absurd h (hfail _)
      · obtain ⟨b64, more, hrest, hsp, hmore, hcmp⟩ := checkpubkey_tail_success h
        obtain ⟨hfield, hsplit⟩ := options_scan_spec hscan
        have hkey : rest = algo ++ SP :: (b64 ++ more) := by
          rw [← hrest]
          conv_lhs => rw [← List.take_append_drop algo.length rest, Decidable.not_not.mp halgo']
        obtain ⟨hdecode, hname⟩ := cmp_base64_key_success hcmp
        refine ⟨⟨?_, ?_⟩, hname⟩
        · rw [IsComment, hskip, List.head?_cons, Option.some.injEq]
          exact hhash
        · rcases hsplit with ⟨-, hnil⟩ | ⟨sep, hsep, hall⟩
          · -- the options would have taken the whole line
            rw [hnil, List.length_nil] at hshort'
            omega
          · refine ⟨line.takeWhile isBlank ++ field ++ [sep], b64, more, ?_, Or.inr ?_, hsp, hmore,
              hdecode⟩
            · conv_lhs => rw [← List.takeWhile_append_dropWhile (p := isBlank) (l := line), hskip,
                hall, hkey]
              simp only [List.append_assoc, List.cons_append, List.nil_append]
            · exact ⟨_, field, sep, rfl, fun c hc => List.mem_takeWhile_imp hc, hfield, hsep⟩

/-! ## Soundness -/

/-- What `checkpubkey` accepts stands on a physical line of the file. -/
def SoundFor (file algo keyblob : Bytes) : Prop :=
  ∀ opts opts', checkpubkey (some file) algo keyblob opts = .ok (DROPBEAR_SUCCESS, opts') →
    ∃ line ∈ physicalLines file, Authorises line algo keyblob

/-- The last piece of an over-long physical line is accepted, all earlier lines being rejected. -/
def TailAccepted (file algo keyblob : Bytes) : Prop :=
  have_algo algo sshhostkey = true ∧ ∃ pre line post, physicalLines file = pre ++ line :: post ∧
    MAX_AUTHKEYS_LINE < line.length ∧
      (∀ l ∈ pre, lineStatus algo keyblob (kept l) = .ok DROPBEAR_FAILURE) ∧
        lineStatus algo keyblob (kept line) = .ok DROPBEAR_SUCCESS

/-- An accepted piece is a whole physical line or the tail of an over-long one. -/
theorem checkpubkey_success_cases {file : Bytes} {opts opts' : Option PubKeyOptions}
    (h : checkpubkey (some file) algo keyblob opts = .ok (DROPBEAR_SUCCESS, opts')) :
    (∃ line ∈ physicalLines file, Authorises line algo keyblob) ∨
      TailAccepted file algo keyblob := by
  obtain ⟨halgo, pieces, piece, ⟨post, hlines⟩, hpre, hpiece⟩ :=
    (checkpubkey_success algo keyblob).mp ⟨opts', h⟩
  obtain ⟨pre, lines, hsplit, rfl, hmap⟩ := List.map_eq_append_iff.mp hlines
  obtain ⟨line, post', rfl, rfl, rfl⟩ := List.map_eq_cons_iff.mp hmap
  by_cases hlong : MAX_AUTHKEYS_LINE < line.length
  · exact Or.inr ⟨halgo, pre, line, post', hsplit, hlong, List.forall_mem_map.mp hpre, hpiece⟩
  · have hlt : line.length < MAX_AUTHKEYS_LINE := by
      -- a line of exactly that length leaves nothing, and nothing is not accepted
      refine lt_of_le_of_ne (by omega) fun heq => ?_
      have hnil : kept line = [] := by
        rw [kept, heq, Nat.div_self (by decide), Nat.mul_one, ← heq, List.drop_length]
      rw [hnil] at hpiece
      cases hpiece
    rw [kept_of_lt hlt] at hpiece
    refine Or.inl ⟨line, ?_, (lineStatus_success halgo hpiece).1⟩
    rw [hsplit]
    exact List.mem_append_right _ List.mem_cons_self

/-- A key that is accepted begins with the name of the algorithm. -/
theorem checkpubkey_names_algo {authfile : Option Bytes} {opts opts' : Option PubKeyOptions}
    (h : checkpubkey authfile algo keyblob opts = .ok (DROPBEAR_SUCCESS, opts')) :
    ∃ tail, takeField keyblob = some (algo, tail) := by
  cases authfile with
  | none =>
    unfold checkpubkey at h
    split_ifs at h <;> cases h
  | some file =>
    obtain ⟨halgo, _, _, _, _, hpiece⟩ := (checkpubkey_success algo keyblob).mp ⟨opts', h⟩
    exact (lineStatus_success halgo hpiece).2

theorem checkpubkey_of_tailAccepted {file : Bytes} (h : TailAccepted file algo keyblob)
    (opts : Option PubKeyOptions) :
    ∃ opts', checkpubkey (some file) algo keyblob opts = .ok (DROPBEAR_SUCCESS, opts') := by
  obtain ⟨halgo, pre, line, post, hsplit, -, hpre, hline⟩ := h
  refine (checkpubkey_success algo keyblob).mpr ⟨halgo, pre.map kept, kept line, ⟨?_, ?_, hline⟩⟩
  · exact ⟨post.map kept, by rw [hsplit, List.map_append, List.map_cons]⟩
  · exact List.forall_mem_map.mpr hpre

/-- A comment line of 4224 bytes, the last 24 of which look like a key line. -/
def commentFile : Bytes :=
  HASH :: (List.replicate 4199 0x78 ++ ascii "ssh-rsa AAAAB3NzaC1yc2E=")

theorem physicalLines_commentFile : physicalLines commentFile = [commentFile] := by
  have hend : (ascii "ssh-rsa AAAAB3NzaC1yc2E=").any isEol = false := by decide
  refine List.splitOnP_eq_singleton (List.forall_mem_cons.mpr ⟨by decide, ?_⟩)
  intro c hc
  rcases List.mem_append.mp hc with hx | hkey
  · obtain ⟨-, rfl⟩ := List.mem_replicate.mp hx
    decide
  · exact Bool.eq_false_iff.mpr (List.any_eq_false.mp hend c hkey)

theorem kept_commentFile : kept commentFile = ascii "ssh-rsa AAAAB3NzaC1yc2E=" := by
  have hlen : (HASH :: List.replicate 4199 (0x78 : UInt8)).length = MAX_AUTHKEYS_LINE := by
    rw [List.length_cons, List.length_replicate]
    rfl
  have hkey : (ascii "ssh-rsa AAAAB3NzaC1yc2E=").length = 24 := by decide
  rw [kept, commentFile, ← List.cons_append, List.length_append, hlen, hkey,
    show (MAX_AUTHKEYS_LINE + 24) / MAX_AUTHKEYS_LINE = 1 by decide, Nat.mul_one, ← hlen,
    List.drop_left]

end SimpleSshd.Dropbear
