import SimpleSshd.Dropbear.Proofs.AuthKeysProofs
import SimpleSshd.Dropbear.Proofs.Base64Proofs

/-!
# Proofs: what the parser does with odd lines

A line of `authorized_keys` ends the process in two ways only: it consists of blanks, and then a byte
is taken after its end; or its key is the one that was sent, and that key is too short for the name it
begins with. Blanks before the options do not matter, but before the algorithm they do.
-/

namespace SimpleSshd.Dropbear

open Fallible Framing

variable {algo keyblob line : Bytes} {opts : Option PubKeyOptions}

/-! ## Comparing the key -/

/-- The name at the beginning of a key. -/
theorem buf_getint_of_field {b : Buffer} {name tail : Bytes}
    (h : takeField b.rest = some (name, tail)) :
    ∃ b₁, buf_getint b = .ok (name.length, b₁) ∧ buf_getptr b₁ name.length = .ok name := by
  obtain ⟨h4, hlen, hsplit⟩ := takeField_eq_some.mp h
  have hle : b.pos + 4 ≤ b.len := by
    have hpos := b.pos_le
    rw [Buffer.length_rest] at h4
    omega
  have hrest := (Buffer.advanced_moveTo hle).rest
  rw [hsplit] at hrest
  refine ⟨_, buf_getint_ok.mpr ⟨h4, hlen, Buffer.advanced_moveTo hle⟩, buf_getptr_ok.mpr ⟨?_, ?_⟩⟩
  · rw [hrest, List.length_append]
    omega
  · rw [hrest, List.take_left]

/-- **The comparison of keys**, for a key that begins with a name. -/
theorem cmp_base64_key_eq {name tail decoded : Bytes} (hfield : takeField keyblob = some (name, tail))
    (hlen : line.length ≤ MAX_AUTHKEYS_LINE) (hne : line ≠ [])
    (hdecode : base64_decode line (line.length * 2) = some decoded) :
    cmp_base64_key keyblob algo line =
      .ok (if decoded = keyblob ∧ name = algo then DROPBEAR_SUCCESS else DROPBEAR_FAILURE) := by
  have hsize : ¬ decoded.length > BUF_MAX_SIZE := by
    have hdecoded := base64_decode_length hdecode
    have hmax : MAX_AUTHKEYS_LINE * 2 ≤ BUF_MAX_SIZE := by decide
    omega
  have hhold : Buffer.holding decoded = .ok (Buffer.full decoded (Nat.le_of_not_lt hsize)) :=
    dif_neg hsize
  have hnil : ¬ line.length = 0 := fun h => hne (List.length_eq_zero_iff.mp h)
  rw [cmp_base64_key, if_neg hnil, hdecode]
  dsimp only
  rw [hhold, ok_bind]
  by_cases hkey : decoded = keyblob
  · subst hkey
    obtain ⟨b₁, hint, hptr⟩ := buf_getint_of_field (Buffer.rest_holding hhold ▸ hfield)
    have hsame : ¬ (decoded.length ≠ decoded.length ∨ decoded ≠ decoded) := by simp
    rw [if_neg hsame, hint, ok_bind]
    dsimp only
    rw [hptr, ok_bind]
    by_cases hname : name = algo
    · subst hname
      simp
    · rw [if_pos (Or.inr hname), if_neg (fun h => hname h.2)]
      rfl
  · rw [if_pos (Or.inr hkey), if_neg (fun h => hkey h.1)]
    rfl

theorem cmp_base64_key_returns (algo : Bytes) (hblob : (takeField keyblob).isSome = true)
    (hlen : line.length ≤ MAX_AUTHKEYS_LINE) : ∃ ret, cmp_base64_key keyblob algo line = .ok ret := by
  obtain ⟨⟨name, tail⟩, hfield⟩ := Option.isSome_iff_exists.mp hblob
  by_cases hne : line = []
  · subst hne
    exact ⟨_, rfl⟩
  · cases hdecode : base64_decode line (line.length * 2) with
    | none =>
      have hnil : ¬ line.length = 0 := fun h => hne (List.length_eq_zero_iff.mp h)
      rw [cmp_base64_key, if_neg hnil, hdecode]
      exact ⟨_, rfl⟩
    | some decoded => exact ⟨_, cmp_base64_key_eq hfield hlen hne hdecode⟩

/-! ## Lines that end the process -/

/-- Blanks only, and enough of them for the algorithm to be looked for. -/
def BlankLine (algo line : Bytes) : Prop :=
  MIN_AUTHKEYS_LINE ≤ line.length ∧ algo.length + 3 ≤ line.length ∧ ∀ c ∈ line, isBlank c = true

instance (algo line : Bytes) : Decidable (BlankLine algo line) :=
  inferInstanceAs (Decidable (_ ∧ _ ∧ ∀ c ∈ _, _))

theorem checkpubkey_tail_returns {options_buf : Option Bytes} {rest : Bytes}
    (hblob : (takeField keyblob).isSome = true) (hne : rest ≠ [])
    (hlen : rest.length ≤ MAX_AUTHKEYS_LINE) :
    ∃ r, checkpubkey_tail algo keyblob opts options_buf rest = .ok r := by
  cases rest with
  | nil => exact absurd rfl hne
  | cons c rest =>
    simp only [checkpubkey_tail]
    split_ifs with hc
    · exact ⟨_, rfl⟩
    · have htext : (rest.takeWhile (· ≠ SP)).length ≤ MAX_AUTHKEYS_LINE := by
        have hle := (List.takeWhile_prefix (· ≠ SP) (l := rest)).length_le
        rw [List.length_cons] at hlen
        omega
      obtain ⟨ret, hret⟩ := cmp_base64_key_returns algo hblob htext
      rw [hret, ok_bind]
      cases ret with
      | DROPBEAR_FAILURE => exact ⟨_, rfl⟩
      | DROPBEAR_SUCCESS =>
        cases options_buf with
        | none => exact ⟨_, rfl⟩
        | some field => exact ⟨_, rfl⟩

theorem options_scan_length (quoted escape : Bool) (bs : Bytes) :
    (options_scan quoted escape bs).2.length ≤ bs.length := by
  obtain ⟨-, hsplit⟩ := options_scan_spec (show options_scan quoted escape bs = (_, _) from rfl)
  rcases hsplit with ⟨-, hnil⟩ | ⟨sep, -, hall⟩
  · rw [hnil]
    exact Nat.zero_le _
  · have hlen := congrArg List.length hall
    rw [List.length_append, List.length_cons] at hlen
    omega

/-- **A line is accepted or rejected**, if it does not consist of blanks and the key begins with a
name. -/
theorem checkpubkey_line_returns (opts : Option PubKeyOptions) (hblob : (takeField keyblob).isSome = true)
    (hline : ¬ BlankLine algo line) :
    ∃ r, checkpubkey_line line algo keyblob opts = .ok r := by
  unfold checkpubkey_line
  split_ifs with hlen hnul hshort halgo
  · exact ⟨_, rfl⟩
  · exact ⟨_, rfl⟩
  · exact ⟨_, rfl⟩
  · have hdrop : (line.drop algo.length).length = line.length - algo.length := List.length_drop
    refine checkpubkey_tail_returns hblob (List.ne_nil_of_length_pos ?_) ?_
    · omega
    · omega
  · have hskip : (line.dropWhile isBlank).length ≤ line.length :=
      (List.dropWhile_suffix isBlank).length_le
    cases hblank : line.dropWhile isBlank with
    | nil =>
      refine absurd ⟨?_, ?_, List.dropWhile_eq_nil_iff.mp hblank⟩ hline
      · omega
      · omega
    | cons c cs =>
      rw [hblank] at hskip
      have hscan := options_scan_length false false (c :: cs)
      dsimp only
      split_ifs with hhash hrest halgo'
      · exact ⟨_, rfl⟩
      · exact ⟨_, rfl⟩
      · exact ⟨_, rfl⟩
      · have hdrop : ((options_scan false false (c :: cs)).2.drop algo.length).length =
            (options_scan false false (c :: cs)).2.length - algo.length := List.length_drop
        refine checkpubkey_tail_returns hblob (List.ne_nil_of_length_pos ?_) ?_
        · omega
        · omega

/-- **The lines of a file** are all looked at, up to one that is accepted. -/
theorem checkLines_returns (opts : Option PubKeyOptions) {lines : List Bytes}
    (hblob : (takeField keyblob).isSome = true)
    (hlines : ∀ line ∈ lines, ¬ BlankLine algo line) :
    ∃ ret opts', checkLines algo keyblob opts lines = .ok (ret, opts') ∧
      (ret = DROPBEAR_SUCCESS ↔
        ∃ line ∈ lines, lineStatus algo keyblob line = .ok DROPBEAR_SUCCESS) := by
  induction lines generalizing opts with
  | nil => exact ⟨DROPBEAR_FAILURE, opts, rfl, nofun, fun ⟨_, hmem, _⟩ => absurd hmem List.not_mem_nil⟩
  | cons line lines ih =>
    obtain ⟨hline, hlines⟩ := List.forall_mem_cons.mp hlines
    obtain ⟨⟨ret, opts₁⟩, hret⟩ := checkpubkey_line_returns opts hblob hline
    have hstatus := lineStatus_of_ok algo keyblob hret
    rw [checkLines, hret, ok_bind]
    cases ret with
    | DROPBEAR_SUCCESS =>
      exact ⟨DROPBEAR_SUCCESS, opts₁, rfl, fun _ => ⟨line, List.mem_cons_self, hstatus⟩, fun _ => rfl⟩
    | DROPBEAR_FAILURE =>
      obtain ⟨ret, opts', hrest, hiff⟩ := ih opts₁ hlines
      refine ⟨ret, opts', hrest, hiff.trans ⟨?_, ?_⟩⟩
      · rintro ⟨l, hmem, hl⟩
        exact ⟨l, List.mem_cons_of_mem _ hmem, hl⟩
      · rintro ⟨l, hmem, hl⟩
        rcases List.mem_cons.mp hmem with rfl | hmem
        · rw [hstatus] at hl
          cases hl
        · exact ⟨l, hmem, hl⟩

/-- A file with an empty line, a comment, some blanks, bad options and a key. -/
def oddFile : Bytes :=
  ascii "\n# a comment\n   \nno-tea ssh-rsa AAAA\nssh-rsa AAAAB3NzaC1yc2E="

/-- A line of twelve blanks before the key. -/
def blankFile : Bytes := ascii "            \nssh-rsa AAAAB3NzaC1yc2E="

theorem dropWhile_blank_append {w L : Bytes} (hw : ∀ c ∈ w, isBlank c = true)
    (hL : ∀ c ∈ L.head?, isBlank c = false) : (w ++ L).dropWhile isBlank = L := by
  rw [List.dropWhile_append_of_pos hw]
  cases L with
  | nil => rfl
  | cons c cs => exact List.dropWhile_cons_of_neg (by simp [hL c rfl])

end SimpleSshd.Dropbear
