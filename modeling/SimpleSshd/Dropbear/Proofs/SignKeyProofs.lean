import SimpleSshd.Dropbear.SignKey
import SimpleSshd.Dropbear.Proofs.BufferProofs

/-!
# Proofs: what a public key is read from

A key that is read is determined by the fields it is read from: the name of its type and the fields
that type has. `buf_get_pub_key` takes exactly those fields off the buffer, wherever they end.
-/

namespace SimpleSshd.Dropbear

open Fallible Framing
open Buffer (Advanced)

variable {b b' b₁ : Buffer} {f : Bytes} {fs : List Bytes}

theorem orFail_ok {α β : Type} {x : Except Exit (Option α × Buffer)}
    {next : α → Buffer → Except Exit (Option β × Buffer)} {v : β} :
    orFail x next = .ok (some v, b') ↔
      ∃ a b, x = .ok (some a, b) ∧ next a b = .ok (some v, b') := by
  simp only [orFail, bind_eq_ok, Prod.exists]
  constructor
  · rintro ⟨a, b, hx, hnext⟩
    cases a with
    | none => simp only [pure_eq_ok, Prod.mk.injEq, reduceCtorEq, false_and] at hnext
    | some a => exact ⟨a, b, hx, hnext⟩
  · rintro ⟨a, b, hx, hnext⟩
    exact ⟨some a, b, hx, hnext⟩

/-- A check that ends in `DROPBEAR_FAILURE` was passed. -/
theorem ite_fail_ok {β : Type} {p : Prop} [Decidable p]
    {x : Except Exit (Option β × Buffer)} {v : β} :
    (if p then pure (none, b) else x) = .ok (some v, b') ↔ ¬ p ∧ x = .ok (some v, b') := by
  by_cases h : p
  · rw [if_pos h]
    simp only [pure_eq_ok, Prod.mk.injEq, reduceCtorEq, false_and, h, not_true_eq_false]
  · rw [if_neg h, and_iff_right h]

/-! ## Reading fields off a buffer -/

/-- The fields `fs` are read off `b`, leaving `b'`. -/
def Reads (b : Buffer) (fs : List Bytes) (b' : Buffer) : Prop :=
  unframe fs.length b.rest = some (fs, b'.rest) ∧ Advanced b (framedLength fs) b'

theorem framedLength_cons : framedLength (f :: fs) = 4 + f.length + framedLength fs := by
  simp only [framedLength, List.map_cons, List.sum_cons]

theorem reads_nil : Reads b [] b' ↔ b' = b := by
  constructor
  · rintro ⟨-, hadv⟩
    exact (Advanced.unique ⟨rfl, rfl, rfl⟩ hadv).symm
  · rintro rfl
    exact ⟨rfl, rfl, rfl, rfl⟩

theorem reads_cons : Reads b (f :: fs) b' ↔
    ∃ b₁, (takeField b.rest = some (f, b₁.rest) ∧ Advanced b (4 + f.length) b₁) ∧
      Reads b₁ fs b' := by
  simp only [Reads, List.length_cons, framedLength_cons]
  constructor
  · rintro ⟨hfields, hadv⟩
    obtain ⟨g, mid, gs, hg, hgs, hcons⟩ := unframe_succ.mp hfields
    obtain ⟨rfl, rfl⟩ := List.cons.inj hcons
    have hle : b.pos + (4 + f.length) ≤ b.len := by
      have hlen := takeField_length hg
      have hpos := b.pos_le
      rw [Buffer.length_rest] at hlen
      omega
    have hadv₁ := Buffer.advanced_moveTo hle
    have hmid : mid = (b.moveTo _ hle).rest := by rw [takeField_drop hg, hadv₁.rest]
    rw [hmid] at hg hgs
    refine ⟨_, ⟨hg, hadv₁⟩, hgs, hadv.data, hadv.len, ?_⟩
    rw [hadv.pos, hadv₁.pos]
    omega
  · rintro ⟨b₁, ⟨hfield, hadv₁⟩, hrest, hadv⟩
    exact ⟨unframe_succ.mpr ⟨f, _, fs, hfield, hrest, rfl⟩, hadv₁.trans hadv⟩

theorem buf_getstring_reads : buf_getstring b = .ok (f, b') ↔
    f.length ≤ MAX_STRING_LEN ∧ Reads b [f] b' := by
  rw [buf_getstring_ok, reads_cons]
  constructor
  · rintro ⟨hlen, hfield⟩
    exact ⟨hlen, b', hfield, reads_nil.mpr rfl⟩
  · rintro ⟨hlen, b₁, hfield, hnil⟩
    obtain rfl := reads_nil.mp hnil
    exact ⟨hlen, hfield⟩

theorem buf_getmpint_reads {v : Nat} : buf_getmpint b = .ok (some v, b') ↔
    ∃ s, IsMpint s ∧ v = ofBytes s ∧ Reads b [s] b' := by
  rw [buf_getmpint_ok]
  refine exists_congr fun s => and_congr_right fun _ => and_congr_right fun _ => ?_
  rw [reads_cons]
  constructor
  · intro h
    exact ⟨b', h, reads_nil.mpr rfl⟩
  · rintro ⟨b₁, h, hnil⟩
    obtain rfl := reads_nil.mp hnil
    exact h

theorem reads_append {gs : List Bytes} : Reads b (fs ++ gs) b' ↔
    ∃ b₁, Reads b fs b₁ ∧ Reads b₁ gs b' := by
  induction fs generalizing b with
  | nil =>
    simp only [List.nil_append, reads_nil, exists_eq_left]
  | cons f fs ih =>
    simp only [List.cons_append, reads_cons, ih]
    constructor
    · rintro ⟨b₁, hf, b₂, hfs, hgs⟩
      exact ⟨b₂, ⟨b₁, hf, hfs⟩, hgs⟩
    · rintro ⟨b₂, ⟨b₁, hf, hfs⟩, hgs⟩
      exact ⟨b₁, hf, b₂, hfs, hgs⟩

/-- One more field, in the form the readers above produce it. -/
theorem reads_cons_single : Reads b (f :: fs) b' ↔ ∃ b₁, Reads b [f] b₁ ∧ Reads b₁ fs b' :=
  @reads_append b b' [f] fs

/-! ## The fields of a key -/

/-- The name of a key type. -/
def SignkeyType.name : SignkeyType → Bytes
  | .RSA => ascii "ssh-rsa"
  | .DSS => ascii "ssh-dss"
  | .ECDSA_NISTP256 => ascii "ecdsa-sha2-nistp256"
  | .ECDSA_NISTP384 => ascii "ecdsa-sha2-nistp384"
  | .ECDSA_NISTP521 => ascii "ecdsa-sha2-nistp521"

theorem signkey_type_from_name_eq_some {name : Bytes} {type : SignkeyType} :
    signkey_type_from_name name = some type ↔ name = type.name := by
  constructor
  · intro h
    obtain ⟨entry, hfind, rfl⟩ := Option.map_eq_some_iff.mp h
    have hname := List.find?_some hfind
    have hmem := List.mem_of_find?_eq_some hfind
    simp only [signkey_names, List.mem_cons, List.not_mem_nil, or_false] at hmem
    rcases hmem with rfl | rfl | rfl | rfl | rfl <;> exact (of_decide_eq_true hname).symm
  · rintro rfl
    cases type <;> decide

structure RsaFields (e n : Bytes) (key : RsaKey) : Prop where
  mpint_e : IsMpint e
  mpint_n : IsMpint n
  bits_n : ¬ mp_count_bits (ofBytes n) < MIN_RSA_KEYLEN
  bits_e : ¬ mp_count_bits (ofBytes e) > 64
  key_eq : key = { e := ofBytes e, n := ofBytes n }

structure DssFields (p q g y : Bytes) (key : DssKey) : Prop where
  mpint_p : IsMpint p
  mpint_q : IsMpint q
  mpint_g : IsMpint g
  mpint_y : IsMpint y
  bits_p : ¬ mp_count_bits (ofBytes p) ≠ DSS_P_BITS
  bits_q : ¬ mp_count_bits (ofBytes q) ≠ DSS_Q_BITS
  one_lt_g : ¬ ¬ ofBytes g > 1
  g_lt_p : ¬ ¬ ofBytes g < ofBytes p
  key_eq : key = { p := ofBytes p, q := ofBytes q, g := ofBytes g, y := ofBytes y }

structure EccFields (name ident point : Bytes) (key : EccKey) : Prop where
  ident_le : ident.length ≤ MAX_STRING_LEN
  point_le : point.length ≤ MAX_STRING_LEN
  ident_length : ¬ name.length ≠ ident.length + (ascii "ecdsa-sha2-").length
  ident_eq : ¬ name.drop (ascii "ecdsa-sha2-").length ≠ ident
  on_curve : ∃ curve q_buf,
    dropbear_ecc_curves.find? (fun curve => curve.name.isPrefixOf ident) = some curve ∧
      Buffer.holding point = .ok q_buf ∧ buf_get_ecc_raw_pubkey q_buf curve = .ok (some key)

/-- `key` is the key that the fields `fs` stand for, the name of its type first. -/
inductive KeyFields : List Bytes → SignKey → Prop
  | rsa {e n : Bytes} {k : RsaKey} (h : RsaFields e n k) :
      KeyFields [SignkeyType.name .RSA, e, n] { rsakey := k }
  | dss {p q g y : Bytes} {k : DssKey} (h : DssFields p q g y k) :
      KeyFields [SignkeyType.name .DSS, p, q, g, y] { dsskey := k }
  | ecdsa256 {ident point : Bytes} {k : EccKey}
      (h : EccFields (SignkeyType.name .ECDSA_NISTP256) ident point k) :
      KeyFields [SignkeyType.name .ECDSA_NISTP256, ident, point] { ecckey256 := k }
  | ecdsa384 {ident point : Bytes} {k : EccKey}
      (h : EccFields (SignkeyType.name .ECDSA_NISTP384) ident point k) :
      KeyFields [SignkeyType.name .ECDSA_NISTP384, ident, point] { ecckey384 := k }
  | ecdsa521 {ident point : Bytes} {k : EccKey}
      (h : EccFields (SignkeyType.name .ECDSA_NISTP521) ident point k) :
      KeyFields [SignkeyType.name .ECDSA_NISTP521, ident, point] { ecckey521 := k }

/-- How many fields a key of a type has, its name included. -/
def numFields (algo : Bytes) : Nat := if algo = ascii "ssh-dss" then 5 else 3

theorem KeyFields.length {key : SignKey} (h : KeyFields fs key) :
    ∃ name rest, fs = name :: rest ∧ fs.length = numFields name := by
  cases h <;> exact ⟨_, _, rfl, rfl⟩

/-! ## The readers -/

section Readers

variable {name : Bytes} (hname : Reads b [name] b₁)
include hname

/-- The name is skipped by its known length. -/
theorem buf_incrpos_name : buf_incrpos b ((4 + name.length : Nat) : Int) = .ok b₁ := by
  obtain ⟨hfields, hadv⟩ := hname
  have hlen := unframe_length hfields
  rw [framedLength_cons] at hlen
  refine buf_incrpos_ok.mpr ⟨by omega, ?_⟩
  rw [framedLength_cons] at hadv
  exact hadv

theorem buf_get_rsa_pub_key_ok {k : RsaKey} (hlen : name.length = SSH_SIGNKEY_RSA_LEN) :
    buf_get_rsa_pub_key b = .ok (some k, b') ↔
      ∃ e n, RsaFields e n k ∧ Reads b₁ [e, n] b' := by
  rw [buf_get_rsa_pub_key, ← hlen, buf_incrpos_name hname, ok_bind]
  simp only [orFail_ok, buf_getmpint_reads, ite_fail_ok, pure_eq_ok, Prod.mk.injEq,
    Option.some.injEq]
  constructor
  · rintro ⟨_, b₂, ⟨e, he, rfl, re⟩, _, b₃, ⟨n, hn, rfl, rn⟩, hbits, hexp, rfl, rfl⟩
    exact ⟨e, n, ⟨he, hn, hbits, hexp, rfl⟩, reads_cons_single.mpr ⟨b₂, re, rn⟩⟩
  · rintro ⟨e, n, ⟨he, hn, hbits, hexp, rfl⟩, hreads⟩
    obtain ⟨b₂, re, rn⟩ := reads_cons_single.mp hreads
    exact ⟨_, b₂, ⟨e, he, rfl, re⟩, _, b', ⟨n, hn, rfl, rn⟩, hbits, hexp, rfl, rfl⟩

theorem buf_get_dss_pub_key_ok {k : DssKey} (hlen : name.length = SSH_SIGNKEY_DSS_LEN) :
    buf_get_dss_pub_key b = .ok (some k, b') ↔
      ∃ p q g y, DssFields p q g y k ∧ Reads b₁ [p, q, g, y] b' := by
  rw [buf_get_dss_pub_key, ← hlen, buf_incrpos_name hname, ok_bind]
  simp only [orFail_ok, buf_getmpint_reads, ite_fail_ok, pure_eq_ok, Prod.mk.injEq,
    Option.some.injEq]
  constructor
  · rintro ⟨_, b₂, ⟨p, hp, rfl, rp⟩, _, b₃, ⟨q, hq, rfl, rq⟩, _, b₄, ⟨g, hg, rfl, rg⟩,
      _, b₅, ⟨y, hy, rfl, ry⟩, hbp, hbq, hg1, hgp, rfl, rfl⟩
    refine ⟨p, q, g, y, ⟨hp, hq, hg, hy, hbp, hbq, hg1, hgp, rfl⟩, ?_⟩
    exact reads_cons_single.mpr ⟨b₂, rp, reads_cons_single.mpr ⟨b₃, rq,
      reads_cons_single.mpr ⟨b₄, rg, ry⟩⟩⟩
  · rintro ⟨p, q, g, y, ⟨hp, hq, hg, hy, hbp, hbq, hg1, hgp, rfl⟩, hreads⟩
    obtain ⟨b₂, rp, hreads⟩ := reads_cons_single.mp hreads
    obtain ⟨b₃, rq, hreads⟩ := reads_cons_single.mp hreads
    obtain ⟨b₄, rg, ry⟩ := reads_cons_single.mp hreads
    exact ⟨_, b₂, ⟨p, hp, rfl, rp⟩, _, b₃, ⟨q, hq, rfl, rq⟩, _, b₄, ⟨g, hg, rfl, rg⟩,
      _, b', ⟨y, hy, rfl, ry⟩, hbp, hbq, hg1, hgp, rfl, rfl⟩

theorem buf_get_ecdsa_pub_key_ok {k : EccKey} (hmax : name.length ≤ MAX_STRING_LEN) :
    buf_get_ecdsa_pub_key b = .ok (some k, b') ↔
      ∃ ident point, EccFields name ident point k ∧ Reads b₁ [ident, point] b' := by
  rw [buf_get_ecdsa_pub_key, buf_getstring_reads.mpr ⟨hmax, hname⟩, ok_bind]
  simp only [bind_eq_ok, Prod.exists, buf_getstring_reads, ite_fail_ok]
  constructor
  · rintro ⟨ident, b₂, ⟨hident, ri⟩, hlen, heq, h⟩
    cases hcurve : dropbear_ecc_curves.find? (fun curve => curve.name.isPrefixOf ident) with
    | none =>
      rw [hcurve] at h
      simp only [pure_eq_ok, Prod.mk.injEq, reduceCtorEq, false_and] at h
    | some curve =>
      rw [hcurve] at h
      simp only [bind_eq_ok, Prod.exists, buf_getstringbuf_ok, buf_getstring_reads, pure_eq_ok,
        Prod.mk.injEq] at h
      obtain ⟨q_buf, b₃, ⟨point, ⟨hpoint, rp⟩, hq⟩, key, hkey, rfl, rfl⟩ := h
      exact ⟨ident, point, ⟨hident, hpoint, hlen, heq, curve, q_buf, hcurve, hq, hkey⟩,
        reads_cons_single.mpr ⟨b₂, ri, rp⟩⟩
  · rintro ⟨ident, point, ⟨hident, hpoint, hlen, heq, curve, q_buf, hcurve, hq, hkey⟩, hreads⟩
    obtain ⟨b₂, ri, rp⟩ := reads_cons_single.mp hreads
    refine ⟨ident, b₂, ⟨hident, ri⟩, hlen, heq, ?_⟩
    rw [hcurve]
    simp only [bind_eq_ok, Prod.exists, buf_getstringbuf_ok, buf_getstring_reads, pure_eq_ok,
      Prod.mk.injEq]
    exact ⟨q_buf, b', ⟨point, ⟨hpoint, rp⟩, hq⟩, some k, hkey, rfl, rfl⟩

end Readers

theorem SignkeyType.length_name_le (type : SignkeyType) : type.name.length ≤ MAX_STRING_LEN := by
  cases type <;> decide

/-- Once the name is known, the rest is left to the reader of that type. -/
theorem buf_get_pub_key_of_name {type : SignkeyType} (hname : Reads b [type.name] b₁) :
    buf_get_pub_key b new_sign_key none =
      match type with
      | .DSS => orFail (buf_get_dss_pub_key b) fun k b => pure (some { dsskey := k }, b)
      | .RSA => orFail (buf_get_rsa_pub_key b) fun k b => pure (some { rsakey := k }, b)
      | .ECDSA_NISTP256 =>
        orFail (buf_get_ecdsa_pub_key b) fun k b => pure (some { ecckey256 := k }, b)
      | .ECDSA_NISTP384 =>
        orFail (buf_get_ecdsa_pub_key b) fun k b => pure (some { ecckey384 := k }, b)
      | .ECDSA_NISTP521 =>
        orFail (buf_get_ecdsa_pub_key b) fun k b => pure (some { ecckey521 := k }, b) := by
  have hmax := type.length_name_le
  have hadv : Advanced b (4 + type.name.length) b₁ := by
    have h := hname.2
    rw [framedLength_cons] at h
    exact h
  have hback : buf_incrpos b₁ (-((4 + type.name.length : Nat) : Int)) = .ok b := by
    refine buf_incrpos_neg hadv ?_
    simp only [MAX_STRING_LEN, BUF_MAX_INCR] at hmax ⊢
    omega
  rw [buf_get_pub_key, buf_getstring_reads.mpr ⟨hmax, hname⟩, ok_bind]
  simp only [ne_eq, not_true_eq_false, false_and, if_false, hback, ok_bind,
    signkey_type_from_name_eq_some.mpr rfl]
  cases type <;> rfl

/-- The name comes first, and it is the name of a type. -/
theorem buf_get_pub_key_name {key : SignKey}
    (h : buf_get_pub_key b new_sign_key none = .ok (some key, b')) :
    ∃ type b₁, Reads b [SignkeyType.name type] b₁ := by
  simp only [buf_get_pub_key, bind_eq_ok, Prod.exists, ne_eq, not_true_eq_false, false_and,
    if_false] at h
  obtain ⟨ident, b₁, hident, b₂, -, h⟩ := h
  cases htype : signkey_type_from_name ident with
  | none =>
    rw [htype] at h
    simp only [pure_eq_ok, Prod.mk.injEq, reduceCtorEq, false_and] at h
  | some type =>
    obtain rfl := signkey_type_from_name_eq_some.mp htype
    exact ⟨type, b₁, (buf_getstring_reads.mp hident).2⟩

/-- A key is read off a buffer exactly when the buffer begins with its fields. -/
theorem buf_get_pub_key_ok {key : SignKey} :
    buf_get_pub_key b new_sign_key none = .ok (some key, b') ↔
      ∃ fs, KeyFields fs key ∧ Reads b fs b' := by
  constructor
  · intro h
    obtain ⟨type, b₁, hname⟩ := buf_get_pub_key_name h
    rw [buf_get_pub_key_of_name hname] at h
    cases type with
    | RSA =>
      simp only [orFail_ok, buf_get_rsa_pub_key_ok hname rfl, pure_eq_ok, Prod.mk.injEq,
        Option.some.injEq] at h
      obtain ⟨k, _, ⟨e, n, hk, hreads⟩, rfl, rfl⟩ := h
      exact ⟨_, .rsa hk, reads_cons_single.mpr ⟨b₁, hname, hreads⟩⟩
    | DSS =>
      simp only [orFail_ok, buf_get_dss_pub_key_ok hname rfl, pure_eq_ok, Prod.mk.injEq,
        Option.some.injEq] at h
      obtain ⟨k, _, ⟨p, q, g, y, hk, hreads⟩, rfl, rfl⟩ := h
      exact ⟨_, .dss hk, reads_cons_single.mpr ⟨b₁, hname, hreads⟩⟩
    | ECDSA_NISTP256 =>
      simp only [orFail_ok, buf_get_ecdsa_pub_key_ok hname (SignkeyType.length_name_le _),
        pure_eq_ok, Prod.mk.injEq, Option.some.injEq] at h
      obtain ⟨k, _, ⟨ident, point, hk, hreads⟩, rfl, rfl⟩ := h
      exact ⟨_, .ecdsa256 hk, reads_cons_single.mpr ⟨b₁, hname, hreads⟩⟩
    | ECDSA_NISTP384 =>
      simp only [orFail_ok, buf_get_ecdsa_pub_key_ok hname (SignkeyType.length_name_le _),
        pure_eq_ok, Prod.mk.injEq, Option.some.injEq] at h
      obtain ⟨k, _, ⟨ident, point, hk, hreads⟩, rfl, rfl⟩ := h
      exact ⟨_, .ecdsa384 hk, reads_cons_single.mpr ⟨b₁, hname, hreads⟩⟩
    | ECDSA_NISTP521 =>
      simp only [orFail_ok, buf_get_ecdsa_pub_key_ok hname (SignkeyType.length_name_le _),
        pure_eq_ok, Prod.mk.injEq, Option.some.injEq] at h
      obtain ⟨k, _, ⟨ident, point, hk, hreads⟩, rfl, rfl⟩ := h
      exact ⟨_, .ecdsa521 hk, reads_cons_single.mpr ⟨b₁, hname, hreads⟩⟩
  · rintro ⟨fs, hkey, hreads⟩
    cases hkey with
    | rsa hk =>
      obtain ⟨b₁, hname, hreads⟩ := reads_cons_single.mp hreads
      rw [buf_get_pub_key_of_name hname]
      exact orFail_ok.mpr
        ⟨_, b', (buf_get_rsa_pub_key_ok hname rfl).mpr ⟨_, _, hk, hreads⟩, rfl⟩
    | dss hk =>
      obtain ⟨b₁, hname, hreads⟩ := reads_cons_single.mp hreads
      rw [buf_get_pub_key_of_name hname]
      exact orFail_ok.mpr
        ⟨_, b', (buf_get_dss_pub_key_ok hname rfl).mpr ⟨_, _, _, _, hk, hreads⟩, rfl⟩
    | ecdsa256 hk | ecdsa384 hk | ecdsa521 hk =>
      obtain ⟨b₁, hname, hreads⟩ := reads_cons_single.mp hreads
      rw [buf_get_pub_key_of_name hname]
      exact orFail_ok.mpr ⟨_, b', (buf_get_ecdsa_pub_key_ok hname
        (SignkeyType.length_name_le _)).mpr ⟨_, _, hk, hreads⟩, rfl⟩

/-! ## Reading a key from a prefix of a buffer -/

theorem holding_take {n : Nat} (hn : n ≤ b.rest.length) :
    ∃ c : Buffer, Buffer.holding (b.rest.take n) = .ok c ∧ c.rest = b.rest.take n ∧ c.len = n := by
  have hlen : (b.rest.take n).length = n := by rw [List.length_take, Nat.min_eq_left hn]
  have hmax : (b.rest.take n).length ≤ BUF_MAX_SIZE := by
    have hsize := b.size_le
    have hle := b.len_le
    rw [Buffer.length_rest] at hn
    rw [hlen]
    omega
  refine ⟨⟨b.rest.take n, n, 0, Nat.zero_le _, hlen.ge, hmax⟩, ?_, ?_, rfl⟩
  · exact holding_ok.mpr ⟨hmax, rfl, hlen.symm, rfl⟩
  · rw [Buffer.rest, List.take_take, Nat.min_self, List.drop_zero]

theorem reads_of_unframe (h : unframe fs.length b.rest = some (fs, [])) : ∃ b', Reads b fs b' := by
  have hlen := unframe_length h
  rw [Buffer.length_rest, List.length_nil, Nat.add_zero] at hlen
  have hpos := b.pos_le
  have hadv : Advanced b (framedLength fs) (b.moveTo (b.pos + framedLength fs) (by omega)) :=
    Buffer.advanced_moveTo _
  refine ⟨_, ?_, hadv⟩
  rw [h, hadv.rest, List.drop_of_length_le (by rw [Buffer.length_rest]; omega)]

/-- **Whether the key is the blob's.** When a key was read off a buffer, the first `n` bytes of which
begin with the name `algo`: the key is what those `n` bytes alone are read as, and takes all of
them, exactly when they are the fields of a key of that type. -/
theorem buf_get_pub_key_take {n : Nat} {algo tail : Bytes} {key : SignKey}
    (hkey : buf_get_pub_key b new_sign_key none = .ok (some key, b'))
    (hn : n ≤ b.rest.length) (halgo : takeField (b.rest.take n) = some (algo, tail)) :
    (b'.pos = b.pos + n ∧ ∃ c c', Buffer.holding (b.rest.take n) = .ok c ∧
        buf_get_pub_key c new_sign_key none = .ok (some key, c')) ↔
      Framed (numFields algo) (b.rest.take n) := by
  obtain ⟨fs, hfields, hreads⟩ := buf_get_pub_key_ok.mp hkey
  obtain ⟨name, rest, rfl, hnum⟩ := hfields.length
  obtain ⟨b₁, ⟨hname, -⟩, -⟩ := reads_cons.mp hreads
  have hsame : takeField (b.rest.take n ++ b.rest.drop n) = some (algo, tail ++ b.rest.drop n) :=
    takeField_append halgo
  rw [List.take_append_drop, hname, Option.some.injEq, Prod.mk.injEq] at hsame
  obtain ⟨rfl, -⟩ := hsame
  rw [← hnum, framed_take_iff hreads.1 hn, hreads.2.pos]
  constructor
  · rintro ⟨hpos, -⟩
    omega
  · rintro rfl
    refine ⟨rfl, ?_⟩
    obtain ⟨c, hc, hrest, -⟩ := holding_take hn
    have hunframe : unframe (name :: rest).length c.rest = some (name :: rest, []) := by
      rw [hrest, unframe_take hreads.1 (Nat.le_refl _), Nat.sub_self, List.take_zero]
    obtain ⟨c', hc'⟩ := reads_of_unframe hunframe
    exact ⟨c, c', hc, buf_get_pub_key_ok.mpr ⟨_, hfields, hc'⟩⟩

end SimpleSshd.Dropbear
