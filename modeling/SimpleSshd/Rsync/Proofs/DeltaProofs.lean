import SimpleSshd.Rsync.Delta
import Mathlib.Tactic.Ring

/-!
# Proofs: the file that arrives is the file that was sent

What the sender has written so far makes the receiver write the beginning of the file, up to `last_match`.
Every call of `matched` keeps this, if the block that it sends is what the file has at that place; and that
is so as long as no two different blocks have the same strong checksum.
-/

namespace SimpleSshd.Rsync

open Framing (Bytes)

variable {sums : Checksums} {s : SumStruct} {basis buf data rest : Bytes} {st : Sender}
  {offset i : Nat}

/-! ## Tokens -/

theorem length_write_int (x : Int) : (write_int x).length = 4 := by
  rw [write_int, List.length_reverse, Framing.length_be32]

theorem read_int_write_int {x : Int} (hlow : -0x80000000 ≤ x) (hhigh : x < 0x80000000) :
    read_int (write_int x ++ rest) = some (x, rest) := by
  have hn : (x % 0x100000000).toNat < 2 ^ 32 := by omega
  have hlong : ¬ (write_int x ++ rest).length < 4 := by
    rw [List.length_append, length_write_int]
    omega
  unfold read_int
  rw [if_neg hlong, List.take_left' (length_write_int x), List.drop_left' (length_write_int x), write_int,
    List.reverse_reverse, Framing.ofBytes_be32 hn]
  dsimp only
  refine congrArg (fun y => some (y, rest)) ?_
  split_ifs with hsmall
  · omega
  · omega

/-- A number that is not positive is a token. -/
theorem simple_recv_token_int {x : Int} (hlow : -0x80000000 ≤ x) (hle : x ≤ 0) :
    simple_recv_token 0 (write_int x ++ rest) = some (x, [], 0, rest) := by
  rw [simple_recv_token, if_pos rfl, read_int_write_int hlow (by omega)]
  exact if_pos hle

theorem simple_recv_token_data (hpos : data ≠ []) (hle : data.length ≤ CHUNK_SIZE) :
    simple_recv_token 0 (write_int (data.length : Nat) ++ data ++ rest) =
      some ((data.length : Int), data, 0, rest) := by
  have hlen := List.length_pos_iff.mpr hpos
  have hsize : CHUNK_SIZE = 32768 := rfl
  rw [simple_recv_token, if_pos rfl, List.append_assoc, read_int_write_int (by omega) (by omega)]
  simp only [Option.bind_eq_bind, Option.bind_some]
  rw [if_neg (by omega), Int.toNat_natCast, Nat.min_eq_right hle, if_neg (by rw [List.length_append]; omega),
    List.take_left, List.drop_left, Nat.sub_self]

theorem receiveLoop_sendChunks (data : Bytes) (st : Receiver) :
    receiveLoop s basis 0 (sendChunks data ++ rest) st =
      receiveLoop s basis 0 rest { file := st.file ++ data, summed := st.summed ++ data } := by
  induction data using sendChunks.induct generalizing st with
  | case1 => rw [sendChunks, List.nil_append, List.append_nil, List.append_nil]
  | case2 c more ih =>
    have hsize : CHUNK_SIZE = 32768 := rfl
    have hlen : ((c :: more).take CHUNK_SIZE).length = min CHUNK_SIZE (c :: more).length := List.length_take
    have hpos : 0 < (c :: more).length := Nat.succ_pos _
    have hchunk : (c :: more).take CHUNK_SIZE ≠ [] := List.length_pos_iff.mp (by omega)
    have hrecv : simple_recv_token 0 (write_int _ ++ _ ++ (sendChunks ((c :: more).drop CHUNK_SIZE) ++ rest)) = _ :=
      simple_recv_token_data hchunk (by omega)
    rw [hlen, List.append_assoc] at hrecv
    rw [sendChunks, List.append_assoc, List.append_assoc, receiveLoop, hrecv]
    dsimp only
    rw [if_neg (by omega), if_pos (by omega), ih, List.append_assoc, List.append_assoc,
      List.take_append_drop]

/-- What the receiver takes for a block of the old file. -/
def oldBlock (s : SumStruct) (basis : Bytes) (i : Nat) : Bytes :=
  if basis = [] then [] else map_ptr basis (i * s.blength) (s.len i)

theorem receiveLoop_block (hi : i < 0x80000000) (st : Receiver) :
    receiveLoop s basis 0 (write_int (-((i : Int) + 1)) ++ rest) st =
      receiveLoop s basis 0 rest
        { file := st.file ++ oldBlock s basis i, summed := st.summed ++ oldBlock s basis i } := by
  rw [receiveLoop, simple_recv_token_int (by omega) (by omega)]
  dsimp only
  rw [if_neg (by omega), if_neg (by omega), show (-(-((i : Int) + 1) + 1)).toNat = i by omega]
  rfl

theorem receiveLoop_end (st : Receiver) :
    receiveLoop s basis 0 (write_int 0 ++ rest) st = some (st, rest) := by
  rw [receiveLoop, simple_recv_token_int (by decide) (by decide)]
  rfl

/-! ## What was sent so far -/

/-- The receiver is at `last_match` with what was written so far. -/
structure Sent (s : SumStruct) (basis buf : Bytes) (st : Sender) : Prop where
  le : st.last_match ≤ buf.length
  summed : st.summed = buf.take st.last_match
  received : ∀ rest, receiveLoop s basis 0 (st.f ++ rest) {} =
    receiveLoop s basis 0 rest { file := buf.take st.last_match, summed := buf.take st.last_match }

theorem Sent.init : Sent s basis buf {} := ⟨Nat.zero_le _, rfl, fun _ => rfl⟩

theorem take_append_take_drop {n m : Nat} (h : n ≤ m) : buf.take n ++ (buf.drop n).take (m - n) = buf.take m := by
  rw [← List.take_add, Nat.add_sub_cancel' h]

/-- Data alone. -/
theorem Sent.literal (h : Sent s basis buf st) (hle : st.last_match ≤ offset) (hlen : offset ≤ buf.length) :
    Sent s basis buf (matched s buf st offset (-2)) := by
  refine ⟨hlen, ?_, fun rest => ?_⟩
  · show st.summed ++ (buf.drop st.last_match).take (offset - st.last_match) = buf.take offset
    rw [h.summed, take_append_take_drop hle]
  · show receiveLoop s basis 0 (st.f ++ (sendChunks _ ++ []) ++ rest) {} = _
    rw [List.append_nil, List.append_assoc, h.received, receiveLoop_sendChunks, take_append_take_drop hle]
    rfl

/-- The old file has what the new one has at this offset. -/
structure BlockAt (s : SumStruct) (basis buf : Bytes) (i offset : Nat) : Prop where
  lt : i < 0x80000000
  le : offset + s.len i ≤ buf.length
  eq : oldBlock s basis i = (buf.drop offset).take (s.len i)

/-- Data, and a block behind it. -/
theorem Sent.block (h : Sent s basis buf st) (hle : st.last_match ≤ offset) (hat : BlockAt s basis buf i offset) :
    Sent s basis buf (matched s buf st offset i) := by
  have htok : (if (i : Int) < 0 then 0 else s.len (i : Int).toNat) = s.len i := if_neg (by omega)
  have hlast : (matched s buf st offset i).last_match = offset + s.len i := congrArg (offset + ·) htok
  refine ⟨by rw [hlast]; exact hat.le, ?_, fun rest => ?_⟩
  · rw [hlast]
    show st.summed ++ (buf.drop st.last_match).take (offset - st.last_match + _) = _
    rw [htok, h.summed, show offset - st.last_match + s.len i = offset + s.len i - st.last_match by omega,
      take_append_take_drop (by omega)]
  · have htoken : (if (i : Int) ≠ -2 then write_int (-((i : Int) + 1)) else []) = write_int (-((i : Int) + 1)) :=
      if_pos (by omega)
    rw [hlast]
    show receiveLoop s basis 0 (st.f ++ (sendChunks _ ++ _) ++ rest) {} = _
    rw [htoken, List.append_assoc, List.append_assoc, h.received, receiveLoop_sendChunks,
      receiveLoop_block hat.lt, take_append_take_drop hle, hat.eq, ← List.take_add]

/-- The rest of the file, and the end. -/
theorem Sent.finish (h : Sent s basis buf st) (rest : Bytes) :
    (matched s buf st buf.length (-1)).summed = buf ∧
      receiveLoop s basis 0 ((matched s buf st buf.length (-1)).f ++ rest) {} =
        some ({ file := buf, summed := buf }, rest) := by
  constructor
  · show st.summed ++ (buf.drop st.last_match).take (buf.length - st.last_match) = buf
    rw [h.summed, take_append_take_drop h.le, List.take_length]
  · show receiveLoop s basis 0 (st.f ++ (sendChunks _ ++ write_int 0) ++ rest) {} = _
    rw [List.append_assoc, List.append_assoc, h.received, receiveLoop_sendChunks, receiveLoop_end,
      take_append_take_drop h.le, List.take_length]

/-! ## The blocks of the old file -/

/-- A block as the generator reads it. -/
def block (s : SumStruct) (basis : Bytes) (i : Nat) : Bytes := (basis.drop (i * s.blength)).take s.blength

/-- The checksums are those of the blocks of this file. -/
structure Describes (sums : Checksums) (s : SumStruct) (basis : Bytes) : Prop where
  count : s.count = blockCount s.blength basis.length
  remainder : s.remainder = basis.length % s.blength
  sum1 : ∀ i < s.count, s.sum1 i = get_checksum1 (block s basis i)
  sum2 : ∀ i < s.count, s.sum2 i = (sums.get_checksum2 (block s basis i)).take s.s2length

theorem describes_generate (sums : Checksums) (blength s2length : Nat) (hpos : 0 < blength) (basis : Bytes) :
    Describes sums (generate_and_send_sums sums blength s2length hpos basis) basis := by
  have hcount : (generate_and_send_sums sums blength s2length hpos basis).count =
      blockCount blength basis.length := by
    rw [SumStruct.count, generate_and_send_sums, List.length_map, List.length_range]
  have hget : ∀ i < (generate_and_send_sums sums blength s2length hpos basis).count,
      (generate_and_send_sums sums blength s2length hpos basis).sums.getD i (0, []) =
        (get_checksum1 ((basis.drop (i * blength)).take blength),
          (sums.get_checksum2 ((basis.drop (i * blength)).take blength)).take s2length) := by
    intro i hi
    rw [hcount] at hi
    rw [List.getD_eq_getElem?_getD, generate_and_send_sums, List.getElem?_map, List.getElem?_range hi]
    rfl
  refine ⟨hcount, rfl, ?_, ?_⟩
  · intro i hi
    rw [SumStruct.sum1, hget i hi]
    rfl
  · intro i hi
    rw [SumStruct.sum2, hget i hi]
    rfl

namespace Describes

/-- Where a block is, and that only the last one may be shorter. -/
theorem bounds (h : Describes sums s basis) (hi : i < s.count) :
    s.len i = (block s basis i).length ∧ i * s.blength + s.len i ≤ basis.length ∧
      (i + 1 < s.count → i * s.blength + s.len i = (i + 1) * s.blength) ∧
      (i + 1 = s.count → i * s.blength + s.len i = basis.length) := by
  have hpos := s.blength_pos
  have hdiv := Nat.div_add_mod' basis.length s.blength
  have hmod := Nat.mod_lt basis.length hpos
  have hcount := h.count
  rw [block, List.length_take, List.length_drop, SumStruct.len, h.remainder, Nat.succ_mul]
  unfold blockCount at hcount
  by_cases hlast : i + 1 = s.count ∧ basis.length % s.blength ≠ 0
  · rw [if_pos hlast.2] at hcount
    rw [if_pos hlast, show i = basis.length / s.blength by omega]
    omega
  · rw [if_neg hlast]
    have hle := Nat.mul_le_mul_right s.blength (show i + 1 ≤ basis.length / s.blength by
      split_ifs at hcount with hrem
      · have hne : i + 1 ≠ s.count := fun heq => hlast ⟨heq, hrem⟩
        omega
      · omega)
    rw [Nat.succ_mul] at hle
    refine ⟨by omega, by omega, fun _ => rfl, fun heq => ?_⟩
    have hrem : basis.length % s.blength = 0 := by
      by_contra hne
      exact hlast ⟨heq, hne⟩
    rw [if_neg (not_not_intro hrem)] at hcount
    have hall : i * s.blength + s.blength = basis.length / s.blength * s.blength := by
      rw [← Nat.add_one_mul, heq, hcount, Nat.add_zero]
    omega

theorem oldBlock_eq (h : Describes sums s basis) (hi : i < s.count) :
    oldBlock s basis i = block s basis i := by
  obtain ⟨hlen, hle, -⟩ := h.bounds hi
  have hpos := s.len_pos i
  have hne : basis ≠ [] := List.length_pos_iff.mp (by omega)
  have htake : (basis.drop (i * s.blength)).take (s.len i) = block s basis i := by
    rw [hlen, block, List.length_take, ← List.take_take, List.take_length]
  rw [oldBlock, if_neg hne, map_ptr, htake]
  show block s basis i ++ List.replicate (s.len i - (block s basis i).length) 0 = _
  rw [hlen, Nat.sub_self, List.replicate_zero, List.append_nil]

end Describes

/-- Different blocks of the two files have different strong checksums. -/
def NoCollision (sums : Checksums) (s : SumStruct) (basis buf : Bytes) : Prop :=
  ∀ i offset, i < s.count →
    (sums.get_checksum2 ((buf.drop offset).take s.blength)).take s.s2length =
      (sums.get_checksum2 (block s basis i)).take s.s2length →
    (buf.drop offset).take s.blength = block s basis i

/-! ## The search -/

/-- What is in a chain of the table. -/
theorem mem_build_hash_table {t : Nat} :
    i ∈ build_hash_table s t ↔ i < s.count ∧ t = hashOf s.count (s.sum1 i) := by
  have hfold : ∀ (is : List Nat) (table : Nat → List Nat),
      i ∈ is.foldl (fun table i t => if t = hashOf s.count (s.sum1 i) then i :: table t else table t) table t ↔
        (i ∈ is ∧ t = hashOf s.count (s.sum1 i)) ∨ i ∈ table t := by
    intro is
    induction is with
    | nil => simp
    | cons j js ih =>
      intro table
      rw [List.foldl_cons, ih, List.mem_cons]
      split_ifs with ht
      · rw [List.mem_cons]
        constructor
        · rintro (⟨hmem, heq⟩ | rfl | hmem)
          · exact .inl ⟨.inr hmem, heq⟩
          · exact .inl ⟨.inl rfl, ht⟩
          · exact .inr hmem
        · rintro (⟨rfl | hmem, heq⟩ | hmem)
          · exact .inr (.inl rfl)
          · exact .inl ⟨hmem, heq⟩
          · exact .inr (.inr hmem)
      · constructor
        · rintro (⟨hmem, heq⟩ | hmem)
          · exact .inl ⟨.inr hmem, heq⟩
          · exact .inr hmem
        · rintro (⟨rfl | hmem, heq⟩ | hmem)
          · exact absurd heq ht
          · exact .inl ⟨hmem, heq⟩
          · exact .inr hmem
  rw [build_hash_table, hfold]
  simp

variable {search : Search}

/-- A block that is found is what the file has at this offset. -/
theorem findMatch_sound (h : Describes sums s basis) (hcount : s.count < 0x80000000)
    (hno : NoCollision sums s basis buf) (hlt : search.offset < buf.length)
    (hfind : findMatch sums s buf search = some i) : BlockAt s basis buf i search.offset := by
  have hwindow : (buf.drop search.offset).take (min s.blength (buf.length - search.offset)) =
      (buf.drop search.offset).take s.blength := by
    rw [← List.length_drop, ← List.take_take, List.take_length]
  have hat : ∀ j < s.count, (sums.get_checksum2 ((buf.drop search.offset).take s.blength)).take s.s2length =
      s.sum2 j → BlockAt s basis buf j search.offset := by
    intro j hj hsum
    rw [h.sum2 j hj] at hsum
    have heq := hno j search.offset hj hsum
    have hlen : s.len j = ((buf.drop search.offset).take s.blength).length := by rw [heq, (h.bounds hj).1]
    refine ⟨by omega, ?_, ?_⟩
    · rw [hlen, List.length_take, List.length_drop]
      omega
    · rw [h.oldBlock_eq hj, ← heq, hlen, List.length_take, ← List.take_take, List.take_length]
  unfold findMatch at hfind
  dsimp only at hfind
  rw [hwindow, Option.map_eq_some_iff] at hfind
  obtain ⟨j, hfound, rfl⟩ := hfind
  have hj := (mem_build_hash_table.mp (List.mem_of_find?_eq_some hfound)).1
  have hpred := List.find?_some hfound
  rw [decide_eq_true_eq] at hpred
  split_ifs with hwant
  · exact hat _ hwant.2.1 hwant.2.2.2
  · exact hat j hj hpred.2.2

/-- What is sent early is in front of the bytes that the checksum is taken of. -/
theorem Sent.early {stop : Nat} (h : Sent s basis buf search.toSender) (hlt : search.offset < buf.length)
    (hle : search.last_match ≤ search.offset + 1) :
    Sent s basis buf (sendEarly s buf stop search) ∧
      (sendEarly s buf stop search).last_match ≤ search.offset + 1 := by
  unfold sendEarly
  split_ifs with hmuch
  · have hsize : CHUNK_SIZE = 32768 := rfl
    refine ⟨h.literal (by omega) (by omega), ?_⟩
    show search.offset - s.blength + 0 ≤ _
    omega
  · exact ⟨h, hle⟩

/-- **One round** of the search. -/
theorem Sent.round {stop : Nat} (hdesc : Describes sums s basis) (hcount : s.count < 0x80000000)
    (hno : NoCollision sums s basis buf) (h : Sent s basis buf search.toSender)
    (hlt : search.offset < buf.length) (hle : search.last_match ≤ search.offset) :
    Sent s basis buf (searchRound sums s buf stop search).toSender ∧
      (searchRound sums s buf stop search).last_match ≤ (searchRound sums s buf stop search).offset := by
  unfold searchRound
  cases hfind : findMatch sums s buf search with
  | none =>
    dsimp only
    rw [offset_rollOn]
    exact h.early hlt (hle.trans (Nat.le_succ _))
  | some i =>
    have hat := findMatch_sound hdesc hcount hno hlt hfind
    have hpos := s.len_pos i
    have hend := hat.le
    have hsent : Sent s basis buf (sendMatch s buf search i).toSender := h.block hle hat
    have hoffset : (sendMatch s buf search i).offset = search.offset + s.len i - 1 := rfl
    have hlast : (sendMatch s buf search i).last_match = search.offset + s.len i :=
      congrArg (search.offset + ·) (if_neg (by omega))
    dsimp only
    rw [offset_rollOn]
    exact hsent.early (by omega) (by omega)

theorem Sent.loop {stop : Nat} (hdesc : Describes sums s basis) (hcount : s.count < 0x80000000)
    (hno : NoCollision sums s basis buf) (hstop : stop ≤ buf.length) (h : Sent s basis buf search.toSender)
    (hlt : search.offset < buf.length) (hle : search.last_match ≤ search.offset) :
    Sent s basis buf (searchLoop sums s buf stop search).toSender := by
  induction search using searchLoop.induct sums s buf stop with
  | case1 search hmore ih =>
    obtain ⟨hround, hbehind⟩ := h.round hdesc hcount hno hlt hle
    rw [searchLoop, if_pos hmore]
    exact ih hround (by omega) hbehind
  | case2 search hdone =>
    rw [searchLoop, if_neg hdone]
    exact (h.round hdesc hcount hno hlt hle).1

/-- Without blocks to look for, all of the file is sent as data. -/
theorem Sent.pieces (h : Sent s basis buf st) :
    ∃ st', Sent s basis buf st' ∧ sendPieces s buf st = matched s buf st' buf.length (-1) := by
  induction st using sendPieces.induct s buf with
  | case1 st hmore ih =>
    obtain ⟨st', hsent, heq⟩ := ih (h.literal (Nat.le_add_right _ _) hmore.le)
    exact ⟨st', hsent, by rw [sendPieces, if_pos hmore, heq]⟩
  | case2 st hdone => exact ⟨st, h, by rw [sendPieces, if_neg hdone]⟩

/-- **The file arrives.** Whatever the old file is, and however the blocks are cut: unless the two files
have different blocks with the same strong checksum, the receiver writes the sender's file, and the
checksums of the whole file agree. -/
theorem delta_transfer (sums : Checksums) (blength s2length : Nat) (hpos : 0 < blength) (basis buf : Bytes)
    (hcount : blockCount blength basis.length < 0x80000000)
    (hno : NoCollision sums (generate_and_send_sums sums blength s2length hpos basis) basis buf) :
    let s := generate_and_send_sums sums blength s2length hpos basis
    receive_data sums s basis (match_sums sums s buf) = some (buf, true) := by
  intro s
  have hdesc : Describes sums s basis := describes_generate sums blength s2length hpos basis
  have hcount' : s.count < 0x80000000 := by
    rw [hdesc.count]
    exact hcount
  obtain ⟨st, hsent, hfinal⟩ : ∃ st, Sent s basis buf st ∧
      (if 0 < buf.length ∧ 0 < s.count then hash_search sums s buf else sendPieces s buf {}) =
        matched s buf st buf.length (-1) := by
    split_ifs with hsearch
    · have hlast := s.len_pos (s.count - 1)
      exact ⟨_, Sent.loop hdesc hcount' hno (by omega) Sent.init hsearch.1 (Nat.le_refl _), rfl⟩
    · exact Sent.init.pieces
  obtain ⟨hsummed, hreceived⟩ := hsent.finish (sums.file_sum buf)
  rw [receive_data, match_sums]
  dsimp only
  rw [hfinal, hsummed, hreceived]
  simp only [Option.bind_eq_bind, Option.bind_some]
  rw [if_neg (by rw [sums.length_file_sum]; exact Nat.lt_irrefl _), List.take_of_length_le
    (Nat.le_of_eq (sums.length_file_sum buf)), decide_eq_true rfl]

end SimpleSshd.Rsync
