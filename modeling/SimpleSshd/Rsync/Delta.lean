import SimpleSshd.Lib.Framing
import Mathlib.Tactic.SplitIfs

/-!
# `rsync`: the transfer of a file that the other side has an old version of

The receiving side sends the checksums of the blocks of its old file. The sender looks for these blocks in
its own file, with a checksum that is moved along one byte at a time, and sends the number of a block where
it finds one and the bytes themselves everywhere else. The receiver puts the file together again.

The options `--inplace` and `--append` and the compression of tokens are not modelled. The strong checksums,
of a block and of a whole file, are parameters.
-/

namespace SimpleSshd.Rsync

open Framing (Bytes)

def CHUNK_SIZE : Nat := 32 * 1024
def TRADITIONAL_TABLESIZE : Nat := 65536

/-! ## Checksums -/

/-- A byte as a `schar`, in 32-bit arithmetic. -/
def schar (c : UInt8) : UInt32 := if c < 128 then c.toUInt32 else c.toUInt32 - 256

/-- Four bytes at a time, while there are more than four. -/
def sumFours : Bytes → UInt32 → UInt32 → UInt32 × UInt32 × Bytes
  | a :: b :: c :: d :: e :: rest, s1, s2 =>
    sumFours (e :: rest) (s1 + (schar a + schar b + schar c + schar d))
      (s2 + (4 * (s1 + schar a) + 3 * schar b + 2 * schar c + schar d))
  | buf, s1, s2 => (s1, s2, buf)

def sumOnes : Bytes → UInt32 → UInt32 → UInt32 × UInt32
  | [], s1, s2 => (s1, s2)
  | c :: rest, s1, s2 => sumOnes rest (s1 + schar c) (s2 + (s1 + schar c))

def get_checksum1 (buf : Bytes) : UInt32 :=
  let (s1, s2, rest) := sumFours buf 0 0
  let (s1, s2) := sumOnes rest s1 s2
  (s1 &&& (0xffff : UInt32)) + (s2 <<< 16)

structure Checksums where
  get_checksum2 : Bytes → Bytes
  /-- `sum_init`, `sum_update` and `sum_end`, of all the bytes of a file. -/
  file_sum : Bytes → Bytes
  checksum_len : Nat
  length_file_sum : ∀ file, (file_sum file).length = checksum_len

/-! ## The blocks of the old file -/

/-- The checksums of the blocks of a file. The last block may be shorter. -/
structure SumStruct where
  blength : Nat
  remainder : Nat
  s2length : Nat
  /-- `sum1` and `sum2` of each block. -/
  sums : List (UInt32 × Bytes)
  blength_pos : 0 < blength

namespace SumStruct

variable (s : SumStruct)

def count : Nat := s.sums.length

def len (i : Nat) : Nat := if i + 1 = s.count ∧ s.remainder ≠ 0 then s.remainder else s.blength

def sum1 (i : Nat) : UInt32 := (s.sums.getD i (0, [])).1

def sum2 (i : Nat) : Bytes := (s.sums.getD i (0, [])).2

end SumStruct

variable (sums : Checksums)

/-- What `map_ptr` gives. Behind the end of the file there are zeroes. -/
def map_ptr (file : Bytes) (offset len : Nat) : Bytes :=
  let bytes := (file.drop offset).take len
  bytes ++ List.replicate (len - bytes.length) 0

/-- The number of blocks of so many bytes. -/
def blockCount (blength flength : Nat) : Nat := flength / blength + if flength % blength ≠ 0 then 1 else 0

def generate_and_send_sums (blength s2length : Nat) (hpos : 0 < blength) (basis : Bytes) : SumStruct where
  blength
  s2length
  remainder := basis.length % blength
  sums := (List.range (blockCount blength basis.length)).map fun i =>
    let map := (basis.drop (i * blength)).take blength
    (get_checksum1 map, (sums.get_checksum2 map).take s2length)
  blength_pos := hpos

/-! ## Tokens -/

/-- The four bytes, the lowest first. -/
def write_int (x : Int) : Bytes := (Framing.be32 (x % 0x100000000).toNat).reverse

def read_int (f : Bytes) : Option (Int × Bytes) :=
  if f.length < 4 then none
  else
    let n := Framing.ofBytes (f.take 4).reverse
    some (if n < 0x80000000 then n else n - 0x100000000, f.drop 4)

def sendChunks : Bytes → Bytes
  | [] => []
  | c :: rest =>
    write_int (min CHUNK_SIZE (c :: rest).length : Nat) ++ (c :: rest).take CHUNK_SIZE ++
      sendChunks ((c :: rest).drop CHUNK_SIZE)
termination_by data => data.length
decreasing_by
  rw [List.length_drop, List.length_cons, CHUNK_SIZE]
  omega

/-- A token of -2 means data only, and one of -1 the end. -/
def simple_send_token (token : Int) (data : Bytes) : Bytes :=
  sendChunks data ++ if token ≠ -2 then write_int (-(token + 1)) else []

/-- What is returned, the data if there is some, what is left of the piece, and the bytes that follow. -/
def simple_recv_token (residue : Nat) (f : Bytes) : Option (Int × Bytes × Nat × Bytes) := do
  let (i, f) ← if residue = 0 then read_int f else some ((residue : Int), f)
  if i ≤ 0 then some (i, [], 0, f)
  else
    let n := min CHUNK_SIZE i.toNat
    if f.length < n then none else some ((n : Int), f.take n, i.toNat - n, f.drop n)

/-! ## The sender -/

/-- What the sender has done so far. -/
structure Sender where
  last_match : Nat := 0
  /-- What was written. -/
  f : Bytes := []
  /-- What was given to `sum_update`. -/
  summed : Bytes := []

/-- The bytes up to `offset`, and then the block `i` unless it is negative. -/
def matched (s : SumStruct) (buf : Bytes) (st : Sender) (offset : Nat) (i : Int) : Sender :=
  let n := offset - st.last_match
  let toklen := if i < 0 then 0 else s.len i.toNat
  { last_match := offset + toklen
    f := st.f ++ simple_send_token i ((buf.drop st.last_match).take n)
    summed := st.summed ++ (buf.drop st.last_match).take (n + toklen) }

def tablesize (count : Nat) : Nat := max (count / 8 * 10 + 11) TRADITIONAL_TABLESIZE

def SUM2HASH2 (s1 s2 : UInt32) : UInt32 := (s1 + s2) &&& 0xffff

def SUM2HASH (sum : UInt32) : UInt32 := SUM2HASH2 (sum &&& 0xffff) (sum >>> 16)

/-- The entry of the table for a checksum, as the table is built. -/
def hashOf (count : Nat) (sum : UInt32) : Nat :=
  if tablesize count = TRADITIONAL_TABLESIZE then (SUM2HASH sum).toNat else sum.toNat % tablesize count

/-- The chains of the table; the block that was entered last comes first. -/
def build_hash_table (s : SumStruct) : Nat → List Nat :=
  (List.range s.count).foldl (fun table i t =>
    if t = hashOf s.count (s.sum1 i) then i :: table t else table t) fun _ => []

/-- The state of the search, at the offset where the checksum is that of the next `k` bytes. -/
structure Search extends Sender where
  offset : Nat
  k : Nat
  want_i : Nat
  s1 : UInt32
  s2 : UInt32

/-- The block to send at this offset, if there is one: the first in its chain, or better the one behind the
block that was sent last. -/
def findMatch (s : SumStruct) (buf : Bytes) (st : Search) : Option Nat :=
  let sum := (st.s1 &&& (0xffff : UInt32)) ||| (st.s2 <<< 16)
  let hash_entry := if tablesize s.count = TRADITIONAL_TABLESIZE then (SUM2HASH2 st.s1 st.s2).toNat
    else sum.toNat % tablesize s.count
  let l := min s.blength (buf.length - st.offset)
  let sum2 := (sums.get_checksum2 ((buf.drop st.offset).take l)).take s.s2length
  let found := (build_hash_table s hash_entry).find? fun i =>
    sum = s.sum1 i ∧ l = s.len i ∧ sum2 = s.sum2 i
  found.map fun i =>
    if i ≠ st.want_i ∧ st.want_i < s.count ∧ sum = s.sum1 st.want_i ∧ sum2 = s.sum2 st.want_i then st.want_i
    else i

/-- A match is sent. The search goes on at its last byte. -/
def sendMatch (s : SumStruct) (buf : Bytes) (st : Search) (i : Nat) : Search :=
  let offset := st.offset + s.len i - 1
  let k := min s.blength (buf.length - offset)
  let sum := get_checksum1 ((buf.drop offset).take k)
  { matched s buf st.toSender st.offset i with
    offset, k, want_i := i + 1, s1 := sum &&& 0xffff, s2 := sum >>> 16 }

/-- The first byte is trimmed off the checksum, and the next one added if there is one. -/
def rollOn (buf : Bytes) (st : Search) : Search :=
  let first := schar (buf.getD st.offset 0)
  let s1 := st.s1 - first
  let s2 := st.s2 - UInt32.ofNat st.k * first
  if st.offset + st.k < buf.length then
    let s1 := s1 + schar (buf.getD (st.offset + st.k) 0)
    { st with offset := st.offset + 1, s1, s2 := s2 + s1 }
  else { st with offset := st.offset + 1, k := st.k - 1, s1, s2 }

/-- Data is sent early if there is much of it. -/
def sendEarly (s : SumStruct) (buf : Bytes) (stop : Nat) (st : Search) : Sender :=
  if st.offset - st.last_match ≥ s.blength + CHUNK_SIZE ∧ stop - st.offset > CHUNK_SIZE then
    matched s buf st.toSender (st.offset - s.blength) (-2)
  else st.toSender

/-- One round of the search. -/
def searchRound (s : SumStruct) (buf : Bytes) (stop : Nat) (st : Search) : Search :=
  let st := match findMatch sums s buf st with
    | none => st
    | some i => sendMatch s buf st i
  { rollOn buf st with toSender := sendEarly s buf stop st }

theorem SumStruct.len_pos (s : SumStruct) (i : Nat) : 0 < s.len i := by
  have hpos := s.blength_pos
  unfold len
  split_ifs with hlast
  · exact Nat.pos_of_ne_zero hlast.2
  · exact hpos

theorem offset_rollOn (buf : Bytes) (st : Search) : (rollOn buf st).offset = st.offset + 1 := by
  unfold rollOn
  dsimp only
  split_ifs
  · rfl
  · rfl

theorem offset_lt_searchRound (s : SumStruct) (buf : Bytes) (stop : Nat) (st : Search) :
    st.offset < (searchRound sums s buf stop st).offset := by
  show st.offset < (rollOn buf _).offset
  rw [offset_rollOn]
  cases findMatch sums s buf st with
  | none => exact Nat.lt_succ_self _
  | some i =>
    have hpos := s.len_pos i
    show st.offset < st.offset + s.len i - 1 + 1
    omega

/-- The loop of `hash_search`. -/
def searchLoop (s : SumStruct) (buf : Bytes) (stop : Nat) (st : Search) : Search :=
  if (searchRound sums s buf stop st).offset < stop then
    searchLoop s buf stop (searchRound sums s buf stop st)
  else searchRound sums s buf stop st
termination_by stop - st.offset
decreasing_by
  have hlt := offset_lt_searchRound sums s buf stop st
  omega

def hash_search (s : SumStruct) (buf : Bytes) : Sender :=
  let k := min buf.length s.blength
  let sum := get_checksum1 (buf.take k)
  let stop := buf.length + 1 - s.len (s.count - 1)
  let st := searchLoop sums s buf stop
    { offset := 0, k, want_i := 0, s1 := sum &&& 0xffff, s2 := sum >>> 16 }
  matched s buf st.toSender buf.length (-1)

/-- The file is sent in pieces if there are no blocks to look for. -/
def sendPieces (s : SumStruct) (buf : Bytes) (st : Sender) : Sender :=
  if st.last_match + CHUNK_SIZE < buf.length then
    sendPieces s buf (matched s buf st (st.last_match + CHUNK_SIZE) (-2))
  else matched s buf st buf.length (-1)
termination_by buf.length - st.last_match
decreasing_by
  show buf.length - (st.last_match + CHUNK_SIZE + 0) < _
  rw [CHUNK_SIZE] at *
  omega

def match_sums (s : SumStruct) (buf : Bytes) : Bytes :=
  let st := if 0 < buf.length ∧ 0 < s.count then hash_search sums s buf else sendPieces s buf {}
  st.f ++ sums.file_sum st.summed

/-! ## The receiver -/

/-- What the receiver has written, and what it has given to `sum_update`. -/
structure Receiver where
  file : Bytes := []
  summed : Bytes := []

theorem simple_recv_token_lt {residue residue' : Nat} {f rest data : Bytes} {i : Int}
    (h : simple_recv_token residue f = some (i, data, residue', rest)) : rest.length < f.length := by
  unfold simple_recv_token read_int at h
  split_ifs at h <;> grind [CHUNK_SIZE]

/-- The loop of `receive_data`, which ends with the token 0. -/
def receiveLoop (s : SumStruct) (basis : Bytes) (residue : Nat) (f : Bytes) (st : Receiver) :
    Option (Receiver × Bytes) :=
  match _h : simple_recv_token residue f with
  | none => none
  | some (i, data, residue, f) =>
    if i = 0 then some (st, f)
    else if i > 0 then receiveLoop s basis residue f { file := st.file ++ data, summed := st.summed ++ data }
    else
      let i := (-(i + 1)).toNat
      -- without an old file there is nothing to map
      let map := if basis = [] then [] else map_ptr basis (i * s.blength) (s.len i)
      receiveLoop s basis residue f { file := st.file ++ map, summed := st.summed ++ map }
termination_by f.length
decreasing_by
  · exact simple_recv_token_lt _h
  · exact simple_recv_token_lt _h

/-- The new file, and whether its checksum is the one that the sender has sent. -/
def receive_data (s : SumStruct) (basis f : Bytes) : Option (Bytes × Bool) := do
  let (st, f) ← receiveLoop s basis 0 f {}
  if f.length < sums.checksum_len then none
  else some (st.file, sums.file_sum st.summed = f.take sums.checksum_len)

end SimpleSshd.Rsync
