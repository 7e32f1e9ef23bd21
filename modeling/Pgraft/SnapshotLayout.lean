import Pgraft.Snapshot
import Mathlib.Algebra.Group.Int

/-!
# The snapshot file's bytes

`pgraft_kv_save_to_disk` writes `sizeof(pgraft_kv_store_t)` bytes from the store's address,
and `pgraft_kv_load_from_disk` reads that many bytes into a local struct, then copies every
field but the spinlock. On x86-64 the struct is laid out as `pgraft_kv.h` declares it:

* an entry is 1320 bytes: `key[256]`, `value[1024]`, the four `int64_t` at offsets 1280,
  1288, 1296 and 1304, the `bool` at 1312, then 7 bytes of padding;
* the store is 1320056 bytes: the 1000 entries, `int32_t num_entries` and 4 bytes of padding,
  the five `int64_t` counters, the one-byte `slock_t`, held while the bytes are written, and
  7 bytes of padding.

Integers are little-endian two's complement. A `char[]` field is read as the C string before
its first NUL. `cLayout` is this layout as a `StoreImage`. A store whose values the struct can
hold (`KvStore.Representable`), and which has the shape every call keeps (`KvStore.Inv`),
reads back unchanged (`decodeStore_encodeStore`). So the snapshot of every reachable store
loads back as that store (`snapshot_round_trip`).
-/

namespace Pgraft

/-! ## Fields -/

/-- `w` bytes of `n`, least significant first: `n` modulo `2^(8w)`. -/
def leBytes : Nat → Nat → List UInt8
  | 0, _ => []
  | w + 1, n => (n % 256).toUInt8 :: leBytes w (n / 256)

/-- The number little-endian bytes hold. -/
def leValue : List UInt8 → Nat
  | [] => 0
  | b :: bs => b.toNat + 256 * leValue bs

/-- An `int64_t` field. -/
def int64Bytes (n : Int) : List UInt8 := leBytes 8 (n % 2 ^ 64).toNat

/-- An `int64_t` field read back. -/
def readInt64 (bs : List UInt8) : Int := (leValue bs : Int).bmod (2 ^ 64)

/-- A `char[size]` field holding `s`: its bytes, NUL-padded to `size`. -/
def charField (size : Nat) (s : String) : List UInt8 :=
  (s.data.map (fun c : Char => c.toNat.toUInt8) ++ List.replicate size 0).take size

/-- A `char[]` field read as a C string. -/
def readCharField (bs : List UInt8) : String :=
  ⟨(bs.takeWhile (· ≠ 0)).map fun b => Char.ofNat b.toNat⟩

/-! ## The struct -/

/-- The 1320 bytes of `pgraft_kv_entry_t`. -/
def encodeEntry (e : KvEntry) : List UInt8 :=
  charField 256 e.key ++ (charField 1024 e.value ++ (int64Bytes e.version ++
    (int64Bytes e.createdAt ++ (int64Bytes e.updatedAt ++ (int64Bytes e.logIndex ++
      ((if e.deleted then 1 else 0) :: List.replicate 7 0))))))

/-- An entry read from its bytes, field after field. -/
def decodeEntry (bs : List UInt8) : KvEntry :=
  let (key, bs) := bs.splitAt 256
  let (value, bs) := bs.splitAt 1024
  let (version, bs) := bs.splitAt 8
  let (createdAt, bs) := bs.splitAt 8
  let (updatedAt, bs) := bs.splitAt 8
  let (logIndex, bs) := bs.splitAt 8
  ⟨readCharField key, readCharField value, readInt64 version, readInt64 createdAt,
    readInt64 updatedAt, readInt64 logIndex, bs.headD 0 != 0⟩

/-- The 1000 slots of `entries[]`. -/
def entrySlots (es : List KvEntry) : List KvEntry := (List.range kvSlots).map (es.getD · default)

/-- The bytes `fwrite` takes from the store. -/
def encodeStore (s : KvStore) : List UInt8 :=
  (entrySlots s.entries).flatMap encodeEntry ++ (leBytes 4 s.numEntries ++
    (List.replicate 4 0 ++ (int64Bytes s.totalOperations ++ (int64Bytes s.lastAppliedIndex ++
      (int64Bytes s.puts ++ (int64Bytes s.deletes ++ (int64Bytes s.gets ++
        (1 :: List.replicate 7 0))))))))

/-- `n` entries of 1320 bytes each. -/
def decodeEntries : Nat → List UInt8 → List KvEntry
  | 0, _ => []
  | n + 1, bs => decodeEntry (bs.take 1320) :: decodeEntries n (bs.drop 1320)

/-- The store `pgraft_kv_load_from_disk` copies out of the bytes `fread` filled. -/
def decodeStore (bs : List UInt8) : KvStore :=
  let (entries, bs) := bs.splitAt (kvSlots * 1320)
  let (numEntries, bs) := bs.splitAt 4
  let (totalOperations, bs) := (bs.drop 4).splitAt 8
  let (lastAppliedIndex, bs) := bs.splitAt 8
  let (puts, bs) := bs.splitAt 8
  let (deletes, bs) := bs.splitAt 8
  ⟨decodeEntries kvSlots entries, ((leValue numEntries : Int).bmod (2 ^ 32)).toNat,
    readInt64 totalOperations, readInt64 lastAppliedIndex, readInt64 puts, readInt64 deletes,
    readInt64 (bs.take 8)⟩

/-! ## Lengths -/

theorem length_leBytes : ∀ (w n : Nat), (leBytes w n).length = w
  | 0, _ => rfl
  | w + 1, n => by rw [leBytes, List.length_cons, length_leBytes]

@[simp] theorem length_int64Bytes (n : Int) : (int64Bytes n).length = 8 := length_leBytes 8 _

@[simp] theorem length_charField (size : Nat) (s : String) : (charField size s).length = size := by
  simp [charField]

@[simp] theorem length_encodeEntry (e : KvEntry) : (encodeEntry e).length = 1320 := by
  simp [encodeEntry, length_leBytes]

theorem length_flatMap_encodeEntry : ∀ l : List KvEntry,
    (l.flatMap encodeEntry).length = l.length * 1320
  | [] => rfl
  | e :: l => by
    rw [List.flatMap_cons, List.length_append, length_encodeEntry, length_flatMap_encodeEntry l,
      List.length_cons, Nat.succ_mul, Nat.add_comm]

theorem length_entrySlots (es : List KvEntry) : (entrySlots es).length = kvSlots := by
  simp [entrySlots]

theorem length_encodeStore (s : KvStore) : (encodeStore s).length = 1320056 := by
  simp only [encodeStore, List.length_append, length_flatMap_encodeEntry, length_entrySlots,
    length_leBytes, length_int64Bytes, List.length_replicate, List.length_cons, kvSlots]

/-- The layout of `pgraft_kv_store_t` on x86-64. -/
def cLayout : StoreImage where
  size := 1320056
  encode := encodeStore
  decode := decodeStore
  length_encode := length_encodeStore
  size_pos := by decide

@[simp] theorem cLayout_encode : cLayout.encode = encodeStore := rfl
@[simp] theorem cLayout_decode : cLayout.decode = decodeStore := rfl

/-! ## Reading back -/

theorem splitAt_append_of_length {α : Type} {a b : List α} {n : Nat} (h : a.length = n) :
    (a ++ b).splitAt n = (a, b) := by
  rw [List.splitAt_eq, List.take_left' h, List.drop_left' h]

theorem toNat_toUInt8 (n : Nat) : n.toUInt8.toNat = n % 256 := by
  simp [Nat.toUInt8, UInt8.ofNat, UInt8.toNat, BitVec.toNat_ofNat]

theorem leValue_leBytes : ∀ (w n : Nat), leValue (leBytes w n) = n % 256 ^ w
  | 0, n => by simp [leBytes, leValue, Nat.mod_one]
  | w + 1, n => by
    rw [leBytes, leValue, toNat_toUInt8, leValue_leBytes w, Nat.mod_mod, Nat.pow_succ',
      Nat.mod_mul]

/-- A value of an `int64_t`. -/
def IsInt64 (n : Int) : Prop := -2 ^ 63 ≤ n ∧ n < 2 ^ 63

theorem readInt64_int64Bytes {n : Int} (h : IsInt64 n) : readInt64 (int64Bytes n) = n := by
  have hn : ((n % 2 ^ 64).toNat : Int) = n % 2 ^ 64 :=
    Int.toNat_of_nonneg (Int.emod_nonneg _ (by decide))
  obtain ⟨h₁, h₂⟩ := h
  have hlt : (n % 2 ^ 64).toNat < 256 ^ 8 := by omega
  rw [readInt64, int64Bytes, leValue_leBytes, Nat.mod_eq_of_lt hlt, hn]
  unfold Int.bmod; dsimp only; split <;> omega

/-- A string a `char[]` field holds as a C string: bytes other than NUL. -/
def IsCBytes (s : String) : Prop := ∀ c ∈ s.data, 0 < c.toNat ∧ c.toNat < 256

theorem readCharField_charField {size : Nat} {s : String} (hs : IsCBytes s)
    (hl : s.length < size) : readCharField (charField size s) = s := by
  have hlen : (s.data.map (·.toNat.toUInt8)).length < size := by simpa using hl
  have hpad : charField size s =
      s.data.map (·.toNat.toUInt8) ++ 0 :: List.replicate (size - s.length - 1) 0 := by
    rw [charField, List.take_append_eq_append_take, List.take_of_length_le hlen.le,
      List.take_replicate, List.length_map, ← List.replicate_succ]
    congr 2
    simp only [String.length] at hl ⊢
    omega
  have hbyte : ∀ c ∈ s.data, (c.toNat.toUInt8 ≠ 0) := fun c hc h0 => by
    have := congrArg UInt8.toNat h0
    rw [toNat_toUInt8, Nat.mod_eq_of_lt (hs c hc).2] at this
    exact absurd this (hs c hc).1.ne'
  have hmap : ((s.data.map fun c => c.toNat.toUInt8).map fun b => Char.ofNat b.toNat) = s.data := by
    conv_rhs => rw [← List.map_id s.data]
    rw [List.map_map]
    exact List.map_congr_left fun c hc => by
      simp [toNat_toUInt8, Nat.mod_eq_of_lt (hs c hc).2, Char.ofNat_toNat]
  rw [hpad, readCharField, List.takeWhile_append_of_pos (by simpa using hbyte)]
  simp only [List.takeWhile_cons, ne_eq, not_true_eq_false, decide_False, Bool.false_eq_true,
    if_false, List.append_nil, hmap]

/-- The values of an entry its C struct can hold. -/
structure KvEntry.Representable (e : KvEntry) : Prop where
  key : IsCBytes e.key
  value : IsCBytes e.value
  version : IsInt64 e.version
  createdAt : IsInt64 e.createdAt
  updatedAt : IsInt64 e.updatedAt
  logIndex : IsInt64 e.logIndex

/-- The values of a store its C struct can hold: every entry's, and the five counters as
`int64_t`. -/
structure KvStore.Representable (s : KvStore) : Prop where
  entries : ∀ e ∈ s.entries, e.Representable
  totalOperations : IsInt64 s.totalOperations
  lastAppliedIndex : IsInt64 s.lastAppliedIndex
  puts : IsInt64 s.puts
  deletes : IsInt64 s.deletes
  gets : IsInt64 s.gets

theorem decodeEntry_encodeEntry {e : KvEntry} (he : e.Representable) (hk : e.key.length < 256)
    (hv : e.value.length < 1024) : decodeEntry (encodeEntry e) = e := by
  obtain ⟨key, value, version, createdAt, updatedAt, logIndex, deleted⟩ := e
  simp only [decodeEntry, encodeEntry, splitAt_append_of_length (length_charField _ _),
    splitAt_append_of_length (length_int64Bytes _), readCharField_charField he.key hk,
    readCharField_charField he.value hv, readInt64_int64Bytes he.version,
    readInt64_int64Bytes he.createdAt, readInt64_int64Bytes he.updatedAt,
    readInt64_int64Bytes he.logIndex, List.headD_cons]
  cases deleted <;> rfl

theorem decodeEntries_flatMap : ∀ l : List KvEntry,
    decodeEntries l.length (l.flatMap encodeEntry) = l.map fun e => decodeEntry (encodeEntry e)
  | [] => rfl
  | e :: l => by
    rw [List.flatMap_cons, List.length_cons, decodeEntries, List.take_left' (length_encodeEntry e),
      List.drop_left' (length_encodeEntry e), decodeEntries_flatMap l, List.map_cons]

theorem entrySlots_of_length {es : List KvEntry} (h : es.length = kvSlots) : entrySlots es = es := by
  apply List.ext_getElem
  · rw [length_entrySlots, h]
  · intro i _ h₂
    simp [entrySlots, List.getD_eq_getElem?_getD, List.getElem?_eq_getElem h₂]

/-- Every slot, in use or not, holds a key and a value its fields can hold. -/
theorem KvStore.Inv.fits_entries {s : KvStore} (hs : s.Inv) :
    ∀ e ∈ s.entries, e.key.length < 256 ∧ e.value.length < 1024 := by
  intro e he
  obtain ⟨i, hi, rfl⟩ := List.getElem_of_mem he
  by_cases hn : i < s.numEntries
  · exact hs.fits _ (List.mem_iff_getElem.mpr
      ⟨i, by simp [KvStore.active]; omega, by simp [KvStore.active]⟩)
  · have h := hs.zero_tail i (by omega)
    rw [KvStore.slot, List.getD_eq_getElem?_getD, List.getElem?_eq_getElem hi, Option.getD_some] at h
    rw [h]
    exact ⟨by decide, by decide⟩

/-- A store with the shape every call keeps and values its struct can hold reads back from its
bytes unchanged. -/
theorem decodeStore_encodeStore {s : KvStore} (hs : s.Inv) (hr : s.Representable) :
    decodeStore (encodeStore s) = s := by
  have hlen : ((entrySlots s.entries).flatMap encodeEntry).length = kvSlots * 1320 := by
    rw [length_flatMap_encodeEntry, length_entrySlots]
  have hentries : decodeEntries kvSlots ((entrySlots s.entries).flatMap encodeEntry) = s.entries := by
    rw [← length_entrySlots s.entries, decodeEntries_flatMap, entrySlots_of_length hs.length_entries]
    conv_rhs => rw [← List.map_id s.entries]
    exact List.map_congr_left fun e he => decodeEntry_encodeEntry (hr.entries e he)
      (hs.fits_entries e he).1 (hs.fits_entries e he).2
  have hnum : ((leValue (leBytes 4 s.numEntries) : Int).bmod (2 ^ 32)).toNat = s.numEntries := by
    have h := hs.numEntries_le
    rw [kvSlots] at h
    rw [leValue_leBytes, Nat.mod_eq_of_lt (by omega)]
    unfold Int.bmod; dsimp only; split <;> omega
  simp only [decodeStore, encodeStore, splitAt_append_of_length hlen,
    splitAt_append_of_length (length_leBytes 4 _), List.drop_left' (List.length_replicate 4 _),
    splitAt_append_of_length (length_int64Bytes _), List.take_left' (length_int64Bytes _),
    hentries, hnum, readInt64_int64Bytes hr.totalOperations,
    readInt64_int64Bytes hr.lastAppliedIndex, readInt64_int64Bytes hr.puts,
    readInt64_int64Bytes hr.deletes, readInt64_int64Bytes hr.gets]

/-- The snapshot of a reachable store whose values the struct can hold loads back as that
store: through `pgraft_kv_load_from_disk` into a fresh store, and through
`pgraft_kv_init_shared_memory` at a restart. -/
theorem snapshot_round_trip {s : KvStore} (hs : KvReachable s) (hr : s.Representable) (fs : Fs) :
    let disk := (pgraftKvSaveToDisk cLayout s pgraftKvPersistFile fs).2
    pgraftKvLoadFromDisk cLayout pgraftKvPersistFile disk KvStore.empty = (0, s) ∧
      pgraftKvInitSharedMemory cLayout disk none = s := by
  intro disk
  have hl : pgraftKvLoadFromDisk cLayout pgraftKvPersistFile disk KvStore.empty = (0, s) := by
    have hd : disk = fs.set pgraftKvPersistFile (cLayout.encode s) := by
      simp only [disk, pgraftKvSaveToDisk_eq]
    rw [hd, pgraftKvLoadFromDisk_image, cLayout_decode, cLayout_encode,
      decodeStore_encodeStore hs.inv hr]
  exact ⟨hl, congrArg Prod.snd hl⟩

/-- A store holding one key, saved over an empty disk and loaded back. -/
theorem snapshot_round_trip_one_key :
    let s := (KvOp.put "k" "v" 7 100).apply KvStore.empty
    let disk := (pgraftKvSaveToDisk cLayout s pgraftKvPersistFile (fun _ => none)).2
    pgraftKvLoadFromDisk cLayout pgraftKvPersistFile disk KvStore.empty = (0, s) ∧
      pgraftKvInitSharedMemory cLayout disk none = s := by
  intro s disk
  have hent : s.entries = (List.replicate kvSlots default).set 0 ⟨"k", "v", 1, 100, 100, 7, false⟩ :=
    rfl
  have hr : s.Representable :=
    { entries := fun e he => by
        rw [hent] at he
        rcases List.mem_or_eq_of_mem_set he with he | rfl
        · rw [List.eq_of_mem_replicate he]
          exact ⟨fun _ h => (nomatch h), fun _ h => (nomatch h), by unfold IsInt64; decide,
            by unfold IsInt64; decide, by unfold IsInt64; decide, by unfold IsInt64; decide⟩
        · exact ⟨by unfold IsCBytes; decide, by unfold IsCBytes; decide, by unfold IsInt64; decide,
            by unfold IsInt64; decide, by unfold IsInt64; decide, by unfold IsInt64; decide⟩
      totalOperations := by unfold IsInt64; decide
      lastAppliedIndex := by unfold IsInt64; decide
      puts := by unfold IsInt64; decide
      deletes := by unfold IsInt64; decide
      gets := by unfold IsInt64; decide }
  exact snapshot_round_trip (.step _ .empty) hr _

end Pgraft
