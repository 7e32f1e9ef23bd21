import Pgraft.Basic

/-!
# The key/value store

`pgraft_kv.c`: a shared-memory array of 1000 entry slots, of which the first `num_entries`
are in use. A key is found by a linear scan for a slot that is not deleted and holds the
key; a delete only marks its slot (a tombstone), which stays in place until
`pgraft_kv_compact` moves the live slots down. Each function here is the part of its C
namesake that runs under the store's spinlock; the snapshot written after it is in
`Pgraft.Snapshot`. `now` is the value `GetCurrentTimestamp()` returns during the call.
-/

namespace Pgraft

/-- `pgraft_kv_entry_t`. The all-zero slot is `default`. -/
structure KvEntry where
  key : String
  value : String
  version : Int
  createdAt : Int
  updatedAt : Int
  logIndex : Int
  deleted : Bool
deriving DecidableEq, Repr, Inhabited

/-- `pgraft_kv_store_t` without its spinlock. -/
structure KvStore where
  entries : List KvEntry
  numEntries : Nat
  totalOperations : Int
  lastAppliedIndex : Int
  puts : Int
  deletes : Int
  gets : Int
deriving DecidableEq, Repr

/-- The length of `entries`. -/
def kvSlots : Nat := 1000

namespace KvStore

/-- The store `pgraft_kv_init_shared_memory` creates: `memset` to zero, then the defaults. -/
def empty : KvStore := ⟨List.replicate kvSlots default, 0, 0, 0, 0, 0, 0⟩

/-- `entries[i]`. -/
def slot (s : KvStore) (i : Nat) : KvEntry := s.entries.getD i default

/-- `entries[0 .. num_entries)`, the slots every scan visits. -/
def active (s : KvStore) : List KvEntry := s.entries.take s.numEntries

/-- Overwrite `entries[i]`. -/
def setSlot (s : KvStore) (i : Nat) (e : KvEntry) : KvStore := { s with entries := s.entries.set i e }

/-- The counters a successful put updates. -/
def recordPut (s : KvStore) (logIndex : Int) : KvStore :=
  { s with puts := s.puts + 1, totalOperations := s.totalOperations + 1,
           lastAppliedIndex := logIndex }

/-- The counters a successful delete updates. -/
def recordDelete (s : KvStore) (logIndex : Int) : KvStore :=
  { s with deletes := s.deletes + 1, totalOperations := s.totalOperations + 1,
           lastAppliedIndex := logIndex }

@[simp] theorem setSlot_entries (s : KvStore) (i : Nat) (e : KvEntry) :
    (s.setSlot i e).entries = s.entries.set i e := rfl
@[simp] theorem setSlot_numEntries (s : KvStore) (i : Nat) (e : KvEntry) :
    (s.setSlot i e).numEntries = s.numEntries := rfl
@[simp] theorem recordPut_entries (s : KvStore) (l : Int) : (s.recordPut l).entries = s.entries := rfl
@[simp] theorem recordPut_numEntries (s : KvStore) (l : Int) :
    (s.recordPut l).numEntries = s.numEntries := rfl
@[simp] theorem recordPut_lastAppliedIndex (s : KvStore) (l : Int) :
    (s.recordPut l).lastAppliedIndex = l := rfl
@[simp] theorem recordDelete_entries (s : KvStore) (l : Int) :
    (s.recordDelete l).entries = s.entries := rfl
@[simp] theorem recordDelete_numEntries (s : KvStore) (l : Int) :
    (s.recordDelete l).numEntries = s.numEntries := rfl
@[simp] theorem recordDelete_lastAppliedIndex (s : KvStore) (l : Int) :
    (s.recordDelete l).lastAppliedIndex = l := rfl

end KvStore

/-- The test of `pgraft_kv_find_entry_index`: a slot that is not deleted and holds `key`. -/
def KvEntry.liveWith (key : String) (e : KvEntry) : Bool := !e.deleted && e.key == key

/-- `pgraft_kv_find_entry_index`: the first live slot holding `key`, or `-1` (`none`). -/
def pgraftKvFindEntryIndex (s : KvStore) (key : String) : Option Nat :=
  s.active.findIdx? (KvEntry.liveWith key)

/-- `pgraft_kv_put`. Both copies are `strncpy`s to the field size; the length checks
before them make the copies whole. -/
def pgraftKvPut (s : KvStore) (key value : String) (logIndex now : Int) : Call KvStore Int :=
  if 256 ≤ key.length then
    .raise ("pgraft_kv: key too long (max 255 characters, got " ++ toString key.length ++ ")") s
  else if 1024 ≤ value.length then
    .raise ("pgraft_kv: value too long (max 1023 characters, got " ++
      toString value.length ++ ")") s
  else
    match pgraftKvFindEntryIndex s key with
    | some i =>
      .ret 0 ((s.setSlot i { (s.slot i) with
        value := strncpyField 1024 value, version := (s.slot i).version + 1,
        updatedAt := now, logIndex := logIndex, deleted := false }).recordPut logIndex)
    | none =>
      if 1000 ≤ s.numEntries then .raise "pgraft_kv: key/value store is full (1000 entries)" s
      else
        .ret 0 ({ s.setSlot s.numEntries
          ⟨strncpyField 256 key, strncpyField 1024 value, 1, now, now, logIndex, false⟩ with
          numEntries := s.numEntries + 1 }.recordPut logIndex)

/-- `pgraft_kv_get` into a caller's buffer of `valueSize` bytes: `none` is the `-1` of a
missing key, otherwise the copied value and the version. -/
def pgraftKvGet (s : KvStore) (key : String) (valueSize : Nat) :
    Call KvStore (Option (String × Int)) :=
  match pgraftKvFindEntryIndex s key with
  | none => .ret none s
  | some i =>
    .ret (some (strncpyField valueSize (s.slot i).value, (s.slot i).version))
      { s with gets := s.gets + 1, totalOperations := s.totalOperations + 1 }

/-- `pgraft_kv_delete`: mark the live slot deleted, or return `-1` when there is none. -/
def pgraftKvDelete (s : KvStore) (key : String) (logIndex now : Int) : Call KvStore Int :=
  match pgraftKvFindEntryIndex s key with
  | none => .ret (-1) s
  | some i =>
    .ret 0 ((s.setSlot i { (s.slot i) with
      deleted := true, updatedAt := now, logIndex := logIndex,
      version := (s.slot i).version + 1 }).recordDelete logIndex)

/-- `pgraft_kv_exists`. -/
def pgraftKvExists (s : KvStore) (key : String) : Bool := (pgraftKvFindEntryIndex s key).isSome

/-- The first loop of `pgraft_kv_compact`, from slot `i` with `j` live slots kept so far and
`n` slots left to visit: each live slot is copied down to slot `j`. -/
def compactMove : List KvEntry → Nat → Nat → Nat → List KvEntry × Nat
  | es, _, j, 0 => (es, j)
  | es, i, j, n + 1 =>
    if (es.getD i default).deleted then compactMove es (i + 1) j n
    else compactMove (if i ≠ j then es.set j (es.getD i default) else es) (i + 1) (j + 1) n

/-- The second loop of `pgraft_kv_compact`: zero `n` slots from slot `i`. -/
def compactClear : List KvEntry → Nat → Nat → List KvEntry
  | es, _, 0 => es
  | es, i, n + 1 => compactClear (es.set i default) (i + 1) n

/-- `pgraft_kv_compact`. -/
def pgraftKvCompact (s : KvStore) : KvStore :=
  let moved := compactMove s.entries 0 0 s.numEntries
  { s with entries := compactClear moved.1 moved.2 (s.numEntries - moved.2),
           numEntries := moved.2 }

/-- `pgraft_kv_reset`: zero every slot and every counter. -/
def pgraftKvReset (s : KvStore) : KvStore :=
  { s with entries := List.replicate kvSlots default, numEntries := 0, totalOperations := 0,
           lastAppliedIndex := 0, puts := 0, deletes := 0, gets := 0 }

/-- `pgraft_kv_put_local`, the apply path's put: it passes `0` as the log index. -/
def pgraftKvPutLocal (s : KvStore) (key value : String) (now : Int) : Call KvStore Int :=
  pgraftKvPut s key value 0 now

/-- `pgraft_kv_delete_local`, the apply path's delete: it passes `0` as the log index. -/
def pgraftKvDeleteLocal (s : KvStore) (key : String) (now : Int) : Call KvStore Int :=
  pgraftKvDelete s key 0 now

end Pgraft
