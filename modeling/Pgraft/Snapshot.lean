import Pgraft.KvMap

/-!
# The store's snapshot file

`pgraft_kv_save_to_disk` writes the whole store to `/tmp/pgraft_kv_store.dat` after every
put, delete and compact: `fopen(path, "wb")`, which creates or truncates the file, one
`fwrite` of the store's bytes, `fclose`. `pgraft_kv_load_from_disk` reads it back when
`pgraft_kv_init_shared_memory` creates the shared memory. The disk is a map from path to
bytes, and a save is the list of the changes it makes to the disk, one byte at a time: the C
library flushes its buffer in pieces, so any prefix of the bytes can be on disk when the
process dies. A crash lets any prefix of a save's steps happen (`crashAfter`), and the restart
creates the shared memory anew.

Every crash after the `fopen` and before the last byte leaves a file shorter than a store,
which the load refuses, so the restart keeps the zeroed store (`init_crashAfter_save`).
Between calls the file is whole (`durable_run_whole`).
-/

namespace Pgraft

/-- The bytes of `pgraft_kv_store_t` as `fwrite` writes them and `fread` reads them back. The
layout is the C compiler's; what the proofs use of it is that every store takes the same
positive number of bytes. -/
structure StoreImage where
  size : Nat
  encode : KvStore → List UInt8
  decode : List UInt8 → KvStore
  length_encode : ∀ s, (encode s).length = size
  size_pos : 0 < size

/-- The disk: the bytes at each path, `none` where there is no file. -/
def Fs := String → Option (List UInt8)

namespace Fs

def set (fs : Fs) (p : String) (bytes : List UInt8) : Fs := fun q => if q = p then some bytes else fs q

def remove (fs : Fs) (p : String) : Fs := fun q => if q = p then none else fs q

@[simp] theorem set_self (fs : Fs) (p : String) (b : List UInt8) : fs.set p b p = some b := if_pos rfl

@[simp] theorem set_set (fs : Fs) (p : String) (a b : List UInt8) : (fs.set p a).set p b = fs.set p b := by
  funext q; by_cases h : q = p <;> simp [set, h]

@[simp] theorem remove_self (fs : Fs) (p : String) : fs.remove p p = none := if_pos rfl

end Fs

/-- `PGRAFT_KV_PERSIST_FILE`. -/
def pgraftKvPersistFile : String := "/tmp/pgraft_kv_store.dat"

/-- One change a file call makes to the disk. -/
inductive FileStep
  | truncate (path : String)
  | append (path : String) (b : UInt8)
  | unlink (path : String)

def FileStep.apply (fs : Fs) : FileStep → Fs
  | .truncate p => fs.set p []
  | .append p b => fs.set p ((fs p).getD [] ++ [b])
  | .unlink p => fs.remove p

/-- The disk after `steps`, in order. -/
def runSteps (fs : Fs) (steps : List FileStep) : Fs := steps.foldl FileStep.apply fs

/-- The disk after a crash that lets the first `k` steps happen. -/
def crashAfter (fs : Fs) (steps : List FileStep) (k : Nat) : Fs := runSteps fs (steps.take k)

/-- The steps of `pgraft_kv_save_to_disk` writing `bytes` to `path`: `fopen(path, "wb")`,
then the bytes of the `fwrite`, in order; `fclose` flushes the last of them. -/
def saveSteps (path : String) (bytes : List UInt8) : List FileStep :=
  .truncate path :: bytes.map (.append path)

/-- `pgraft_kv_save_to_disk` on a disk where the file can be opened. -/
def pgraftKvSaveToDisk (c : StoreImage) (store : KvStore) (path : String) (fs : Fs) : Int × Fs :=
  (0, runSteps fs (saveSteps path (c.encode store)))

/-- `pgraft_kv_load_from_disk`: `-1` and the store unchanged when there is no file or it holds
fewer bytes than a store (`fread` returns `0`); otherwise its first bytes, read as a store. -/
def pgraftKvLoadFromDisk (c : StoreImage) (path : String) (fs : Fs) (store : KvStore) :
    Int × KvStore :=
  match fs path with
  | none => (-1, store)
  | some bytes => if bytes.length < c.size then (-1, store) else (0, c.decode (bytes.take c.size))

/-- `pgraft_kv_init_shared_memory`: shared memory that already exists (`found`) is kept; new
memory is the zeroed store with its defaults, then whatever the snapshot loads. -/
def pgraftKvInitSharedMemory (c : StoreImage) (fs : Fs) : Option KvStore → KvStore
  | some s => s
  | none => (pgraftKvLoadFromDisk c pgraftKvPersistFile fs KvStore.empty).2

/-! ## What a save leaves on disk -/

section Save

variable {c : StoreImage} {fs : Fs} {p : String}

theorem runSteps_appends (bytes : List UInt8) : ∀ pre : List UInt8,
    runSteps (fs.set p pre) (bytes.map (.append p)) = fs.set p (pre ++ bytes) := by
  induction bytes with
  | nil => simp [runSteps]
  | cons b bs ih =>
    intro pre
    have : FileStep.apply (fs.set p pre) (.append p b) = fs.set p (pre ++ [b]) := by
      simp [FileStep.apply]
    simpa [runSteps, this] using ih (pre ++ [b])

/-- A crash inside a save leaves the disk as it was, or with the file holding the first bytes
written. -/
theorem crashAfter_save (bytes : List UInt8) (k : Nat) :
    crashAfter fs (saveSteps p bytes) (k + 1) = fs.set p (bytes.take k) := by
  have := @runSteps_appends fs p (bytes.take k) []
  simpa [crashAfter, saveSteps, runSteps, FileStep.apply, List.map_take] using this

theorem runSteps_save (bytes : List UInt8) : runSteps fs (saveSteps p bytes) = fs.set p bytes := by
  have := @crashAfter_save fs p bytes bytes.length
  rwa [crashAfter, List.take_of_length_le (by simp [saveSteps]), List.take_length] at this

@[simp] theorem pgraftKvSaveToDisk_eq (s : KvStore) :
    pgraftKvSaveToDisk c s p fs = (0, fs.set p (c.encode s)) := by
  simp [pgraftKvSaveToDisk, runSteps_save]

theorem pgraftKvLoadFromDisk_set (bytes : List UInt8) (s : KvStore) :
    pgraftKvLoadFromDisk c p (fs.set p bytes) s =
      if bytes.length < c.size then (-1, s) else (0, c.decode (bytes.take c.size)) := by
  simp [pgraftKvLoadFromDisk]

/-- A whole image loads. -/
theorem pgraftKvLoadFromDisk_image (w s : KvStore) :
    pgraftKvLoadFromDisk c p (fs.set p (c.encode w)) s = (0, c.decode (c.encode w)) := by
  rw [pgraftKvLoadFromDisk_set, if_neg (by rw [c.length_encode]; exact Nat.lt_irrefl _),
    List.take_of_length_le (by rw [c.length_encode])]

end Save

/-- What a restart finds after a crash inside a save of `s`: the old disk's store before the
first step; the zeroed store from the truncation until the last byte; `s`'s image after it. -/
theorem init_crashAfter_save (c : StoreImage) (fs : Fs) (s : KvStore) (k : Nat) :
    pgraftKvInitSharedMemory c (crashAfter fs (saveSteps pgraftKvPersistFile (c.encode s)) k)
        none =
      if k = 0 then pgraftKvInitSharedMemory c fs none
      else if k ≤ c.size then KvStore.empty
      else c.decode (c.encode s) := by
  cases k with
  | zero => rfl
  | succ k =>
    simp only [pgraftKvInitSharedMemory, crashAfter_save, Nat.add_one_ne_zero, if_false]
    by_cases hk : k + 1 ≤ c.size
    · have hshort : ((c.encode s).take k).length < c.size := by
        rw [List.length_take, c.length_encode]; omega
      rw [pgraftKvLoadFromDisk_set, if_pos hshort, if_pos hk]
    · rw [List.take_of_length_le (by rw [c.length_encode]; omega), pgraftKvLoadFromDisk_image,
        if_neg hk]

/-- A save of a new store over a persisted one: right after the `fopen` the file is empty, and a
restart from any crash point before the last byte finds the zeroed store, where a restart
before the save found the persisted one. -/
theorem save_crash_restores_empty (c : StoreImage) (fs : Fs) (sOld sNew : KvStore) :
    let persisted := fs.set pgraftKvPersistFile (c.encode sOld)
    let steps := saveSteps pgraftKvPersistFile (c.encode sNew)
    pgraftKvInitSharedMemory c persisted none = c.decode (c.encode sOld) ∧
      crashAfter persisted steps 1 pgraftKvPersistFile = some [] ∧
      ∀ k, 0 < k → k ≤ c.size →
        pgraftKvInitSharedMemory c (crashAfter persisted steps k) none = KvStore.empty := by
  refine ⟨congrArg Prod.snd (pgraftKvLoadFromDisk_image _ _), by simp [crashAfter_save], fun k hk hks => ?_⟩
  rw [init_crashAfter_save, if_neg (Nat.pos_iff_ne_zero.mp hk), if_pos hks]


/-! ## The store with its file, call after call -/

/-- Two stores that differ at most in the counters a read raises (`gets`,
`total_operations`), which no save follows. -/
structure KvStore.SameButReads (a b : KvStore) : Prop where
  entries : a.entries = b.entries
  numEntries : a.numEntries = b.numEntries
  lastAppliedIndex : a.lastAppliedIndex = b.lastAppliedIndex
  puts : a.puts = b.puts
  deletes : a.deletes = b.deletes

theorem KvStore.SameButReads.refl (a : KvStore) : a.SameButReads a := ⟨rfl, rfl, rfl, rfl, rfl⟩

theorem KvStore.SameButReads.trans {a b d : KvStore} (h : a.SameButReads b)
    (h' : b.SameButReads d) : a.SameButReads d :=
  ⟨h.1.trans h'.1, h.2.trans h'.2, h.3.trans h'.3, h.4.trans h'.4, h.5.trans h'.5⟩

theorem sameButReads_pgraftKvGet (s : KvStore) (k : String) (n : Nat) :
    s.SameButReads (pgraftKvGet s k n).state := by
  unfold pgraftKvGet; split <;> exact ⟨rfl, rfl, rfl, rfl, rfl⟩

theorem pgraftKvReset_eq (s : KvStore) : pgraftKvReset s = KvStore.empty := rfl

/-- The disk changes of a call after its update of the store: put and delete save once they
have written the store (a put that raises and a delete of a missing key return first),
compact always saves, reset unlinks the file; get and exists leave the disk. -/
def KvOp.fileSteps (c : StoreImage) (s : KvStore) : KvOp → List FileStep
  | .put k v l n =>
    if (pgraftKvPut s k v l n).returned = some 0 then
      saveSteps pgraftKvPersistFile (c.encode (pgraftKvPut s k v l n).state)
    else []
  | .delete k l n =>
    if (pgraftKvDelete s k l n).returned = some 0 then
      saveSteps pgraftKvPersistFile (c.encode (pgraftKvDelete s k l n).state)
    else []
  | .get .. | .keyExists _ => []
  | .compact => saveSteps pgraftKvPersistFile (c.encode (pgraftKvCompact s))
  | .reset => [.unlink pgraftKvPersistFile]

/-- A node's store with the disk under it. -/
structure Durable where
  store : KvStore
  fs : Fs

/-- A node started on `fs`: the store `pgraft_kv_init_shared_memory` creates. -/
def Durable.start (c : StoreImage) (fs : Fs) : Durable := ⟨pgraftKvInitSharedMemory c fs none, fs⟩

/-- One call, run to its end. -/
def Durable.step (c : StoreImage) (d : Durable) (op : KvOp) : Durable :=
  ⟨op.apply d.store, runSteps d.fs (op.fileSteps c d.store)⟩

def Durable.run (c : StoreImage) (d : Durable) (ops : List KvOp) : Durable :=
  ops.foldl (Durable.step c) d

/-- The file holds a whole image of a store that differs from the live one at most in its read
counters, or there is no file and that store is the zeroed one. -/
def SnapshotWhole (c : StoreImage) (d : Durable) : Prop :=
  ∃ w, w.SameButReads d.store ∧
    (d.fs pgraftKvPersistFile = some (c.encode w) ∨
      d.fs pgraftKvPersistFile = none ∧ w = KvStore.empty)

section Whole

variable {c : StoreImage} {d : Durable}

theorem SnapshotWhole.saved (s : KvStore) :
    SnapshotWhole c ⟨s, runSteps d.fs (saveSteps pgraftKvPersistFile (c.encode s))⟩ :=
  ⟨s, .refl s, .inl (by simp [runSteps_save])⟩

theorem SnapshotWhole.of_store (h : SnapshotWhole c d) {s : KvStore} (hs : d.store.SameButReads s) :
    SnapshotWhole c ⟨s, d.fs⟩ :=
  let ⟨w, hw, hf⟩ := h; ⟨w, hw.trans hs, hf⟩

theorem SnapshotWhole.step (h : SnapshotWhole c d) : ∀ op, SnapshotWhole c (d.step c op)
  | .put k v l n => by
    by_cases hr : (pgraftKvPut d.store k v l n).returned = some 0
    · simpa [Durable.step, KvOp.fileSteps, hr] using SnapshotWhole.saved (d := d) _
    · simpa [Durable.step, KvOp.fileSteps, KvOp.apply, hr, runSteps,
        pgraftKvPut_state_of_not_ret hr] using h
  | .delete k l n => by
    by_cases hr : (pgraftKvDelete d.store k l n).returned = some 0
    · simpa [Durable.step, KvOp.fileSteps, hr] using SnapshotWhole.saved (d := d) _
    · simpa [Durable.step, KvOp.fileSteps, KvOp.apply, hr, runSteps,
        pgraftKvDelete_state_of_not_ret hr] using h
  | .get k n => h.of_store (sameButReads_pgraftKvGet _ k n)
  | .keyExists _ => h.of_store (.refl _)
  | .compact => SnapshotWhole.saved (d := d) _
  | .reset => ⟨KvStore.empty, .refl _, .inr ⟨Fs.remove_self d.fs pgraftKvPersistFile, rfl⟩⟩

theorem SnapshotWhole.run (h : SnapshotWhole c d) (ops : List KvOp) :
    SnapshotWhole c (d.run c ops) := by
  induction ops generalizing d with
  | nil => exact h
  | cons op ops ih => exact ih (h.step op)

/-- A restart reads back the image of a store that differs from the live one at most in its
read counters. -/
theorem SnapshotWhole.restart (h : SnapshotWhole c d) :
    ∃ w, w.SameButReads d.store ∧
      (pgraftKvInitSharedMemory c d.fs none = c.decode (c.encode w) ∨
        pgraftKvInitSharedMemory c d.fs none = w) := by
  obtain ⟨w, hw, hf | ⟨hf, rfl⟩⟩ := h
  · refine ⟨w, hw, .inl ?_⟩
    have hfs : d.fs = d.fs.set pgraftKvPersistFile (c.encode w) := by
      funext q; by_cases hq : q = pgraftKvPersistFile <;> simp [Fs.set, hq, hf]
    rw [hfs]; exact congrArg Prod.snd (pgraftKvLoadFromDisk_image _ _)
  · exact ⟨_, hw, .inr (by simp [pgraftKvInitSharedMemory, pgraftKvLoadFromDisk, hf])⟩

end Whole

/-- Between calls the snapshot is whole: on a node first started without a snapshot file, after
any calls that each ran to their end, a restart reads back the image of a store equal to the
live one but for its read counters. -/
structure DurableSound (c : StoreImage) (d : Durable) : Prop where
  whole : SnapshotWhole c d
  restart : ∃ w, w.SameButReads d.store ∧
    (pgraftKvInitSharedMemory c d.fs none = c.decode (c.encode w) ∨
      pgraftKvInitSharedMemory c d.fs none = w)

theorem durable_run_whole (c : StoreImage) (fs : Fs) (ops : List KvOp) :
    DurableSound c ((Durable.start c (fs.remove pgraftKvPersistFile)).run c ops) := by
  have h0 : SnapshotWhole c (Durable.start c (fs.remove pgraftKvPersistFile)) :=
    ⟨KvStore.empty, by
      simpa [Durable.start, pgraftKvInitSharedMemory, pgraftKvLoadFromDisk] using
        KvStore.SameButReads.refl _, .inr ⟨Fs.remove_self fs pgraftKvPersistFile, rfl⟩⟩
  exact ⟨h0.run ops, (h0.run ops).restart⟩

end Pgraft
