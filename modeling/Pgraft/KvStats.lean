import Pgraft.KeyList

/-!
# The store's statistics

`pgraft_kv_stats_sql` copies the store (`pgraft_kv_get_stats`) and prints its six counters
with json-c (`pgraft_json_create_kv_stats`) into a 2048-byte buffer.

`pgraft_kv_get_stats_table` returns the counters as a row with the number of live and deleted
entries among the slots in use, read without the spinlock. On a reachable store the live count
is the number of keys the store maps, each counted once (`stats_table_counts_keys`).
-/

namespace Pgraft

/-! ## The model -/

/-- `pgraft_kv_get_stats`: a copy of the store. -/
def pgraftKvGetStats (s : KvStore) : KvStore := s

/-- The object `pgraft_json_create_kv_stats` builds, its fields in the order they are added. -/
def kvStatsJson (stats : KvStore) : Json :=
  .obj [("num_entries", .int stats.numEntries), ("total_operations", .int stats.totalOperations),
    ("last_applied_index", .int stats.lastAppliedIndex), ("puts", .int stats.puts),
    ("deletes", .int stats.deletes), ("gets", .int stats.gets)]

/-- `pgraft_json_create_kv_stats` into a buffer of `bufferSize` bytes. Its other failures are
json-c allocation failures, left out. -/
def pgraftJsonCreateKvStats (stats : KvStore) (bufferSize : Nat) : Except String String :=
  let jsonString := (kvStatsJson stats).render
  if jsonString.length ≥ bufferSize then .error "pgraft_json: JSON string too long for buffer"
  else .ok jsonString

/-- `pgraft_kv_stats_sql`: the statistics as JSON text. The builder's own `ERROR` ends the call
before the wrapper's message could be raised. -/
def pgraftKvStatsSql (s : KvStore) : Except String String :=
  pgraftJsonCreateKvStats (pgraftKvGetStats s) 2048

/-- A row of `pgraft_kv_get_stats_table`. -/
structure KvStatsRow where
  numEntries : Int
  totalOperations : Int
  lastAppliedIndex : Int
  puts : Int
  deletes : Int
  gets : Int
  activeEntries : Nat
  deletedEntries : Nat
deriving DecidableEq

/-- `pgraft_kv_get_stats_table`: the counters, and the live and deleted entries among the
slots in use. -/
def pgraftKvGetStatsTable (s : KvStore) : KvStatsRow :=
  ⟨s.numEntries, s.totalOperations, s.lastAppliedIndex, s.puts, s.deletes, s.gets,
    s.active.countP (!·.deleted), s.active.countP (·.deleted)⟩

/-! ## The row -/

/-- On a reachable store the row's live count is the number of keys the store maps, each
counted once: the length of any list of them without repeats; with the deleted count it makes
up the slots in use. -/
theorem stats_table_counts_keys {s : KvStore} (hs : KvReachable s) {keys : List String}
    (hk : keys.Nodup) (hm : ∀ k, k ∈ keys ↔ (s.view k).isSome) :
    (pgraftKvGetStatsTable s).activeEntries = keys.length ∧
      (pgraftKvGetStatsTable s).activeEntries + (pgraftKvGetStatsTable s).deletedEntries =
        s.numEntries := by
  have hperm : keys.Perm (liveKeys s) :=
    (List.perm_ext_iff_of_nodup hk (liveKeys_nodup hs.inv)).2 fun k => (hm k).trans mem_liveKeys.symm
  refine ⟨?_, ?_⟩
  · rw [hperm.length_eq, liveKeys, List.length_map]
    exact List.countP_eq_length_filter _ _
  · have h := List.length_eq_countP_add_countP (fun e : KvEntry => e.deleted) s.active
    have hl : s.active.length = s.numEntries := by
      rw [KvStore.active, List.length_take, Nat.min_eq_left hs.inv.numEntries_le_length]
    simp only [Bool.decide_eq_true, Bool.not_eq_true, Bool.decide_eq_false, hl] at h
    simp only [pgraftKvGetStatsTable]
    omega

/-- Two puts and a delete: one live key among two slots in use. -/
theorem stats_table_after_delete :
    let s := (KvOp.delete "a" 3 0).apply ((KvOp.put "b" "2" 2 0).apply
      ((KvOp.put "a" "1" 1 0).apply KvStore.empty))
    (KvReachable s ∧ ["b"].Nodup ∧ ∀ k, k ∈ ["b"] ↔ (s.view k).isSome) ∧
      (pgraftKvGetStatsTable s).activeEntries = ["b"].length ∧
      (pgraftKvGetStatsTable s).activeEntries + (pgraftKvGetStatsTable s).deletedEntries =
        s.numEntries := by
  intro s
  have hs : KvReachable s := .step _ (.step _ (.step _ .empty))
  have hm : ∀ k, k ∈ ["b"] ↔ (s.view k).isSome := fun k => by
    rw [← mem_liveKeys, show liveKeys s = ["b"] by decide]
  exact ⟨⟨hs, by decide, hm⟩, stats_table_counts_keys hs (by decide) hm⟩

end Pgraft
