import Pgraft.Basic

/-!
# The log replication tracker

`pgraft_log.c`: the host-side shadow of the consensus log, an array of entry slots of which
the first `log_size` are in use. An append takes index `last_index + 1`; commit and apply
find a slot by a linear scan for its index and only ever move `commit_index` and
`last_applied` forward; cleanup shifts the array down over every slot below a threshold.
The layout is in `pgraft_log.h`, which is not among the sources: the slot array is taken to
hold the 1000 entries the code's capacity check allows, and `data_size` is a natural number
because the only caller passes `strlen` of the command's data.
-/

namespace Pgraft

/-- `pgraft_log_entry_t`. -/
structure LogEntry where
  index : Int
  term : Int
  timestamp : Int
  data : String
  dataSize : Nat
  committed : Bool
  applied : Bool
deriving DecidableEq, Repr, Inhabited

/-- `pgraft_log_state_t` without its spinlock. -/
structure LogState where
  entries : List LogEntry
  logSize : Nat
  lastIndex : Int
  commitIndex : Int
  lastApplied : Int
  entriesReplicated : Int
  entriesCommitted : Int
  entriesApplied : Int
  replicationErrors : Int
deriving DecidableEq, Repr

/-- The number of slots, and the capacity `pgraft_log_append_entry` checks. -/
def logSlots : Nat := 1000

namespace LogState

/-- The state `pgraft_log_init_shared_memory` creates: everything zero. -/
def init : LogState := ⟨List.replicate logSlots default, 0, 0, 0, 0, 0, 0, 0, 0⟩

/-- `entries[i]`. -/
def slot (st : LogState) (i : Nat) : LogEntry := st.entries.getD i default

/-- `entries[0 .. log_size)`. -/
def stored (st : LogState) : List LogEntry := st.entries.take st.logSize

/-- The scan of commit, apply and get-entry: the first stored slot with the index. -/
def find (st : LogState) (index : Int) : Option Nat := st.stored.findIdx? (·.index == index)

end LogState

/-- `pgraft_log_append_entry`. -/
def pgraftLogAppendEntry (st : LogState) (term : Int) (data : String) (dataSize : Nat)
    (now : Int) : Call LogState Int :=
  if dataSize > 1024 then
    .raise ("pgraft: data size " ++ toString dataSize ++ " exceeds maximum 1024") st
  else if st.logSize ≥ 1000 then .raise "pgraft: log is full (1000 entries)" st
  else
    .ret 0 { st with
      entries := st.entries.set st.logSize
        ⟨st.lastIndex + 1, term, now, ⟨data.data.take dataSize⟩, dataSize, false, false⟩
      logSize := st.logSize + 1
      lastIndex := st.lastIndex + 1 }

/-- `pgraft_log_commit_entry`: `-1` when no stored slot has the index. -/
def pgraftLogCommitEntry (st : LogState) (index : Int) : Call LogState Int :=
  match st.find index with
  | none => .ret (-1) st
  | some i =>
    .ret 0 { st with
      entries := st.entries.set i { (st.slot i) with committed := true }
      commitIndex := if index > st.commitIndex then index else st.commitIndex
      entriesCommitted := st.entriesCommitted + 1 }

/-- `pgraft_log_apply_entry`: `-1` when no stored slot has the index or it is not
committed. -/
def pgraftLogApplyEntry (st : LogState) (index : Int) : Call LogState Int :=
  match st.find index with
  | none => .ret (-1) st
  | some i =>
    if !(st.slot i).committed then .ret (-1) st
    else
      .ret 0 { st with
        entries := st.entries.set i { (st.slot i) with applied := true }
        lastApplied := if index > st.lastApplied then index else st.lastApplied
        entriesApplied := st.entriesApplied + 1 }

/-- `pgraft_log_get_entry`. -/
def pgraftLogGetEntry (st : LogState) (index : Int) : Option LogEntry :=
  (st.find index).map st.slot

/-- `pgraft_log_replicate_to_node`: count the stored entries from `fromIndex` on. -/
def pgraftLogReplicateToNode (st : LogState) (fromIndex : Int) : LogState :=
  { st with entriesReplicated :=
      st.entriesReplicated + (st.stored.countP (fun e => decide (e.index ≥ fromIndex)) : Nat) }

/-- The inner loop of `pgraft_log_cleanup_old_entries`: `entries[j] = entries[j + 1]` for
`n` consecutive `j` from the given one. -/
def shiftDown : List LogEntry → Nat → Nat → List LogEntry
  | es, _, 0 => es
  | es, j, n + 1 => shiftDown (es.set j (es.getD (j + 1) default)) (j + 1) n

/-- The outer loop of `pgraft_log_cleanup_old_entries` at slot `i` with `size` slots in use.
A removal shifts the tail down, shrinks `size` and visits slot `i` again (the `i--` before
the loop's `i++`); `size - i` falls on both paths. -/
def cleanupLoop (before : Int) (es : List LogEntry) (i size : Nat) : List LogEntry × Nat :=
  if i < size then
    if (es.getD i default).index < before then
      cleanupLoop before (shiftDown es i (size - 1 - i)) i (size - 1)
    else cleanupLoop before es (i + 1) size
  else (es, size)
termination_by size - i

/-- `pgraft_log_cleanup_old_entries`. -/
def pgraftLogCleanupOldEntries (st : LogState) (beforeIndex : Int) : LogState :=
  let r := cleanupLoop beforeIndex st.entries 0 st.logSize
  { st with entries := r.1, logSize := r.2 }

/-- `pgraft_log_reset`: the slots stay as they are. -/
def pgraftLogReset (st : LogState) : LogState :=
  { st with logSize := 0, lastIndex := 0, commitIndex := 0, lastApplied := 0,
            entriesReplicated := 0, entriesCommitted := 0, entriesApplied := 0,
            replicationErrors := 0 }

end Pgraft
