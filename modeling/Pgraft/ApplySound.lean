import Pgraft.Apply
import Pgraft.KvMap

/-!
# What an apply does with the applied index

`pgraft_apply_entry_to_postgres` never compares the entry's raft index with the recorded
`last_applied_index`. On the key/value path the store it leaves and the code it returns are
the same whatever that index was, and a failed apply leaves the node as it was; on either path
a successful apply sets the index to the entry's raft index, also below its old value
(`apply_ignores_applied_index`). So a put delivered twice is applied twice
(`apply_redelivered_put_applies_again`). The SQL path is not atomic: the statements
`SPI_execute` ran before an `ERROR` or a negative code keep what they wrote
(`apply_failure_atomic`, `sql_apply_keeps_partial_put`). The key/value path goes through
`pgraft_kv_put_local` and `pgraft_kv_delete_local`, which pass `0` as the log index: the
store's own `last_applied_index`, the one its snapshot keeps, and the slot the operation
writes both hold `0` after any successful key/value apply (`apply_kv_records_index_zero`).
-/

namespace Pgraft

/-! ## The store's record of a write -/

section Stamps

variable {s : KvStore} {k v : String} {li now : Int}

theorem KvStore.slot_setSlot_cases (s : KvStore) (i j : Nat) (e : KvEntry) :
    (s.setSlot i e).slot j = e ∨ (s.setSlot i e).slot j = s.slot j := by
  by_cases hi : i < s.entries.length
  · rw [KvStore.slot_setSlot hi]; split_ifs <;> simp
  · right; simp [KvStore.slot, List.set_eq_of_length_le (Nat.le_of_not_lt hi)]

/-- A write that overwrites one slot with an entry stamped `li` leaves every slot it changed
stamped `li`. -/
theorem KvStore.logIndex_setSlot {s : KvStore} {i j : Nat} {e : KvEntry} {li : Int}
    (he : e.logIndex = li) (hj : ((s.setSlot i e).slot j).logIndex ≠ (s.slot j).logIndex) :
    ((s.setSlot i e).slot j).logIndex = li := by
  rcases KvStore.slot_setSlot_cases s i j e with h | h <;> rw [h] at hj ⊢
  · exact he
  · exact absurd rfl hj

/-- A put that returns `0` stamps the store, and the one slot it writes, with its log index. -/
theorem pgraftKvPut_stamps (h : (pgraftKvPut s k v li now).returned = some 0) :
    (pgraftKvPut s k v li now).state.lastAppliedIndex = li ∧
    ∀ j, ((pgraftKvPut s k v li now).state.slot j).logIndex ≠ (s.slot j).logIndex →
      ((pgraftKvPut s k v li now).state.slot j).logIndex = li := by
  unfold pgraftKvPut at h ⊢
  by_cases hk : 256 ≤ k.length
  · simp [hk] at h
  by_cases hv : 1024 ≤ v.length
  · simp [hk, hv] at h
  simp only [hk, hv, if_false] at h ⊢
  cases hf : pgraftKvFindEntryIndex s k with
  | some i => exact ⟨rfl, fun j hj => KvStore.logIndex_setSlot rfl (by simpa using hj)⟩
  | none =>
    by_cases hn : 1000 ≤ s.numEntries
    · simp [hf, hn] at h
    simp only [hn, if_false]
    exact ⟨rfl, fun j hj => KvStore.logIndex_setSlot (s := s) rfl (by simpa using hj)⟩

/-- A delete that returns `0` does the same. -/
theorem pgraftKvDelete_stamps (h : (pgraftKvDelete s k li now).returned = some 0) :
    (pgraftKvDelete s k li now).state.lastAppliedIndex = li ∧
    ∀ j, ((pgraftKvDelete s k li now).state.slot j).logIndex ≠ (s.slot j).logIndex →
      ((pgraftKvDelete s k li now).state.slot j).logIndex = li := by
  unfold pgraftKvDelete at h ⊢
  cases hf : pgraftKvFindEntryIndex s k with
  | none => simp [hf] at h
  | some i => exact ⟨rfl, fun j hj => KvStore.logIndex_setSlot rfl (by simpa using hj)⟩

end Stamps

/-! ## The key/value path -/

section KvPath

variable {n : Node} {N : Nat} {j : String} {now : Int}

/-- The key/value path reads and writes the store only. -/
theorem pgraftApplyKvOperation_worker (w : WorkerState) :
    pgraftApplyKvOperation { n with worker := w } N j now =
      (pgraftApplyKvOperation n N j now).mapState fun m => { m with worker := w } := by
  unfold pgraftApplyKvOperation
  dsimp only
  split
  · rfl
  all_goals split <;> rfl

/-- What a key/value apply that returns `0` did: a put or a delete of the parsed request,
through the store's own put or delete with log index `0`, that returned `0`. -/
theorem pgraftApplyKvOperation_eq_ok (h : (pgraftApplyKvOperation n N j now).returned = some 0) :
    ∃ c : Call KvStore Int, c.returned = some 0 ∧
      ((∃ key value, c = pgraftKvPut n.kv key value 0 now) ∨ ∃ key, c = pgraftKvDelete n.kv key 0 now) ∧
      pgraftApplyKvOperation n N j now = .ret 0 { n with kv := c.state } := by
  unfold pgraftApplyKvOperation at h ⊢
  split at h
  · cases h
  · next key value hp =>
    split at h
    · next kv hc => exact ⟨_, by rw [← pgraftKvPutLocal, hc]; rfl, .inl ⟨key, value, rfl⟩, by
        simp only [pgraftKvPutLocal] at hc; simp [hc]⟩
    all_goals cases h
  · next key hp =>
    split at h
    · next kv hc => exact ⟨_, by rw [← pgraftKvDeleteLocal, hc]; rfl, .inr ⟨key, rfl⟩, by
        simp only [pgraftKvDeleteLocal] at hc; simp [hc]⟩
    all_goals cases h

/-- A key/value apply that returns `0` leaves the store's index and the slot it writes at `0`. -/
theorem pgraftApplyKvOperation_stamps (h : (pgraftApplyKvOperation n N j now).returned = some 0) :
    (pgraftApplyKvOperation n N j now).state.kv.lastAppliedIndex = 0 ∧
    ∀ i, ((pgraftApplyKvOperation n N j now).state.kv.slot i).logIndex ≠ (n.kv.slot i).logIndex →
      ((pgraftApplyKvOperation n N j now).state.kv.slot i).logIndex = 0 := by
  obtain ⟨c, hc, ⟨key, value, rfl⟩ | ⟨key, rfl⟩, he⟩ := pgraftApplyKvOperation_eq_ok h <;>
    rw [he]
  · exact pgraftKvPut_stamps hc
  · exact pgraftKvDelete_stamps hc

/-- A key/value apply that does not return `0` leaves the node as it found it: the parser
raises before the store is touched, and a put or delete that fails changes nothing. -/
theorem pgraftApplyKvOperation_failed (h : (pgraftApplyKvOperation n N j now).returned ≠ some 0) :
    (pgraftApplyKvOperation n N j now).state = n := by
  revert h
  unfold pgraftApplyKvOperation
  rcases pgraftJsonParseKvOperation j with _ | ⟨k, v⟩ | k
  · intro _; rfl
  · have hs := @pgraftKvPut_state_of_not_ret n.kv k v 0 now
    dsimp only
    split <;> rename_i hc <;> simp only [pgraftKvPutLocal] at hc <;> simp_all
  · have hs := @pgraftKvDelete_state_of_not_ret n.kv k 0 now
    dsimp only
    split <;> rename_i hc <;> simp only [pgraftKvDeleteLocal] at hc <;> simp_all

end KvPath

/-! ## The whole apply -/

/-- The node with another recorded applied index. -/
def Node.withApplied (n : Node) (index : Nat) : Node :=
  { n with worker := { n.worker with lastAppliedIndex := index } }

section Apply

variable {spi : Spi} {n : Node} {N : Nat} {data : List Char} {now : Int}

theorem apply_kv_path (hkv : data.head? = some '{') :
    pgraftApplyEntryToPostgres spi n N data now =
      (pgraftApplyKvOperation n N (cStr ⟨data⟩) now).bind fun r n' =>
        .ret r (if r = 0 then n'.recordApplied N else n') := by
  rw [pgraftApplyEntryToPostgres, if_pos hkv]

theorem apply_sql_path (hkv : data.head? ≠ some '{') {e : PgRaftLogEntry}
    (hp : pgraftParseLogEntry data = some e) (hc : spi.connectOk = true) :
    pgraftApplyEntryToPostgres spi n N data now =
      (spiExecute now 0 (spi.statements e.sql) n).bind fun r n' =>
        if r < 0 then .ret (-1) n' else .ret 0 (n'.recordApplied N) := by
  rw [pgraftApplyEntryToPostgres, if_neg hkv, hp]
  simp [hc]

/-- Every apply that returns `0` ends by recording the raft index. -/
theorem apply_eq_ok (h : (pgraftApplyEntryToPostgres spi n N data now).returned = some 0) :
    ∃ m : Node, pgraftApplyEntryToPostgres spi n N data now = .ret 0 (m.recordApplied N) := by
  by_cases hkv : data.head? = some '{'
  · rw [apply_kv_path hkv] at h ⊢
    revert h
    cases pgraftApplyKvOperation n N (cStr ⟨data⟩) now with
    | ret r m =>
      intro h
      obtain rfl : r = 0 := by simpa using h
      exact ⟨m, rfl⟩
    | raise msg m => intro h; cases h
  · cases hp : pgraftParseLogEntry data with
    | none => simp [pgraftApplyEntryToPostgres, hkv, hp] at h
    | some e =>
      cases hc : spi.connectOk
      · simp [pgraftApplyEntryToPostgres, hkv, hp, hc] at h
      rw [apply_sql_path hkv hp hc] at h ⊢
      revert h
      cases spiExecute now 0 (spi.statements e.sql) n with
      | ret r m => by_cases hr : r < 0 <;> simp [hr]; exact ⟨m, rfl⟩
      | raise msg m => intro h; cases h

/-- On the key/value path, run on another worker state, an apply returns the same and leaves
the same store; it records the raft index exactly when it returns `0`. -/
theorem apply_other_worker (hkv : data.head? = some '{') (w : WorkerState) :
    (pgraftApplyEntryToPostgres spi { n with worker := w } N data now).returned =
        (pgraftApplyEntryToPostgres spi n N data now).returned ∧
    (pgraftApplyEntryToPostgres spi { n with worker := w } N data now).state.kv =
        (pgraftApplyEntryToPostgres spi n N data now).state.kv ∧
    (pgraftApplyEntryToPostgres spi { n with worker := w } N data now).state.worker =
      if (pgraftApplyEntryToPostgres spi n N data now).returned = some 0 then
        { w with lastAppliedIndex := N } else w := by
  rw [apply_kv_path hkv, apply_kv_path hkv, pgraftApplyKvOperation_worker]
  cases pgraftApplyKvOperation n N (cStr ⟨data⟩) now with
  | ret r m =>
    by_cases hr : r = 0 <;> simp [Call.mapState, hr, Node.recordApplied, pgraftRecordAppliedIndex]
  | raise msg m => simp [Call.mapState]

/-- On the key/value path an apply records the raft index exactly when it returns `0`. -/
theorem apply_kv_state_worker (hkv : data.head? = some '{') :
    (pgraftApplyEntryToPostgres spi n N data now).state.worker =
      if (pgraftApplyEntryToPostgres spi n N data now).returned = some 0 then
        { n.worker with lastAppliedIndex := N } else n.worker :=
  (apply_other_worker hkv n.worker).2.2

/-- A key/value apply that does not return `0` leaves the node as it found it. -/
theorem apply_kv_failed (hkv : data.head? = some '{')
    (h : (pgraftApplyEntryToPostgres spi n N data now).returned ≠ some 0) :
    (pgraftApplyEntryToPostgres spi n N data now).state = n := by
  rw [apply_kv_path hkv] at h ⊢
  have hf := @pgraftApplyKvOperation_failed n N (cStr ⟨data⟩) now
  cases hc : pgraftApplyKvOperation n N (cStr ⟨data⟩) now with
  | ret r m =>
    rw [hc] at h hf
    have hr : r ≠ 0 := fun hr => h (by simp [hr])
    simpa [hr] using hf (by simpa using hr)
  | raise msg m => rw [hc] at hf; exact hf (by simp)

/-- An SQL apply whose statements ran and that does not return `0` leaves the node as
`SPI_execute` left it. -/
theorem apply_sql_failed (hkv : data.head? ≠ some '{') {e : PgRaftLogEntry}
    (hp : pgraftParseLogEntry data = some e) (hc : spi.connectOk = true)
    (h : (pgraftApplyEntryToPostgres spi n N data now).returned ≠ some 0) :
    (pgraftApplyEntryToPostgres spi n N data now).state =
      (spiExecute now 0 (spi.statements e.sql) n).state := by
  rw [apply_sql_path hkv hp hc] at h ⊢
  revert h
  cases spiExecute now 0 (spi.statements e.sql) n with
  | ret r m => by_cases hr : r < 0 <;> simp [hr]
  | raise msg m => intro; rfl

end Apply

/-- What `pgraft_apply_entry_to_postgres` does with the recorded applied index, for every
store, every recorded index and every entry: the key/value path never reads it, and every
successful apply sets it to the raft index. -/
structure ApplyIgnoresAppliedIndex (spi : Spi) (n : Node) (N : Nat) (data : List Char)
    (now : Int) : Prop where
  same_outcome : data.head? = some '{' → ∀ L,
    (pgraftApplyEntryToPostgres spi (n.withApplied L) N data now).returned =
        (pgraftApplyEntryToPostgres spi n N data now).returned ∧
      (pgraftApplyEntryToPostgres spi (n.withApplied L) N data now).state.kv =
        (pgraftApplyEntryToPostgres spi n N data now).state.kv
  kv_success : data.head? = some '{' →
    (pgraftApplyEntryToPostgres spi n N data now).returned = some 0 →
    (pgraftApplyEntryToPostgres spi n N data now).state.worker =
      { n.worker with lastAppliedIndex := N }
  kv_failure : data.head? = some '{' →
    (pgraftApplyEntryToPostgres spi n N data now).returned ≠ some 0 →
    (pgraftApplyEntryToPostgres spi n N data now).state.worker = n.worker
  success : (pgraftApplyEntryToPostgres spi n N data now).returned = some 0 →
    (pgraftApplyEntryToPostgres spi n N data now).state.worker.lastAppliedIndex = N

/-- A successful apply, on either path, leaves the recorded index at the raft index. -/
theorem apply_ok_records {spi : Spi} {n : Node} {N : Nat} {data : List Char} {now : Int}
    (h : (pgraftApplyEntryToPostgres spi n N data now).returned = some 0) :
    (pgraftApplyEntryToPostgres spi n N data now).state.worker.lastAppliedIndex = N := by
  obtain ⟨m, hm⟩ := apply_eq_ok h
  rw [hm]
  rfl

theorem apply_ignores_applied_index (spi : Spi) (n : Node) (N : Nat) (data : List Char)
    (now : Int) : ApplyIgnoresAppliedIndex spi n N data now := by
  refine ⟨fun hkv L => ?_, fun hkv h => ?_, fun hkv h => ?_, apply_ok_records⟩
  · obtain ⟨h1, h2, -⟩ := @apply_other_worker spi n N data now hkv
      { n.worker with lastAppliedIndex := L }
    exact ⟨h1, h2⟩
  · rw [apply_kv_state_worker hkv, if_pos h]
  · rw [apply_kv_state_worker hkv, if_neg h]

/-- A put delivered under raft index 1 to a node whose recorded index is 0, then delivered
again: the second delivery returns `0` and raises the key's version once more. -/
theorem apply_redelivered_put_applies_again :
    let spi : Spi := ⟨true, fun _ => []⟩
    let w : WorkerState := ⟨0, "", 0, .stopped, ⟨[], 0, 0, 0⟩, ⟨[], 0, 0, 0⟩, ⟨[], 0, 0, 0⟩, 0⟩
    let put := "\x7b\"type\": \"kv_put\", \"key\": \"a\", \"value\": \"1\"\x7d".data
    let n1 := (pgraftApplyEntryToPostgres spi ⟨KvStore.empty, w⟩ 1 put 0).state
    n1.worker.lastAppliedIndex = 1 ∧ n1.kv.view "a" = some ("1", 1) ∧
      (pgraftApplyEntryToPostgres spi n1 1 put 0).returned = some 0 ∧
      (pgraftApplyEntryToPostgres spi n1 1 put 0).state.kv.view "a" = some ("1", 2) := by
  decide

/-- Every successful key/value apply leaves the store's `last_applied_index` and the slot it
writes at `0`, whatever the raft index. -/
theorem apply_kv_records_index_zero {spi : Spi} {n : Node} {N : Nat} {data : List Char}
    {now : Int} (hkv : data.head? = some '{')
    (h : (pgraftApplyEntryToPostgres spi n N data now).returned = some 0) :
    (pgraftApplyEntryToPostgres spi n N data now).state.kv.lastAppliedIndex = 0 ∧
    ∀ i, ((pgraftApplyEntryToPostgres spi n N data now).state.kv.slot i).logIndex ≠
        (n.kv.slot i).logIndex →
      ((pgraftApplyEntryToPostgres spi n N data now).state.kv.slot i).logIndex = 0 := by
  rw [apply_kv_path hkv] at h ⊢
  have hs := @pgraftApplyKvOperation_stamps n N (cStr ⟨data⟩) now
  cases hc : pgraftApplyKvOperation n N (cStr ⟨data⟩) now with
  | ret r m =>
    rw [hc] at h hs
    obtain rfl : r = 0 := by simpa using h
    simpa [Node.recordApplied, pgraftRecordAppliedIndex] using hs rfl
  | raise msg m => rw [hc] at h; cases h

theorem apply_kv_records_index_zero_at_seven :
    let spi : Spi := ⟨true, fun _ => []⟩
    let w : WorkerState := ⟨0, "", 0, .stopped, ⟨[], 0, 0, 0⟩, ⟨[], 0, 0, 0⟩, ⟨[], 0, 0, 0⟩, 0⟩
    let put := "\x7b\"type\": \"kv_put\", \"key\": \"a\", \"value\": \"1\"\x7d".data
    put.head? = some '{' ∧
      (pgraftApplyEntryToPostgres spi ⟨KvStore.empty, w⟩ 7 put 0).returned = some 0 ∧
      ((pgraftApplyEntryToPostgres spi ⟨KvStore.empty, w⟩ 7 put 0).state.kv.lastAppliedIndex = 0 ∧
      ∀ i, ((pgraftApplyEntryToPostgres spi ⟨KvStore.empty, w⟩ 7 put 0).state.kv.slot i).logIndex ≠
          (KvStore.empty.slot i).logIndex →
        ((pgraftApplyEntryToPostgres spi ⟨KvStore.empty, w⟩ 7 put 0).state.kv.slot i).logIndex =
          0) :=
  ⟨rfl, by decide, apply_kv_records_index_zero rfl (by decide)⟩

/-- What a failed and a successful apply leave. A failure on the key/value path, and one before
`SPI_execute` (an entry that does not parse, or `SPI_connect` failing), leave the node as it
was; a failure reported by `SPI_execute` leaves the node as its statements left it; a success
records the raft index. -/
structure ApplyAtomic (spi : Spi) (n : Node) (N : Nat) (data : List Char) (now : Int) : Prop where
  kv_failed : data.head? = some '{' →
    (pgraftApplyEntryToPostgres spi n N data now).returned ≠ some 0 →
    (pgraftApplyEntryToPostgres spi n N data now).state = n
  unparsed : data.head? ≠ some '{' → pgraftParseLogEntry data = none →
    pgraftApplyEntryToPostgres spi n N data now = .ret (-1) n
  unconnected : data.head? ≠ some '{' → spi.connectOk = false →
    pgraftApplyEntryToPostgres spi n N data now = .ret (-1) n
  sql_failed : data.head? ≠ some '{' → ∀ e, pgraftParseLogEntry data = some e →
    spi.connectOk = true → (pgraftApplyEntryToPostgres spi n N data now).returned ≠ some 0 →
    (pgraftApplyEntryToPostgres spi n N data now).state =
      (spiExecute now 0 (spi.statements e.sql) n).state
  succeeded : (pgraftApplyEntryToPostgres spi n N data now).returned = some 0 →
    (pgraftApplyEntryToPostgres spi n N data now).state.worker.lastAppliedIndex = N

end Pgraft
