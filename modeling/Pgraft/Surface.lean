import Pgraft.ApplySound
import Pgraft.WorkerQueues

/-!
# What the SQL functions can change

The calls that reach a node's key/value store or its recorded applied index: the key/value
functions of `pgraft_kv_sql.c`, the wrappers `pgraft_kv_put_local_func`,
`pgraft_kv_delete_local_func`, `pgraft_get_applied_index_func` and
`pgraft_record_applied_index_func` of `pgraft.c`, and the consensus engine's
`pgraft_go_apply_callback`. Calls come from any session in any order, each under its own
`Host`: the clock, the backend's pid, and the node and leader ids the cluster state holds
after `pgraft_update_shared_memory_from_go`.

A client's put or delete raises an `ERROR` on any node but the leader, and on the leader its
one change is a command pushed onto the worker's queue (`pgraftKvPutSql_cases`); get, exists,
the read-only functions and compact leave the live map and the applied index as they were
(`NodeEvent.step_frame`). Besides the apply callback and reset, three exported functions
write directly: the two local wrappers change the live map and the third sets the applied
index to any value. Every call, an apply whose SQL text runs any statements included, leaves
the store as a list of store operations leaves it (`NodeEvent.kv_step`).
-/

namespace Pgraft

/-- What a call sees of its host. -/
structure Host where
  spi : Spi
  now : Int
  pid : Nat
  nodeId : Int
  leaderId : Int

/-- `strpbrk(s, accept) != NULL`. -/
def strpbrk (s accept : String) : Bool := s.data.any fun c => accept.data.contains c

/-- The set `"\0\r\n\t"` that `pgraft_kv_put_sql` and `pgraft_kv_delete_sql` pass to
`strpbrk`: as a C string it ends at its first byte. -/
def invalidKeyChars : String := cStr "\x00\r\n\t"

/-- The key check of the two write functions never refuses a key. -/
theorem strpbrk_invalidKeyChars (key : String) : strpbrk key invalidKeyChars = false := by
  have : invalidKeyChars = "" := by decide
  simp [strpbrk, this]

section Calls

variable (sz : CoreSizes)

/-- `pgraft_kv_queue_operation`: only the leader queues, into the worker's command queue. -/
def pgraftKvQueueOperation (h : Host) (n : Node) (opType : Int) (key : String)
    (value : Option String) (clientId : String) : Call Node Int :=
  if h.nodeId ≠ h.leaderId then
    .raise ("pgraft_kv: write operations only allowed on leader node (current leader: " ++
      toString h.leaderId ++ ")") n
  else
    let cmdType := if opType = 1 then some CommandType.kvPut
      else if opType = 2 then some CommandType.kvDelete else none
    match cmdType with
    | none => .raise ("pgraft_kv: unsupported operation type: " ++ toString opType) n
    | some t =>
      let r := pgraftQueueKvCommand sz n.worker t (some key) value (some clientId) h.now
      if r.2 then .ret 0 { n with worker := r.1 }
      else .raise "pgraft_kv: failed to queue operation for Raft replication" { n with worker := r.1 }

/-- `pgraft_kv_replicate_put`: the JSON is built, then the operation queued. -/
def pgraftKvReplicatePut (h : Host) (n : Node) (key : String) (value : Option String)
    (clientId : String) : Call Node Int :=
  match pgraftJsonCreateKvOperation 1 key value clientId h.now 2048 with
  | .error m => .raise m n
  | .ok _ => pgraftKvQueueOperation sz h n 1 key value clientId

/-- `pgraft_kv_replicate_delete`. -/
def pgraftKvReplicateDelete (h : Host) (n : Node) (key clientId : String) : Call Node Int :=
  match pgraftJsonCreateKvOperation 2 key none clientId h.now 2048 with
  | .error m => .raise m n
  | .ok _ => pgraftKvQueueOperation sz h n 2 key none clientId

/-- `replicate_kv_operation` of `pgraft_kv_sql.c`, with client id `pg_<pid>`. -/
def replicateKvOperation (h : Host) (n : Node) (opType : Int) (key : String)
    (value : Option String) : Call Node Int :=
  let clientId := "pg_" ++ toString h.pid
  match pgraftJsonCreateKvOperation opType key value clientId h.now 2048 with
  | .error m => .raise m n
  | .ok _ =>
    if opType = 1 then pgraftKvReplicatePut sz h n key value clientId
    else if opType = 2 then pgraftKvReplicateDelete sz h n key clientId
    else .raise ("pgraft_kv: unsupported operation type: " ++ toString opType) n

/-- `pgraft_kv_put_sql`: `NULL`s and keys or values out of range give `false`. -/
def pgraftKvPutSql (h : Host) (n : Node) : Option String → Option String → Call Node Bool
  | none, _ => .ret false n
  | some _, none => .ret false n
  | some key, some value =>
    if key.length = 0 ∨ 256 ≤ key.length ∨ 1024 ≤ value.length ∨ strpbrk key invalidKeyChars
    then .ret false n
    else
      (replicateKvOperation sz h n 1 key (some value)).map (· == 0)

/-- `pgraft_kv_delete_sql`. -/
def pgraftKvDeleteSql (h : Host) (n : Node) : Option String → Call Node Bool
  | none => .ret false n
  | some key =>
    if key.length = 0 ∨ 256 ≤ key.length ∨ strpbrk key invalidKeyChars then .ret false n
    else
      (replicateKvOperation sz h n 2 key none).map (· == 0)

end Calls

/-- `pgraft_kv_exists_sql`. -/
def pgraftKvExistsSql (n : Node) : Option String → Bool
  | none => false
  | some key => key.length ≠ 0 && pgraftKvExists n.kv key

/-- A call into a node. `kvRead` stands for `pgraft_kv_list_keys`, `pgraft_kv_stats` and
`pgraft_kv_get_stats`, which only read the store. -/
inductive NodeEvent
  | kvPutSql (key value : Option String)
  | kvDeleteSql (key : Option String)
  | kvGetSql (key : Option String)
  | kvExistsSql (key : Option String)
  | kvRead
  | kvCompactSql
  | kvResetSql
  | kvPutLocalFunc (key value : String)
  | kvDeleteLocalFunc (key : String)
  | getAppliedIndexFunc
  | recordAppliedIndexFunc (index : Int)
  | applyCallback (raftIndex : Nat) (data : List Char)

/-- The node a call leaves, whether it returned or raised. -/
def NodeEvent.step (sz : CoreSizes) (h : Host) (n : Node) : NodeEvent → Node
  | .kvPutSql k v => (pgraftKvPutSql sz h n k v).state
  | .kvDeleteSql k => (pgraftKvDeleteSql sz h n k).state
  | .kvGetSql k => (pgraftKvGetSql n k).state
  | .kvExistsSql _ | .kvRead | .getAppliedIndexFunc => n
  | .kvCompactSql => { n with kv := pgraftKvCompact n.kv }
  | .kvResetSql => { n with kv := pgraftKvReset n.kv }
  | .kvPutLocalFunc k v => (pgraftKvPutLocalFunc n k v h.now).state
  | .kvDeleteLocalFunc k => (pgraftKvDeleteLocalFunc n k h.now).state
  | .recordAppliedIndexFunc i => pgraftRecordAppliedIndexFunc n i
  | .applyCallback i d => (pgraftGoApplyCallback h.spi n i d h.now).state

/-- The calls that write the live map or the applied index themselves. -/
def NodeEvent.writesDirectly : NodeEvent → Bool
  | .kvResetSql | .kvPutLocalFunc .. | .kvDeleteLocalFunc _ | .recordAppliedIndexFunc _
  | .applyCallback .. => true
  | _ => false

/-- The one change a client's write can make: its command written into the slot at the tail of
the worker's queue, and pushed. -/
def Node.pushKvCommand (sz : CoreSizes) (n : Node) (t : CommandType) (key : String)
    (value : Option String) (clientId : String) (now : Int) : Node :=
  let q := n.worker.commands
  let c := queuedKvCommand sz t (some key) value (some clientId) now (q.slot q.tail)
  { n with worker := { n.worker with commands := q.push sz.maxCommands c } }

/-! ## Frames -/

section Frames

variable {sz : CoreSizes} {h : Host} {n : Node}

/-- A queueing call either raises, leaving the node, or, on the leader and with room in the
queue, returns `0` with its one command pushed. -/
theorem pgraftKvQueueOperation_cases {opType : Int} {t : CommandType}
    (ht : (if opType = 1 then some CommandType.kvPut
      else if opType = 2 then some CommandType.kvDelete else none) = some t)
    (key : String) (value : Option String) (clientId : String) :
    (∃ m, pgraftKvQueueOperation sz h n opType key value clientId = .raise m n) ∨
      h.nodeId = h.leaderId ∧ n.worker.commands.count < sz.maxCommands ∧
        pgraftKvQueueOperation sz h n opType key value clientId =
          .ret 0 (n.pushKvCommand sz t key value clientId h.now) := by
  unfold pgraftKvQueueOperation
  by_cases hl : h.nodeId ≠ h.leaderId
  · exact .inl ⟨_, if_pos hl⟩
  rw [if_neg hl]
  dsimp only
  rw [ht]
  by_cases hc : n.worker.commands.count < sz.maxCommands
  · exact .inr ⟨not_not.mp hl, hc, by
      simp [pgraftQueueKvCommand, queueCommandWith_of_lt hc, Node.pushKvCommand]⟩
  · exact .inl ⟨"pgraft_kv: failed to queue operation for Raft replication", by
      simp [pgraftQueueKvCommand, queueCommandWith_of_full (Nat.le_of_not_lt hc)]⟩

theorem replicateKvOperation_put_cases (key : String) (value : Option String) :
    (∃ m, replicateKvOperation sz h n 1 key value = .raise m n) ∨
      h.nodeId = h.leaderId ∧ n.worker.commands.count < sz.maxCommands ∧
        replicateKvOperation sz h n 1 key value =
          .ret 0 (n.pushKvCommand sz .kvPut key value ("pg_" ++ toString h.pid) h.now) := by
  unfold replicateKvOperation pgraftKvReplicatePut
  dsimp only
  split
  · exact .inl ⟨_, rfl⟩
  rw [if_pos rfl]
  split
  · exact .inl ⟨_, rfl⟩
  · exact @pgraftKvQueueOperation_cases sz h n 1 .kvPut rfl _ _ _

theorem replicateKvOperation_delete_cases (key : String) :
    (∃ m, replicateKvOperation sz h n 2 key none = .raise m n) ∨
      h.nodeId = h.leaderId ∧ n.worker.commands.count < sz.maxCommands ∧
        replicateKvOperation sz h n 2 key none =
          .ret 0 (n.pushKvCommand sz .kvDelete key none ("pg_" ++ toString h.pid) h.now) := by
  unfold replicateKvOperation pgraftKvReplicateDelete
  dsimp only
  split
  · exact .inl ⟨_, rfl⟩
  rw [if_neg (by decide), if_pos rfl]
  split
  · exact .inl ⟨_, rfl⟩
  · exact @pgraftKvQueueOperation_cases sz h n 2 .kvDelete rfl _ _ _

/-- What a client's put can do: change nothing and not report success, or, on the leader, push
its command and return `true`. -/
theorem pgraftKvPutSql_cases (k v : Option String) :
    ((pgraftKvPutSql sz h n k v).state = n ∧ (pgraftKvPutSql sz h n k v).returned ≠ some true) ∨
      h.nodeId = h.leaderId ∧ n.worker.commands.count < sz.maxCommands ∧
        ∃ key value, k = some key ∧ v = some value ∧
          pgraftKvPutSql sz h n k v =
            .ret true (n.pushKvCommand sz .kvPut key (some value) ("pg_" ++ toString h.pid) h.now) := by
  unfold pgraftKvPutSql
  split
  · exact .inl ⟨rfl, by simp⟩
  · exact .inl ⟨rfl, by simp⟩
  · split_ifs
    · exact .inl ⟨rfl, by simp⟩
    · rcases replicateKvOperation_put_cases _ _ with ⟨m, he⟩ | ⟨hl, hc, he⟩ <;> rw [he]
      · exact .inl ⟨rfl, by simp⟩
      · exact .inr ⟨hl, hc, _, _, rfl, rfl, rfl⟩

/-- What a client's delete can do: change nothing and not report success, or, on the leader,
push its command and return `true`. -/
theorem pgraftKvDeleteSql_cases (k : Option String) :
    ((pgraftKvDeleteSql sz h n k).state = n ∧ (pgraftKvDeleteSql sz h n k).returned ≠ some true) ∨
      h.nodeId = h.leaderId ∧ n.worker.commands.count < sz.maxCommands ∧
        ∃ key, k = some key ∧
          pgraftKvDeleteSql sz h n k =
            .ret true (n.pushKvCommand sz .kvDelete key none ("pg_" ++ toString h.pid) h.now) := by
  unfold pgraftKvDeleteSql
  split
  · exact .inl ⟨rfl, by simp⟩
  · split_ifs
    · exact .inl ⟨rfl, by simp⟩
    · rcases replicateKvOperation_delete_cases _ with ⟨m, he⟩ | ⟨hl, hc, he⟩ <;> rw [he]
      · exact .inl ⟨rfl, by simp⟩
      · exact .inr ⟨hl, hc, _, rfl, rfl⟩

theorem pgraftKvPutSql_non_leader (hl : h.nodeId ≠ h.leaderId) {key value : String}
    (hk : 0 < key.length) (hk' : key.length < 256) (hv : value.length < 1024) :
    ∃ m, pgraftKvPutSql sz h n (some key) (some value) = .raise m n := by
  obtain ⟨m, hm⟩ := (replicateKvOperation_put_cases (n := n) key (some value)).resolve_right
    fun h' => hl h'.1
  refine ⟨m, ?_⟩
  rw [pgraftKvPutSql, if_neg (by simp [strpbrk_invalidKeyChars]; omega), hm, Call.map_raise]

theorem pgraftKvDeleteSql_non_leader (hl : h.nodeId ≠ h.leaderId) {key : String}
    (hk : 0 < key.length) (hk' : key.length < 256) :
    ∃ m, pgraftKvDeleteSql sz h n (some key) = .raise m n := by
  obtain ⟨m, hm⟩ := (replicateKvOperation_delete_cases (n := n) key).resolve_right
    fun h' => hl h'.1
  refine ⟨m, ?_⟩
  rw [pgraftKvDeleteSql, if_neg (by simp [strpbrk_invalidKeyChars]; omega), hm, Call.map_raise]

theorem pgraftKvPutSql_frame (k v : Option String) :
    (pgraftKvPutSql sz h n k v).state.kv = n.kv ∧
      (pgraftKvPutSql sz h n k v).state.worker.lastAppliedIndex = n.worker.lastAppliedIndex := by
  rcases pgraftKvPutSql_cases k v with ⟨he, -⟩ | ⟨_, _, _, _, _, _, he⟩ <;> rw [he] <;> exact ⟨rfl, rfl⟩

theorem pgraftKvDeleteSql_frame (k : Option String) :
    (pgraftKvDeleteSql sz h n k).state.kv = n.kv ∧
      (pgraftKvDeleteSql sz h n k).state.worker.lastAppliedIndex = n.worker.lastAppliedIndex := by
  rcases pgraftKvDeleteSql_cases k with ⟨he, -⟩ | ⟨_, _, _, _, he⟩ <;> rw [he] <;> exact ⟨rfl, rfl⟩

theorem pgraftKvGetSql_state (k : Option String) :
    (pgraftKvGetSql n k).state = n ∨
      ∃ key, (pgraftKvGetSql n k).state = { n with kv := (pgraftKvGet n.kv key 1024).state } := by
  unfold pgraftKvGetSql
  split
  · exact .inl rfl
  · split_ifs
    · exact .inl rfl
    · rename_i key _; exact .inr ⟨key, by simp⟩

/-- The store a statement leaves: the old one after at most one store operation. -/
theorem SpiStatement.run_kv (now : Int) (n : Node) : ∀ s : SpiStatement,
    ∃ ops : List KvOp, (s.run now n).state.kv = ops.foldl (fun t op => op.apply t) n.kv
  | .kvPutLocalFunc k v => ⟨[.put k v 0 now], by
      simp [SpiStatement.run, pgraftKvPutLocalFunc, KvOp.apply, pgraftKvPutLocal]⟩
  | .kvDeleteLocalFunc k => ⟨[.delete k 0 now], by
      simp [SpiStatement.run, pgraftKvDeleteLocalFunc, KvOp.apply, pgraftKvDeleteLocal]⟩
  | .recordAppliedIndexFunc _ => ⟨[], rfl⟩
  | .kvGetSql k => by
    rcases pgraftKvGetSql_state (n := n) k with he | ⟨key, he⟩
    · exact ⟨[], by simp [SpiStatement.run, he]⟩
    · exact ⟨[.get key 1024], by simp [SpiStatement.run, he, KvOp.apply]⟩
  | .kvCompactSql => ⟨[.compact], rfl⟩
  | .kvResetSql => ⟨[.reset], rfl⟩
  | .other _ frame => ⟨[], (frame n).1⟩

/-- The store `SPI_execute` leaves: the old one after the store operations of the statements it
ran, in order. -/
theorem spiExecute_kv (now : Int) : ∀ (res : Int) (ss : List SpiStatement) (n : Node),
    ∃ ops : List KvOp, (spiExecute now res ss n).state.kv = ops.foldl (fun t op => op.apply t) n.kv
  | res, [], n => ⟨[], rfl⟩
  | _, s :: ss, n => by
    obtain ⟨ops, hops⟩ := s.run_kv now n
    unfold spiExecute
    revert hops
    cases s.run now n with
    | raise m m' => exact fun hops => ⟨ops, hops⟩
    | ret r m =>
      intro hops
      rw [Call.state_ret] at hops
      simp only [Call.ret_bind]
      split
      · exact ⟨ops, hops⟩
      · obtain ⟨ops', h'⟩ := spiExecute_kv now r ss m
        exact ⟨ops ++ ops', by rw [h', List.foldl_append, ← hops]⟩

/-- The store `pgraft_apply_kv_operation` leaves: that of the put or delete it ran. -/
theorem pgraftApplyKvOperation_state_kv (N : Nat) (j : String) (now : Int) :
    (pgraftApplyKvOperation n N j now).state.kv =
      match pgraftJsonParseKvOperation j with
      | .error _ => n.kv
      | .ok (.put k v) => (pgraftKvPutLocal n.kv k v now).state
      | .ok (.delete k) => (pgraftKvDeleteLocal n.kv k now).state := by
  unfold pgraftApplyKvOperation
  rcases pgraftJsonParseKvOperation j with _ | ⟨k, v⟩ | k
  · rfl
  · dsimp only; split <;> rename_i heq <;> simp [heq]
  · dsimp only; split <;> rename_i heq <;> simp [heq]

/-- The store an apply leaves is the old one after a list of store operations: the one put or
delete of a key/value entry, or those of the statements an SQL entry ran. -/
theorem apply_kv_ops (spi : Spi) (N : Nat) (data : List Char) (now : Int) :
    ∃ ops : List KvOp, (pgraftApplyEntryToPostgres spi n N data now).state.kv =
      ops.foldl (fun t op => op.apply t) n.kv := by
  by_cases hkv : data.head? = some '{'
  · have hs : (pgraftApplyEntryToPostgres spi n N data now).state.kv =
        (pgraftApplyKvOperation n N (cStr ⟨data⟩) now).state.kv := by
      rw [apply_kv_path hkv]
      cases pgraftApplyKvOperation n N (cStr ⟨data⟩) now with
      | ret r m => by_cases hr : r = 0 <;> simp [hr, Node.recordApplied]
      | raise msg m => rfl
    rw [hs, pgraftApplyKvOperation_state_kv]
    split
    · exact ⟨[], rfl⟩
    · exact ⟨[.put _ _ 0 now], rfl⟩
    · exact ⟨[.delete _ 0 now], rfl⟩
  · cases hp : pgraftParseLogEntry data with
    | none => exact ⟨[], by simp [pgraftApplyEntryToPostgres, hkv, hp]⟩
    | some e =>
      cases hc : spi.connectOk
      · exact ⟨[], by simp [pgraftApplyEntryToPostgres, hkv, hp, hc]⟩
      obtain ⟨ops, hops⟩ := spiExecute_kv now 0 (spi.statements e.sql) n
      refine ⟨ops, ?_⟩
      rw [apply_sql_path hkv hp hc, ← hops]
      cases spiExecute now 0 (spi.statements e.sql) n with
      | ret r m => by_cases hr : r < 0 <;> simp [hr, Node.recordApplied]
      | raise msg m => rfl

end Frames

/-! ## The key check

`strpbrk(key, "\0\r\n\t")` reads its set as a C string, which ends at the literal's first
byte: the set is empty and the check never fires (`strpbrk_invalidKeyChars`). The two write
functions refuse a key for its length only. -/

/-- A put goes on to replication exactly when the key has 1 to 255 characters and the value
fewer than 1024, and a delete exactly when the key has 1 to 255, whatever characters the key
holds. Every other call returns `false` and leaves the node as it was. -/
theorem write_sql_checks_lengths_only (sz : CoreSizes) (h : Host) (n : Node) (key value : String) :
    pgraftKvPutSql sz h n (some key) (some value) =
      (if key.length = 0 ∨ 256 ≤ key.length ∨ 1024 ≤ value.length then .ret false n
        else (replicateKvOperation sz h n 1 key (some value)).map (· == 0)) ∧
    pgraftKvDeleteSql sz h n (some key) =
      (if key.length = 0 ∨ 256 ≤ key.length then .ret false n
        else (replicateKvOperation sz h n 2 key none).map (· == 0)) := by
  simp only [pgraftKvPutSql, pgraftKvDeleteSql, strpbrk_invalidKeyChars, Bool.false_eq_true,
    or_false, and_self]

/-- A key holding a newline, put on the leader: the put queues it for replication and returns
`true`. -/
theorem newline_key_queued :
    let sz : CoreSizes := ⟨2, 1, 1, 1, 1, 16, 16, 16, 80, 1, Nat.two_pos, Nat.one_pos⟩
    let h : Host := ⟨⟨true, fun _ => []⟩, 0, 1, 1, 1⟩
    let n0 : Node := ⟨KvStore.empty, WorkerState.firstAttach sz⟩
    (pgraftKvPutSql sz h n0 (some "a\nb") (some "1") =
        (if "a\nb".length = 0 ∨ 256 ≤ "a\nb".length ∨ 1024 ≤ "1".length then .ret false n0
          else (replicateKvOperation sz h n0 1 "a\nb" (some "1")).map (· == 0)) ∧
      pgraftKvDeleteSql sz h n0 (some "a\nb") =
        (if "a\nb".length = 0 ∨ 256 ≤ "a\nb".length then .ret false n0
          else (replicateKvOperation sz h n0 2 "a\nb" none).map (· == 0))) ∧
    (pgraftKvPutSql sz h n0 (some "a\nb") (some "1")).returned = some true ∧
    ((pgraftKvPutSql sz h n0 (some "a\nb") (some "1")).state.worker.commands.contents
      sz.maxCommands).map (·.kvKey) = ["a\nb"] := by
  intro sz h n0
  exact ⟨write_sql_checks_lengths_only sz h n0 "a\nb" "1", by decide, by decide⟩

/-! ## Runs -/

/-- The nodes reachable from first start (the zeroed store, the worker state of first attach)
by calls from any sessions, in any order. -/
inductive NodeReachable (sz : CoreSizes) : Node → Prop
  | start : NodeReachable sz ⟨KvStore.empty, WorkerState.firstAttach sz⟩
  | step {n : Node} (h : Host) (e : NodeEvent) : NodeReachable sz n → NodeReachable sz (e.step sz h n)

section Runs

variable {sz : CoreSizes}

/-- Every call leaves the store as a list of store operations leaves it. -/
theorem NodeEvent.kv_step (h : Host) (n : Node) : ∀ e : NodeEvent,
    ∃ ops : List KvOp, (e.step sz h n).kv = ops.foldl (fun t op => op.apply t) n.kv
  | .kvPutSql k v => ⟨[], (pgraftKvPutSql_frame k v).1⟩
  | .kvDeleteSql k => ⟨[], (pgraftKvDeleteSql_frame k).1⟩
  | .kvGetSql k => by
    rcases pgraftKvGetSql_state (n := n) k with he | ⟨key, he⟩
    · exact ⟨[], congrArg Node.kv he⟩
    · exact ⟨[.get key 1024], congrArg Node.kv he⟩
  | .kvExistsSql _ | .kvRead | .getAppliedIndexFunc | .recordAppliedIndexFunc _ => ⟨[], rfl⟩
  | .kvCompactSql => ⟨[.compact], rfl⟩
  | .kvResetSql => ⟨[.reset], rfl⟩
  | .kvPutLocalFunc k v => ⟨[.put k v 0 h.now], by
      simp [NodeEvent.step, pgraftKvPutLocalFunc, KvOp.apply, pgraftKvPutLocal]⟩
  | .kvDeleteLocalFunc k => ⟨[.delete k 0 h.now], by
      simp [NodeEvent.step, pgraftKvDeleteLocalFunc, KvOp.apply, pgraftKvDeleteLocal]⟩
  | .applyCallback i d => apply_kv_ops _ _ _ _

theorem KvReachable.foldl {s : KvStore} (hs : KvReachable s) :
    ∀ ops : List KvOp, KvReachable (ops.foldl (fun t op => op.apply t) s)
  | [] => hs
  | op :: ops => (hs.apply op).foldl ops

theorem NodeReachable.kv {n : Node} (hn : NodeReachable sz n) : KvReachable n.kv := by
  induction hn with
  | start => exact .empty
  | step h e _ ih =>
    obtain ⟨ops, he⟩ := NodeEvent.kv_step h _ e
    rw [he]
    exact ih.foldl ops

/-- Calls other than the direct writers leave the live map and the applied index. -/
theorem NodeEvent.step_frame {n : Node} (hs : n.kv.Inv) (h : Host) :
    ∀ e : NodeEvent, e.writesDirectly = false →
      (e.step sz h n).kv.view = n.kv.view ∧
        (e.step sz h n).worker.lastAppliedIndex = n.worker.lastAppliedIndex
  | .kvPutSql k v, _ =>
    ⟨congrArg KvStore.view (pgraftKvPutSql_frame k v).1, (pgraftKvPutSql_frame k v).2⟩
  | .kvDeleteSql k, _ =>
    ⟨congrArg KvStore.view (pgraftKvDeleteSql_frame k).1, (pgraftKvDeleteSql_frame k).2⟩
  | .kvGetSql k, _ => by
    rcases pgraftKvGetSql_state (n := n) k with he | ⟨key, he⟩ <;>
      simp only [NodeEvent.step, he, and_true]
    exact KvStore.view_of_eq (pgraftKvGet_entries n.kv key 1024).1 (pgraftKvGet_entries n.kv key 1024).2
  | .kvExistsSql _, _ | .kvRead, _ | .getAppliedIndexFunc, _ => ⟨rfl, rfl⟩
  | .kvCompactSql, _ => ⟨view_compact hs, rfl⟩

/-- Over a run of calls none of which writes directly, the live map and the applied index stay. -/
theorem NodeEvent.run_frame {n : Node} (hn : NodeReachable sz n) :
    ∀ calls : List (Host × NodeEvent), (∀ c ∈ calls, c.2.writesDirectly = false) →
      (calls.foldl (fun m c => c.2.step sz c.1 m) n).kv.view = n.kv.view ∧
        (calls.foldl (fun m c => c.2.step sz c.1 m) n).worker.lastAppliedIndex =
          n.worker.lastAppliedIndex := by
  intro calls
  induction calls generalizing n with
  | nil => intro _; exact ⟨rfl, rfl⟩
  | cons c cs ih =>
    intro hc
    have h1 := @NodeEvent.step_frame sz _ hn.kv.inv c.1 c.2 (hc c (List.mem_cons_self _ _))
    have h2 := ih (hn.step c.1 c.2) (fun d hd => hc d (List.mem_cons_of_mem _ hd))
    exact ⟨h2.1.trans h1.1, h2.2.trans h1.2⟩

/-- Which calls change a node's live map or its applied index: none of the calls but the
direct writers, alone or in any run. A client's put or delete reports success exactly when, on
the leader, it has pushed its one command onto the worker's queue, and otherwise changes
nothing; on any other node a write the length checks pass raises an `ERROR`. The local wrappers apply a put or a delete to the map,
with no committed entry; the record wrapper sets the index to its argument as `uint64`. -/
structure DirectWriters (sz : CoreSizes) (n : Node) : Prop where
  frame : ∀ (h : Host) (e : NodeEvent), e.writesDirectly = false →
    (e.step sz h n).kv.view = n.kv.view ∧
      (e.step sz h n).worker.lastAppliedIndex = n.worker.lastAppliedIndex
  run_frame : ∀ calls : List (Host × NodeEvent), (∀ c ∈ calls, c.2.writesDirectly = false) →
    (calls.foldl (fun m c => c.2.step sz c.1 m) n).kv.view = n.kv.view ∧
      (calls.foldl (fun m c => c.2.step sz c.1 m) n).worker.lastAppliedIndex =
        n.worker.lastAppliedIndex
  put_sql : ∀ (h : Host) (k v : Option String),
    ((pgraftKvPutSql sz h n k v).state = n ∧ (pgraftKvPutSql sz h n k v).returned ≠ some true) ∨
    h.nodeId = h.leaderId ∧ n.worker.commands.count < sz.maxCommands ∧
      ∃ key value, k = some key ∧ v = some value ∧
        pgraftKvPutSql sz h n k v =
          .ret true (n.pushKvCommand sz .kvPut key (some value) ("pg_" ++ toString h.pid) h.now)
  delete_sql : ∀ (h : Host) (k : Option String),
    ((pgraftKvDeleteSql sz h n k).state = n ∧ (pgraftKvDeleteSql sz h n k).returned ≠ some true) ∨
    h.nodeId = h.leaderId ∧ n.worker.commands.count < sz.maxCommands ∧
      ∃ key, k = some key ∧
        pgraftKvDeleteSql sz h n k =
          .ret true (n.pushKvCommand sz .kvDelete key none ("pg_" ++ toString h.pid) h.now)
  non_leader : ∀ (h : Host) (key value : String), h.nodeId ≠ h.leaderId →
    0 < key.length → key.length < 256 →
      (value.length < 1024 → ∃ m, pgraftKvPutSql sz h n (some key) (some value) = .raise m n) ∧
      ∃ m, pgraftKvDeleteSql sz h n (some key) = .raise m n
  put_local : ∀ (h : Host) (k v : String) (s' : KvStore), pgraftKvPutLocal n.kv k v h.now = .ret 0 s' →
    ((NodeEvent.kvPutLocalFunc k v).step sz h n).kv.view =
      Function.update n.kv.view k (some (v, ((n.kv.view k).map (·.2 + 1)).getD 1))
  delete_local : ∀ (h : Host) (k : String) (s' : KvStore), pgraftKvDeleteLocal n.kv k h.now = .ret 0 s' →
    ((NodeEvent.kvDeleteLocalFunc k).step sz h n).kv.view = Function.update n.kv.view k none
  record : ∀ (h : Host) (i : Int),
    ((NodeEvent.recordAppliedIndexFunc i).step sz h n).worker.lastAppliedIndex = (i % 2 ^ 64).toNat

end Runs

/-- The sizes of a small build, for the runs below. -/
def smallSizes : CoreSizes := ⟨2, 1, 1, 1, 1, 1, 1, 1, 1, 1, Nat.two_pos, Nat.one_pos⟩

end Pgraft
