import Pgraft.Surface
import Pgraft.JsonSound
import Pgraft.RecordSound
import Pgraft.WorkerLoop
import Pgraft.StateFile

/-!
# A key/value write, from the leader's SQL call to every node's store

`pgraft_kv_put_sql` on the leader only queues a `COMMAND_KV_PUT` whose key, value and client id
are copied into the command's fields. The worker's turn rebuilds the JSON from those fields with
its own timestamp and hands the text to `pgraft_go_append_log`; the Go layer delivers committed
texts to `pgraft_go_apply_callback` on every node, whose key/value path parses the text and runs
`pgraft_kv_put_local`.

When the key and value are free of NUL bytes, fit the command's fields, and the worker's text fits
its 2048-byte buffer, the whole path is a refinement of one put (`put_replicates`): the turn after
the call takes the put's command and its outcome is the Go layer's answer to one text, and that
text, delivered to any node whose store holds the key or has a free slot, applies exactly
`pgraft_kv_put_local(key, value)` there.

A delete goes the same way, and its text always fits (`delete_replicates`). It removes the key
on a node whose store maps it and raises an `ERROR` on any other: `pgraft_kv_delete_sql` never
asks the store, so a delete of a key no node holds is accepted and then fails everywhere.
-/

namespace Pgraft

/-! ## The text has no NUL byte -/

theorem hexDigit_ne_nul : ∀ n < 16, Json.hexDigit n ≠ '\x00' := by decide

theorem not_mem_ite {p : Prop} [Decidable p] {x : Char} {a b : List Char} (ha : p → x ∉ a)
    (hb : ¬p → x ∉ b) : x ∉ (if p then a else b) := by
  by_cases hp : p
  · rw [if_pos hp]; exact ha hp
  · rw [if_neg hp]; exact hb hp

theorem nul_not_mem_escapeChar (c : Char) : '\x00' ∉ Json.escapeChar c := by
  unfold Json.escapeChar
  refine not_mem_ite (fun _ => by decide) fun _ => not_mem_ite (fun _ => by decide) fun _ =>
    not_mem_ite (fun _ => by decide) fun _ => not_mem_ite (fun _ => by decide) fun _ =>
    not_mem_ite (fun _ => by decide) fun _ => not_mem_ite (fun _ => by decide) fun _ =>
    not_mem_ite (fun _ => by decide) fun _ => not_mem_ite (fun _ => by decide) fun _ =>
    not_mem_ite (fun h => ?_) fun h => ?_
  · have h16 := hexDigit_ne_nul (c.toNat / 16) (by omega)
    have h16' := hexDigit_ne_nul (c.toNat % 16) (Nat.mod_lt _ (by decide))
    simp only [List.mem_cons, List.mem_singleton, List.not_mem_nil, or_false, not_or]
    exact ⟨by decide, by decide, by decide, by decide, Ne.symm h16, Ne.symm h16'⟩
  · rintro (_ | ⟨_, _ | _⟩)
    exact h (by decide)

theorem nul_not_mem_quote (s : String) : '\x00' ∉ (Json.quote s).data := by
  simp only [Json.quote_data, List.mem_cons, List.mem_append, List.mem_flatMap,
    List.mem_singleton, not_or, not_exists, not_and]
  exact ⟨by decide, fun c _ => nul_not_mem_escapeChar c, by decide⟩

theorem nul_not_mem_toString_int (i : Int) : '\x00' ∉ (toString i).data := fun h => by
  rcases (toString_int_chars i).2 _ h with h | h <;> revert h <;> decide

theorem nul_not_mem_render_kvOperation (t key : String) (value : Option String) (now : Int)
    (clientId : String) : '\x00' ∉ (kvOperationJson t key value now clientId).render.data := by
  unfold kvOperationJson
  split <;> (try split) <;>
  simp only [List.cons_append, List.singleton_append, List.nil_append, List.append_nil,
    Json.render_obj_cons, Json.renderFields_cons, Json.renderFields_nil, Json.render_str,
    Json.render_int, ne_eq, reduceCtorEq, not_false_eq_true, Json.intercalate_cons,
    Json.intercalate_singleton, String.data_append, List.mem_append, not_or] <;>
  simp [nul_not_mem_quote, nul_not_mem_toString_int]

/-! ## The three stages -/

section Stages

variable {sz : CoreSizes} {h : Host} {n : Node} {key value : String}

/-- `pgraft_kv_queue_operation` returns `0` only on the leader, after queueing the command of
its type into a queue that had room. -/
theorem pgraftKvQueueOperation_zero {op : Int} {t : CommandType} {value : Option String}
    {clientId : String}
    (hq : ((pgraftKvQueueOperation sz h n op key value clientId).map (· == 0)).returned =
      some true)
    (ht : (if op = 1 then some CommandType.kvPut else if op = 2 then some .kvDelete else none) =
      some t) :
    n.worker.commands.count < sz.maxCommands ∧
    (pgraftKvQueueOperation sz h n op key value clientId).state =
      { n with worker := (pgraftQueueKvCommand sz n.worker t (some key) value (some clientId)
          h.now).1 } := by
  rcases pgraftKvQueueOperation_cases ht key value clientId with ⟨m, he⟩ | ⟨-, hc, he⟩ <;>
    rw [he] at hq ⊢
  · cases hq
  · exact ⟨hc, by simp [pgraftQueueKvCommand, queueCommandWith_of_lt hc, Node.pushKvCommand]⟩

/-- A put that returns `true` passed the length checks and queued its command, with the
session's client id and time, into a queue that had room. -/
theorem pgraftKvPutSql_true
    (hq : (pgraftKvPutSql sz h n (some key) (some value)).returned = some true) :
    (0 < key.length ∧ key.length < 256 ∧ value.length < 1024) ∧
    n.worker.commands.count < sz.maxCommands ∧
    (pgraftKvPutSql sz h n (some key) (some value)).state =
      { n with worker := (pgraftQueueKvCommand sz n.worker .kvPut (some key) (some value)
          (some ("pg_" ++ toString h.pid)) h.now).1 } := by
  unfold pgraftKvPutSql at hq ⊢
  dsimp only at hq ⊢
  rw [strpbrk_invalidKeyChars] at hq ⊢
  by_cases hc : key.length = 0 ∨ 256 ≤ key.length ∨ 1024 ≤ value.length ∨ false = true
  · rw [if_pos hc, Call.returned_ret] at hq; cases hq
  rw [if_neg hc] at hq ⊢
  unfold replicateKvOperation pgraftKvReplicatePut at hq ⊢
  dsimp only at hq ⊢
  rcases hj : pgraftJsonCreateKvOperation 1 key (some value) ("pg_" ++ toString h.pid) h.now 2048
    with m | text <;> rw [hj] at hq
  · rw [Call.map_raise, Call.returned_raise] at hq; cases hq
  dsimp only at hq ⊢
  simp only [if_pos] at hq ⊢
  obtain ⟨hlt, hst⟩ := pgraftKvQueueOperation_zero hq rfl
  exact ⟨by omega, hlt, by rw [Call.state_map, hst]⟩

/-- The worker's branch for a put whose fields hold `key`, `value` and `clientId`: when the Go
library is loaded, its outcome is `pgraft_go_append_log`'s on the one text it builds, an
`ERROR` when the entry point is missing. -/
theorem executeCommand_kvPut {cmd : Command} (ht : cmd.type = .kvPut) (hk : cmd.kvKey = key)
    (hv : cmd.kvValue = value) {clientId : String} (hc : cmd.kvClientId = clientId) {now : Int}
    (hfit : (kvOperationJson "kv_put" key (some value) now clientId).render.length < 2048)
    (e : Engine) (he : pgraftGoIsLoaded e.loader = true) (w : WorkerState) :
    (executeCommand sz e w cmd now).map (·.2.1) =
      (pgraftGoAppendLog e.lib e.loader
        (kvOperationJson "kv_put" key (some value) now clientId).render).map
        fun r => if r < 0 then .failed else .completed := by
  have hj : pgraftJsonCreateKvOperation 1 key (some value) clientId now 2048 =
      .ok (kvOperationJson "kv_put" key (some value) now clientId).render :=
    (pgraftJsonCreateKvOperation_put key now clientId).mpr ⟨rfl, hfit⟩
  simp only [executeCommand, ht, replicateOutcome, he, if_true, hk, hv, hc, hj]
  cases pgraftGoAppendLog e.lib e.loader (kvOperationJson "kv_put" key (some value) now clientId).render with
  | error m => rfl
  | ok r => simp only [Except.map]; split <;> rfl

/-- The text of a put, delivered by the Go layer to a node whose store holds the key or has a
free slot, applies `pgraft_kv_put_local(key, value)` there. -/
theorem pgraftGoApplyCallback_put (hk : key.length < 256) (hv : value.length < 1024)
    (hnul : '\x00' ∉ key.data ∧ '\x00' ∉ value.data) (now : Int) (clientId : String)
    (spi : Spi) {m : Node} (hm : m.kv.Inv)
    (hroom : (pgraftKvFindEntryIndex m.kv key).isSome ∨ m.kv.numEntries < 1000) (N : Nat)
    (now' : Int) :
    ∃ m', pgraftGoApplyCallback spi m N
        (kvOperationJson "kv_put" key (some value) now clientId).render.data now' = .ret 0 m' ∧
      m'.kv.view = Function.update m.kv.view key
        (some (value, ((m.kv.view key).map (·.2 + 1)).getD 1)) := by
  have hT : cStr ⟨(kvOperationJson "kv_put" key (some value) now clientId).render.data⟩ =
      (kvOperationJson "kv_put" key (some value) now clientId).render :=
    cStr_of_not_mem (nul_not_mem_render_kvOperation "kv_put" key (some value) now clientId)
  have hret := Call.eq_ret_of_returned
    ((@pgraftKvPut_returned_iff m.kv key value 0 now' hk hv).mpr hroom)
  refine ⟨{ m with kv := (pgraftKvPut m.kv key value 0 now').state }.recordApplied N, ?_,
    view_put hm hret⟩
  rw [pgraftGoApplyCallback, pgraftApplyEntryToPostgres,
    if_pos (render_kvOperationJson_head key _ now clientId _), hT, pgraftApplyKvOperation,
    parseKvOperation_put key now clientId hnul.1 hnul.2]
  dsimp only
  rw [pgraftKvPutLocal, hret]
  rfl

/-- The first command queued into an empty queue is the next one taken. -/
theorem dequeue_first_queued {w : WorkerState} (hw : w.commands.Inv sz.maxCommands)
    (h0 : w.commands.count = 0) (fill : Command → Command) :
    (pgraftDequeueCommand sz (queueCommandWith sz w fill).1).2 =
      some (fill (w.commands.slot w.commands.tail)) := by
  have hlt : w.commands.count < sz.maxCommands := h0 ▸ sz.maxCommands_pos
  obtain ⟨hi, hc⟩ := queueCommandWith_moves hw fill
  obtain ⟨-, hm⟩ := pgraftDequeueCommand_moves hi
  have he : w.commands.contents sz.maxCommands = [] :=
    List.eq_nil_of_length_eq_zero (by rw [Ring.length_contents, h0])
  rw [hc, if_pos hlt, he, List.nil_append] at hm
  have hpos : 0 < (queueCommandWith sz w fill).1.commands.count := by
    rw [queueCommandWith_of_lt hlt]; simp
  rw [pgraftDequeueCommand_of_pos hpos] at hm ⊢
  simp only [Option.toList_some, List.singleton_append, List.cons.injEq] at hm
  rw [hm.1]

end Stages

/-! ## The whole path -/

/-- A put that `pgraft_kv_put_sql` accepts on the leader, into an empty command queue, is the
next command the worker takes; the worker hands the Go layer one text and reports the Go layer's
answer to it; and that text, delivered to any node whose store holds the key or has a free slot,
applies `pgraft_kv_put_local(key, value)` there: the node's map sends `key` to `value`, one
version past the old one, and no other key changes. `now` is the worker's time at its turn. -/
theorem put_replicates {sz : CoreSizes} {h : Host} {n : Node} {key value : String} {now : Int}
    (hw : n.worker.commands.Inv sz.maxCommands) (h0 : n.worker.commands.count = 0)
    (hq : (pgraftKvPutSql sz h n (some key) (some value)).returned = some true)
    (hsz : 256 ≤ sz.kvKeySize ∧ 1024 ≤ sz.kvValueSize ∧
      ("pg_" ++ toString h.pid).length < sz.kvClientIdSize)
    (hnul : '\x00' ∉ key.data ∧ '\x00' ∉ value.data)
    (hfit : (kvOperationJson "kv_put" key (some value) now ("pg_" ++ toString h.pid)).render.length
      < 2048) :
    let text := (kvOperationJson "kv_put" key (some value) now ("pg_" ++ toString h.pid)).render
    ∃ cmd, (pgraftDequeueCommand sz (pgraftKvPutSql sz h n (some key) (some value)).state.worker).2
        = some cmd ∧
      (∀ (e : Engine) (w : WorkerState), pgraftGoIsLoaded e.loader = true →
        (executeCommand sz e w cmd now).map (·.2.1) =
          (pgraftGoAppendLog e.lib e.loader text).map
            fun r => if r < 0 then .failed else .completed) ∧
      ∀ (spi : Spi) (m : Node) (N : Nat) (now' : Int), m.kv.Inv →
        (pgraftKvFindEntryIndex m.kv key).isSome ∨ m.kv.numEntries < 1000 →
        ∃ m', pgraftGoApplyCallback spi m N text.data now' = .ret 0 m' ∧
          m'.kv.view = Function.update m.kv.view key
            (some (value, ((m.kv.view key).map (·.2 + 1)).getD 1)) := by
  intro text
  obtain ⟨⟨-, hk, hv⟩, -, hst⟩ := pgraftKvPutSql_true hq
  refine ⟨_, by rw [hst]; exact dequeue_first_queued hw h0 _, fun e w he => ?_,
    fun spi m N now' hm hroom => pgraftGoApplyCallback_put hk hv hnul now _ spi hm hroom N now'⟩
  exact executeCommand_kvPut rfl (strncpyField_of_lt (by omega)) (strncpyField_of_lt (by omega))
    (strncpyField_of_lt hsz.2.2) hfit e he w

/-- A put of `a = 1` on a leader whose queue is empty. -/
theorem first_put_replicates :
    let sz : CoreSizes := ⟨2, 1, 1, 1, 1, 256, 1024, 16, 80, 1, Nat.two_pos, Nat.one_pos⟩
    let h : Host := ⟨⟨true, fun _ => []⟩, 0, 1, 1, 1⟩
    let n : Node := ⟨KvStore.empty, WorkerState.firstAttach sz⟩
    (n.worker.commands.Inv sz.maxCommands ∧ n.worker.commands.count = 0 ∧
      (pgraftKvPutSql sz h n (some "a") (some "1")).returned = some true ∧
      (256 ≤ sz.kvKeySize ∧ 1024 ≤ sz.kvValueSize ∧
        ("pg_" ++ toString h.pid).length < sz.kvClientIdSize) ∧
      ('\x00' ∉ "a".data ∧ '\x00' ∉ "1".data) ∧
      (kvOperationJson "kv_put" "a" (some "1") 5 ("pg_" ++ toString h.pid)).render.length < 2048) ∧
    let text := (kvOperationJson "kv_put" "a" (some "1") 5 ("pg_" ++ toString h.pid)).render
    ∃ cmd, (pgraftDequeueCommand sz (pgraftKvPutSql sz h n (some "a") (some "1")).state.worker).2
        = some cmd ∧
      (∀ (e : Engine) (w : WorkerState), pgraftGoIsLoaded e.loader = true →
        (executeCommand sz e w cmd 5).map (·.2.1) =
          (pgraftGoAppendLog e.lib e.loader text).map
            fun r => if r < 0 then .failed else .completed) ∧
      ∀ (spi : Spi) (m : Node) (N : Nat) (now' : Int), m.kv.Inv →
        (pgraftKvFindEntryIndex m.kv "a").isSome ∨ m.kv.numEntries < 1000 →
        ∃ m', pgraftGoApplyCallback spi m N text.data now' = .ret 0 m' ∧
          m'.kv.view = Function.update m.kv.view "a"
            (some ("1", ((m.kv.view "a").map (·.2 + 1)).getD 1)) := by
  intro sz h n
  have hw : n.worker.commands.Inv sz.maxCommands := (worker_inv_run sz []).commands
  have h0 : n.worker.commands.count = 0 := rfl
  have hq : (pgraftKvPutSql sz h n (some "a") (some "1")).returned = some true := by decide
  have hsz : 256 ≤ sz.kvKeySize ∧ 1024 ≤ sz.kvValueSize ∧
      ("pg_" ++ toString h.pid).length < sz.kvClientIdSize := by decide
  have hnul : '\x00' ∉ "a".data ∧ '\x00' ∉ "1".data := by decide
  have hfit : (kvOperationJson "kv_put" "a" (some "1") 5 ("pg_" ++ toString h.pid)).render.length
      < 2048 := by decide
  exact ⟨⟨hw, h0, hq, hsz, hnul, hfit⟩, put_replicates hw h0 hq hsz hnul hfit⟩

/-! ## A delete

`pgraft_kv_delete_sql` checks the key's length, never the store, so a delete of a key the
leader does not hold is queued like any other. Its text always fits the worker's buffer; on a
node whose store does not map the key, `pgraft_kv_delete_local` returns `-1` and
`pgraft_apply_kv_operation` raises an `ERROR` (`delete_replicates`). -/

theorem length_ite_le {p : Prop} [Decidable p] {a b : List Char} {k : Nat} (ha : a.length ≤ k)
    (hb : b.length ≤ k) : (if p then a else b).length ≤ k := by
  split <;> assumption

theorem length_escapeChar_le (c : Char) : (Json.escapeChar c).length ≤ 6 := by
  unfold Json.escapeChar
  repeat' apply length_ite_le
  all_goals simp

theorem length_quote_le (s : String) : (Json.quote s).length ≤ 6 * s.length + 2 := by
  rw [length_quote, String.length]
  suffices h : ∀ cs : List Char, (cs.flatMap Json.escapeChar).length ≤ 6 * cs.length by
    have := h s.data
    omega
  intro cs
  induction cs with
  | nil => exact Nat.zero_le _
  | cons c cs ih =>
    rw [List.flatMap_cons, List.length_append, List.length_cons]
    have := length_escapeChar_le c
    omega

/-- The text of a delete of a key under 256 characters, from a process id and a time that fit
their C types, fits the worker's 2048-byte buffer. -/
theorem length_render_delete_lt {key : String} (hk : key.length < 256) {pid : Nat}
    (hpid : pid < 2 ^ 31) {now : Int} (hnow : IsInt64 now) :
    (kvOperationJson "kv_delete" key none now ("pg_" ++ toString pid)).render.length < 2048 := by
  have hq := length_quote_le key
  have hc := length_quote_le ("pg_" ++ toString pid)
  have hp : (toString pid).length ≤ 10 := length_toString_nat (e := 10) (by omega) (by decide)
  have hn := length_toString_int64 hnow
  rw [length_render_delete]
  rw [String.length_append, show "pg_".length = 3 from rfl] at hc
  omega

section Delete

variable {sz : CoreSizes} {h : Host} {n : Node} {key : String}

/-- A delete that returns `true` passed the length checks and queued its command, with the
session's client id and time, into a queue that had room. -/
theorem pgraftKvDeleteSql_true (hq : (pgraftKvDeleteSql sz h n (some key)).returned = some true) :
    (0 < key.length ∧ key.length < 256) ∧
    n.worker.commands.count < sz.maxCommands ∧
    (pgraftKvDeleteSql sz h n (some key)).state =
      { n with worker := (pgraftQueueKvCommand sz n.worker .kvDelete (some key) none
          (some ("pg_" ++ toString h.pid)) h.now).1 } := by
  unfold pgraftKvDeleteSql at hq ⊢
  dsimp only at hq ⊢
  rw [strpbrk_invalidKeyChars] at hq ⊢
  by_cases hc : key.length = 0 ∨ 256 ≤ key.length ∨ false = true
  · rw [if_pos hc, Call.returned_ret] at hq; cases hq
  rw [if_neg hc] at hq ⊢
  unfold replicateKvOperation pgraftKvReplicateDelete at hq ⊢
  dsimp only at hq ⊢
  rcases hj : pgraftJsonCreateKvOperation 2 key none ("pg_" ++ toString h.pid) h.now 2048
    with m | text <;> rw [hj] at hq
  · rw [Call.map_raise, Call.returned_raise] at hq; cases hq
  dsimp only at hq ⊢
  simp only [if_neg (show (2 : Int) ≠ 1 by decide), if_pos] at hq ⊢
  obtain ⟨hlt, hst⟩ := pgraftKvQueueOperation_zero hq rfl
  exact ⟨by omega, hlt, by rw [Call.state_map, hst]⟩

/-- The worker's branch for a delete whose fields hold `key` and `clientId`: when the Go library
is loaded, its outcome is `pgraft_go_append_log`'s on the one text it builds, an `ERROR` when
the entry point is missing. -/
theorem executeCommand_kvDelete {cmd : Command} (ht : cmd.type = .kvDelete) (hk : cmd.kvKey = key)
    {clientId : String} (hc : cmd.kvClientId = clientId) {now : Int}
    (hfit : (kvOperationJson "kv_delete" key none now clientId).render.length < 2048)
    (e : Engine) (he : pgraftGoIsLoaded e.loader = true) (w : WorkerState) :
    (executeCommand sz e w cmd now).map (·.2.1) =
      (pgraftGoAppendLog e.lib e.loader (kvOperationJson "kv_delete" key none now clientId).render).map
        fun r => if r < 0 then .failed else .completed := by
  have hj : pgraftJsonCreateKvOperation 2 key none clientId now 2048 =
      .ok (kvOperationJson "kv_delete" key none now clientId).render :=
    (pgraftJsonCreateKvOperation_delete key none now clientId).mpr ⟨rfl, hfit⟩
  simp only [executeCommand, ht, replicateOutcome, he, if_true, hk, hc, hj]
  cases pgraftGoAppendLog e.lib e.loader (kvOperationJson "kv_delete" key none now clientId).render with
  | error m => rfl
  | ok r => simp only [Except.map]; split <;> rfl

/-- The text of a delete, delivered by the Go layer to a node, removes the key from a store that
maps it, and raises an `ERROR` on a node whose store does not, leaving that node as it was. -/
theorem pgraftGoApplyCallback_delete (hnul : '\x00' ∉ key.data) (now : Int) (clientId : String)
    (spi : Spi) {m : Node} (hm : m.kv.Inv) (N : Nat) (now' : Int) :
    ((m.kv.view key).isSome → ∃ m', pgraftGoApplyCallback spi m N
        (kvOperationJson "kv_delete" key none now clientId).render.data now' = .ret 0 m' ∧
      m'.kv.view = Function.update m.kv.view key none) ∧
    (m.kv.view key = none → pgraftGoApplyCallback spi m N
        (kvOperationJson "kv_delete" key none now clientId).render.data now' =
      .raise ("pgraft: failed to apply KV DELETE operation: key=\x27" ++ key ++ "\x27, error=" ++
        toString (-1 : Int)) m) := by
  have hT : cStr ⟨(kvOperationJson "kv_delete" key none now clientId).render.data⟩ =
      (kvOperationJson "kv_delete" key none now clientId).render :=
    cStr_of_not_mem (nul_not_mem_render_kvOperation "kv_delete" key none now clientId)
  rw [pgraftGoApplyCallback, pgraftApplyEntryToPostgres,
    if_pos (render_kvOperationJson_head key none now clientId _), hT, pgraftApplyKvOperation,
    parseKvOperation_delete key none now clientId hnul]
  dsimp only
  rw [pgraftKvDeleteLocal]
  rcases pgraftKvDelete_cases m.kv key 0 now' with ⟨hf, hd⟩ | ⟨i, e, hf, hd, -⟩
  · have hv := view_eq_none hf
    refine ⟨fun hs => (by rw [hv] at hs; cases hs), fun _ => ?_⟩
    rw [hd]
    rfl
  · refine ⟨fun _ => ⟨_, by rw [hd]; rfl, view_delete hm hd⟩, fun hv => ?_⟩
    have h' := (view_isSome (s := m.kv) (k := key)).symm
    rw [hv, hf] at h'
    cases h'

end Delete

/-- A delete that `pgraft_kv_delete_sql` accepts on the leader, into an empty command queue, is
the next command the worker takes, and its text always fits: the worker hands the Go layer one
text and reports the Go layer's answer to it. That text, delivered to a node whose store maps the
key, removes the key there and changes no other; delivered to a node whose store does not, it
raises an `ERROR` and leaves the node as it was. Nothing here asks the leader's store: a delete
of a key no node holds is accepted and then fails on every node. -/
theorem delete_replicates {sz : CoreSizes} {h : Host} {n : Node} {key : String} {now : Int}
    (hw : n.worker.commands.Inv sz.maxCommands) (h0 : n.worker.commands.count = 0)
    (hq : (pgraftKvDeleteSql sz h n (some key)).returned = some true)
    (hsz : 256 ≤ sz.kvKeySize ∧ ("pg_" ++ toString h.pid).length < sz.kvClientIdSize)
    (hnul : '\x00' ∉ key.data) (hpid : h.pid < 2 ^ 31) (hnow : IsInt64 now) :
    let text := (kvOperationJson "kv_delete" key none now ("pg_" ++ toString h.pid)).render
    ∃ cmd, (pgraftDequeueCommand sz (pgraftKvDeleteSql sz h n (some key)).state.worker).2 =
        some cmd ∧
      (∀ (e : Engine) (w : WorkerState), pgraftGoIsLoaded e.loader = true →
        (executeCommand sz e w cmd now).map (·.2.1) =
          (pgraftGoAppendLog e.lib e.loader text).map
            fun r => if r < 0 then .failed else .completed) ∧
      ∀ (spi : Spi) (m : Node) (N : Nat) (now' : Int), m.kv.Inv →
        ((m.kv.view key).isSome → ∃ m', pgraftGoApplyCallback spi m N text.data now' = .ret 0 m' ∧
          m'.kv.view = Function.update m.kv.view key none) ∧
        (m.kv.view key = none → pgraftGoApplyCallback spi m N text.data now' =
          .raise ("pgraft: failed to apply KV DELETE operation: key=\x27" ++ key ++
            "\x27, error=" ++ toString (-1 : Int)) m) := by
  intro text
  obtain ⟨⟨-, hk⟩, -, hst⟩ := pgraftKvDeleteSql_true hq
  refine ⟨_, by rw [hst]; exact dequeue_first_queued hw h0 _, fun e w he => ?_,
    fun spi m N now' hm => pgraftGoApplyCallback_delete hnul now _ spi hm N now'⟩
  exact executeCommand_kvDelete rfl (strncpyField_of_lt (by omega)) (strncpyField_of_lt hsz.2)
    (length_render_delete_lt hk hpid hnow) e he w

/-- A delete of `a` on a leader whose queue is empty and whose store is empty. -/
theorem delete_of_missing_key :
    let sz : CoreSizes := ⟨2, 1, 1, 1, 1, 256, 1, 16, 80, 1, Nat.two_pos, Nat.one_pos⟩
    let h : Host := ⟨⟨true, fun _ => []⟩, 0, 1, 1, 1⟩
    let n : Node := ⟨KvStore.empty, WorkerState.firstAttach sz⟩
    (n.worker.commands.Inv sz.maxCommands ∧ n.worker.commands.count = 0 ∧
      (pgraftKvDeleteSql sz h n (some "a")).returned = some true ∧
      (256 ≤ sz.kvKeySize ∧ ("pg_" ++ toString h.pid).length < sz.kvClientIdSize) ∧
      '\x00' ∉ "a".data ∧ h.pid < 2 ^ 31 ∧ IsInt64 5) ∧
    let text := (kvOperationJson "kv_delete" "a" none 5 ("pg_" ++ toString h.pid)).render
    ∃ cmd, (pgraftDequeueCommand sz (pgraftKvDeleteSql sz h n (some "a")).state.worker).2 =
        some cmd ∧
      (∀ (e : Engine) (w : WorkerState), pgraftGoIsLoaded e.loader = true →
        (executeCommand sz e w cmd 5).map (·.2.1) =
          (pgraftGoAppendLog e.lib e.loader text).map
            fun r => if r < 0 then .failed else .completed) ∧
      ∀ (spi : Spi) (m : Node) (N : Nat) (now' : Int), m.kv.Inv →
        ((m.kv.view "a").isSome → ∃ m', pgraftGoApplyCallback spi m N text.data now' = .ret 0 m' ∧
          m'.kv.view = Function.update m.kv.view "a" none) ∧
        (m.kv.view "a" = none → pgraftGoApplyCallback spi m N text.data now' =
          .raise ("pgraft: failed to apply KV DELETE operation: key=\x27" ++ "a" ++
            "\x27, error=" ++ toString (-1 : Int)) m) := by
  intro sz h n
  have hw : n.worker.commands.Inv sz.maxCommands := (worker_inv_run sz []).commands
  have h0 : n.worker.commands.count = 0 := rfl
  have hq : (pgraftKvDeleteSql sz h n (some "a")).returned = some true := by decide
  have hsz : 256 ≤ sz.kvKeySize ∧ ("pg_" ++ toString h.pid).length < sz.kvClientIdSize := by
    decide
  have hnul : '\x00' ∉ "a".data := by decide
  have hnow : IsInt64 5 := by unfold IsInt64; decide
  exact ⟨⟨hw, h0, hq, hsz, hnul, by decide, hnow⟩,
    delete_replicates hw h0 hq hsz hnul (by decide) hnow⟩

end Pgraft
