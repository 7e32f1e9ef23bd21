import Pgraft.WorkerLoop
import Mathlib.Data.List.DropRight

/-!
# The status buffer and the apply queue of a running node

`pgraft_get_queue_status` does not read the command queue: it walks the status buffer from
`status_head` and returns, per record, its position, type, node id, address, port and log data.
Records enter that buffer only in `pgraft_main`, which copies in each command it takes off the
queue (`pgraft_add_command_to_status`) and later rewrites the record's status and error message.
Nothing removes one (`pgraft_remove_completed_commands` has no caller), so a record leaves only
when a full buffer drops its oldest.

Over any run of a node from first attach, with the producers the SQL functions call, the Go
layer's apply callback, the apply path's applied-index record and turns of the loop interleaved
in any order, and whether or not a turn raises, the rows are the last `MAX_COMMANDS` commands the
loop took, in the order it took them, numbered from 0 (`queue_status_lists_taken`); the commands
still waiting in the queue play no part.

Over the same runs the apply queue only fills: no call takes an entry off, so it holds the first
`MAX_APPLY_ENTRIES` entries the Go layer offered whose data fit, and refuses every later one
(`apply_queue_keeps_first_offered`).
-/

namespace Pgraft

variable (sz : CoreSizes)

/-! ## The model -/

/-- The columns of a row of `pgraft_get_queue_status` after its position. -/
structure QueueStatusRow where
  type : CommandType
  nodeId : Int
  address : String
  port : Int
  logData : String
deriving DecidableEq

/-- The row of a status record. -/
def Command.queueStatusRow (c : Command) : QueueStatusRow :=
  ⟨c.type, c.nodeId, c.address, c.port, c.logData⟩

/-- `pgraft_get_queue_status`: from `status_head`, one row per record, numbered from 0. -/
def pgraftGetQueueStatus (w : WorkerState) : List (Nat × QueueStatusRow) :=
  (w.statusCommands.contents sz.maxCommands).enum.map fun p => (p.1, p.2.queueStatusRow)

/-- The calls that reach the worker state of a running node: the producers behind the log and
key/value SQL functions, the Go layer's `pgraft_enqueue_for_apply_from_go`, the apply path's
`pgraft_record_applied_index`, and turns of the loop. -/
inductive NodeCall
  | queueLogCommand (type : CommandType) (logData : Option String) (logIndex now : Int)
  | queueKvCommand (type : CommandType) (key value clientId : Option String) (now : Int)
  | enqueueForApplyFromGo (raftIndex : Nat) (data : Option (List Char)) (dataLen : Nat)
  | recordAppliedIndex (index : Nat)
  | turn (e : Engine) (now : Int)

namespace NodeCall

/-- The worker state a call leaves, whether it returned or raised. -/
def step : NodeCall → WorkerState → WorkerState
  | queueLogCommand t d i now, w => (pgraftQueueLogCommand sz w t d i now).1
  | queueKvCommand t k v c now, w => (pgraftQueueKvCommand sz w t k v c now).1
  | enqueueForApplyFromGo i d n, w => (pgraftEnqueueForApplyFromGo sz w i d n).1
  | recordAppliedIndex i, w => pgraftRecordAppliedIndex w i
  | turn e now, w => (pgraftMainStep sz e w now).state

/-- The command a turn takes off the queue. -/
def taken : NodeCall → WorkerState → List Command
  | turn _ _, w => (pgraftDequeueCommand sz w).2.toList
  | _, _ => []

/-- A run: the worker state it leaves and the commands the loop took, in order. -/
def run : List NodeCall → WorkerState → WorkerState × List Command
  | [], w => (w, [])
  | c :: cs, w =>
    let r := run cs (c.step sz w)
    (r.1, c.taken sz w ++ r.2)

end NodeCall

/-! ## The rows along a run -/

/-- The rows of the status buffer, without their positions. -/
def statusRows (w : WorkerState) : List QueueStatusRow :=
  (w.statusCommands.contents sz.maxCommands).map Command.queueStatusRow

@[simp] theorem queueStatusRow_statusUpdated (st : CommandStatus) (m : Option String)
    (c : Command) : (statusUpdated sz st m c).queueStatusRow = c.queueStatusRow := rfl

theorem pgraftGetQueueStatus_eq (w : WorkerState) :
    pgraftGetQueueStatus sz w = (statusRows sz w).enum := by
  rw [pgraftGetQueueStatus, statusRows, List.enum_map]; rfl

/-- Appending to a list of at most `m` elements and keeping the last `m` drops the first
element exactly when the list was full. -/
theorem rtake_concat_of_length_le {α : Type} {R : List α} {m : Nat} (hm : 0 < m)
    (hR : R.length ≤ m) (x : α) :
    (R ++ [x]).rtake m = (if m ≤ R.length then R.tail else R) ++ [x] := by
  rw [List.rtake, List.length_append, List.length_singleton]
  split
  · rw [show R.length + 1 - m = 1 by omega, List.drop_one,
      List.tail_append_of_ne_nil (List.ne_nil_of_length_pos (by omega))]
  · rw [show R.length + 1 - m = 0 by omega, List.drop_zero]

theorem rtake_of_length_le {α : Type} {R : List α} {m : Nat} (h : R.length ≤ m) :
    R.rtake m = R := by
  rw [List.rtake, Nat.sub_eq_zero_of_le h, List.drop_zero]

theorem rtake_rtake_append {α : Type} (m : Nat) (A B : List α) :
    (A.rtake m ++ B).rtake m = (A ++ B).rtake m := by
  simp only [List.rtake, ← List.drop_append_of_le_length (Nat.sub_le A.length m),
    List.drop_drop, List.length_append, List.length_drop]
  congr 1
  omega

section Turn

variable {sz} {w : WorkerState}

/-- A record whose status a turn rewrites keeps its row. -/
theorem map_set_queueStatusRow (l : List Command) (i : Nat) (st : CommandStatus)
    (m : Option String) :
    (l.set i (statusUpdated sz st m (l.getD i default))).map Command.queueStatusRow =
      l.map Command.queueStatusRow := by
  rw [List.map_set]
  refine List.ext_getElem (by simp) fun j h _ => ?_
  rw [List.getElem_set]
  split
  · subst_vars; simp_all [List.getD_eq_getElem?_getD]
  · rfl

/-- A turn appends the row of the command it takes, dropping the oldest row of a full buffer;
a turn that raises has already copied the command in. -/
theorem statusRows_mainStep (hw : w.statusCommands.Inv sz.maxCommands) (e : Engine) (now : Int) :
    statusRows sz (pgraftMainStep sz e w now).state =
      (statusRows sz w ++ (pgraftDequeueCommand sz w).2.toList.map Command.queueStatusRow).rtake
        sz.maxCommands := by
  have hlen : (statusRows sz w).length ≤ sz.maxCommands := by
    simpa [statusRows] using hw.count_le
  have h1 := @pgraftDequeueCommand_statusCommands sz w
  rcases hd : pgraftDequeueCommand sz w with ⟨w₁, _ | cmd⟩ <;> rw [hd] at h1 <;> dsimp only at h1
  · simp only [pgraftMainStep, hd, Call.state_ret, Option.toList_none, List.map_nil,
      List.append_nil]
    rw [rtake_of_length_le hlen, statusRows, statusRows, h1]
  · have hkept : (statusKept sz w).map Command.queueStatusRow ++ [cmd.queueStatusRow] =
        (statusRows sz w ++ [cmd.queueStatusRow]).rtake sz.maxCommands := by
      rw [rtake_concat_of_length_le sz.maxCommands_pos hlen, statusKept]
      simp only [statusRows, List.length_map, Ring.length_contents]
      split <;> simp
    simp only [Option.toList_some, List.map_cons, List.map_nil, ← hkept]
    rcases hx : executeCommand sz e (pgraftAddCommandToStatus sz w₁ cmd) cmd now with
      m | ⟨w₂, st, msg⟩
    · simp only [pgraftMainStep, hd, hx, Call.state_raise, statusRows]
      rw [(pgraftAddCommandToStatus_spec (h1 ▸ hw) cmd).2, h1, statusKept, List.map_append]
      rfl
    · rw [statusRows, (mainStep_contents hw hd hx).2]
      split
      · rw [List.map_append, map_set_queueStatusRow]; rfl
      · simp

end Turn

namespace NodeCall

variable {sz}

/-- Every call keeps the cursor discipline of the three buffers, and the rows gain the row of
the command a turn takes, keeping the last `MAX_COMMANDS`. -/
theorem step_rows {w : WorkerState} (hw : WorkerInv sz w) (c : NodeCall) :
    WorkerInv sz (c.step sz w) ∧
      statusRows sz (c.step sz w) =
        (statusRows sz w ++ (c.taken sz w).map Command.queueStatusRow).rtake sz.maxCommands := by
  have hlen : (statusRows sz w).length ≤ sz.maxCommands := by
    simpa [statusRows] using hw.statusCommands.count_le
  -- every call but a turn leaves the status buffer as it was and takes nothing
  have hkeep : ∀ {w' : WorkerState}, w'.statusCommands = w.statusCommands →
      statusRows sz w' = (statusRows sz w ++ ([] : List Command).map Command.queueStatusRow).rtake
        sz.maxCommands := fun h => by
    rw [List.map_nil, List.append_nil, rtake_of_length_le hlen, statusRows, statusRows, h]
  cases c with
  | turn e now => exact ⟨hw.mainStep, statusRows_mainStep hw.statusCommands e now⟩
  | queueLogCommand t d i now =>
    exact ⟨hw.step sz (.queueLogCommand t d i now), hkeep (queueCommandWith_statusCommands _)⟩
  | queueKvCommand t k v c now =>
    exact ⟨hw.step sz (.queueKvCommand t k v c now), hkeep (queueCommandWith_statusCommands _)⟩
  | enqueueForApplyFromGo i d n =>
    exact ⟨hw.step sz (.enqueueApplyEntry i d n),
      hkeep (pgraftEnqueueApplyEntry_statusCommands i d n)⟩
  | recordAppliedIndex i =>
    exact ⟨hw.step sz (.recordAppliedIndex i), hkeep rfl⟩

/-- Along a run, the rows are the last `MAX_COMMANDS` of the old rows followed by the rows of
the commands the loop took. -/
theorem run_rows : ∀ (cs : List NodeCall) (w : WorkerState), WorkerInv sz w →
    WorkerInv sz (run sz cs w).1 ∧
      statusRows sz (run sz cs w).1 =
        (statusRows sz w ++ (run sz cs w).2.map Command.queueStatusRow).rtake sz.maxCommands
  | [], w, hw => ⟨hw, by
      rw [run, List.map_nil, List.append_nil, rtake_of_length_le]
      simpa [statusRows] using hw.statusCommands.count_le⟩
  | c :: cs, w, hw => by
    obtain ⟨h₁, h₂⟩ := step_rows hw c
    obtain ⟨h₃, h₄⟩ := run_rows cs _ h₁
    refine ⟨h₃, ?_⟩
    simp only [run, h₄, h₂, rtake_rtake_append, List.map_append, List.append_assoc]

end NodeCall

/-- Over any run of a node from first attach, `pgraft_get_queue_status` lists the last
`MAX_COMMANDS` commands the loop took off the queue, in the order it took them, numbered from 0;
the commands still waiting in the queue play no part. -/
theorem queue_status_lists_taken (cs : List NodeCall) :
    pgraftGetQueueStatus sz (NodeCall.run sz cs (WorkerState.firstAttach sz)).1 =
      (((NodeCall.run sz cs (WorkerState.firstAttach sz)).2.map Command.queueStatusRow).rtake
        sz.maxCommands).enum := by
  have hs : statusRows sz (WorkerState.firstAttach sz) = [] := by
    apply List.eq_nil_of_length_eq_zero
    simp only [statusRows, List.length_map, Ring.length_contents]
    rfl
  rw [pgraftGetQueueStatus_eq,
    (NodeCall.run_rows cs (WorkerState.firstAttach sz) (worker_inv_run sz [])).2, hs,
    List.nil_append]

/-! ## The apply queue of a running node

Only `pgraft_util.c` touches the apply queue, and only `pgraft_enqueue_apply_entry` (behind
`pgraft_enqueue_for_apply_from_go`) and `pgraft_dequeue_apply_entry` change it. The second has no
caller: `pgraft_main` never takes an entry off. So the queue keeps the first `MAX_APPLY_ENTRIES`
entries whose data fit, and refuses every entry after them
(`apply_queue_keeps_first_offered`). -/

/-- The raft index and data length of the apply queue's entries, oldest first. -/
def applyRows (w : WorkerState) : List (Nat × Nat) :=
  (w.applyQueue.contents sz.maxApplyEntries).map fun e => (e.raftIndex, e.dataLen)

/-- The raft index and data length the Go layer hands to `pgraft_enqueue_for_apply_from_go`. -/
def NodeCall.offered : NodeCall → List (Nat × Nat)
  | .enqueueForApplyFromGo i _ n => [(i, n)]
  | _ => []

/-- Keeping the first `m` elements twice keeps them once. -/
theorem take_take_append {α : Type} (m : Nat) (A B : List α) :
    (A.take m ++ B).take m = (A ++ B).take m := by
  rw [List.take_append_eq_append_take, List.take_append_eq_append_take, List.take_take,
    Nat.min_self, List.length_take]
  congr 2
  omega

section ApplyQueue

variable {sz} {w : WorkerState}

/-- A turn of the loop leaves the apply queue as it was. -/
theorem pgraftMainStep_applyQueue (e : Engine) (now : Int) :
    (pgraftMainStep sz e w now).state.applyQueue = w.applyQueue := by
  have h1 := @pgraftDequeueCommand_applyQueue sz w
  unfold pgraftMainStep
  rcases hd : pgraftDequeueCommand sz w with ⟨w₁, _ | cmd⟩ <;> rw [hd] at h1
  · exact h1
  · dsimp only
    rcases hx : executeCommand sz e (pgraftAddCommandToStatus sz w₁ cmd) cmd now with
      _ | ⟨w₂, st, msg⟩
    · exact h1
    · rw [Call.state_ret, pgraftUpdateCommandStatus_applyQueue, executeCommand_frame hx]
      exact h1

/-- A call appends the entry the Go layer offers when its data fit and the queue has room;
no call removes one. -/
theorem NodeCall.step_applyRows (hw : WorkerInv sz w) (c : NodeCall) :
    applyRows sz (c.step sz w) =
      (applyRows sz w ++ c.offered.filter (·.2 ≤ sz.applyDataSize)).take sz.maxApplyEntries := by
  have hlen : (applyRows sz w).length = w.applyQueue.count := by
    rw [applyRows, List.length_map, Ring.length_contents]
  have hle := hw.applyQueue.count_le
  -- every call but the Go callback leaves the apply queue as it was and offers nothing
  have hkeep : ∀ {w' : WorkerState}, w'.applyQueue = w.applyQueue →
      applyRows sz w' = (applyRows sz w ++ ([] : List (Nat × Nat)).filter (·.2 ≤ sz.applyDataSize)).take
        sz.maxApplyEntries := fun h => by
    rw [List.filter_nil, List.append_nil, List.take_of_length_le (by omega), applyRows, applyRows, h]
  cases c with
  | turn e now => exact hkeep (pgraftMainStep_applyQueue e now)
  | queueLogCommand t d i now => exact hkeep (queueCommandWith_applyQueue _)
  | queueKvCommand t k v c now => exact hkeep (queueCommandWith_applyQueue _)
  | recordAppliedIndex i => exact hkeep rfl
  | enqueueForApplyFromGo i d n =>
    have hc := (pgraftEnqueueApplyEntry_moves hw.applyQueue i d n).2
    simp only [NodeCall.step, pgraftEnqueueForApplyFromGo, NodeCall.offered]
    rw [applyRows, hc, List.map_append, ← applyRows, List.take_append_eq_append_take,
      List.take_of_length_le (by omega), hlen]
    by_cases hn : n ≤ sz.applyDataSize
    · by_cases hr : w.applyQueue.count < sz.maxApplyEntries
      · rw [if_pos ⟨hr, hn⟩, List.filter_singleton, decide_eq_true hn, cond_true,
          List.take_of_length_le (by simp; omega)]
        rfl
      · rw [if_neg (fun h => hr h.1), show sz.maxApplyEntries - w.applyQueue.count = 0 by omega,
          List.take_zero]
        rfl
    · rw [if_neg (fun h => hn h.2), List.filter_singleton, decide_eq_false hn, cond_false,
        List.take_nil]
      rfl

/-- Along a run, the apply queue is the first `MAX_APPLY_ENTRIES` of its old entries followed by
the offered entries whose data fit. -/
theorem NodeCall.run_applyRows : ∀ (cs : List NodeCall) (w : WorkerState), WorkerInv sz w →
    applyRows sz (NodeCall.run sz cs w).1 =
      (applyRows sz w ++ (cs.flatMap NodeCall.offered).filter (·.2 ≤ sz.applyDataSize)).take
        sz.maxApplyEntries
  | [], w, hw => by
    rw [NodeCall.run, List.flatMap_nil, List.filter_nil, List.append_nil,
      List.take_of_length_le]
    rw [applyRows, List.length_map, Ring.length_contents]
    exact hw.applyQueue.count_le
  | c :: cs, w, hw => by
    rw [NodeCall.run, NodeCall.run_applyRows cs _ ((NodeCall.step_rows hw c).1),
      NodeCall.step_applyRows hw c, take_take_append, List.flatMap_cons, List.filter_append,
      List.append_assoc]

end ApplyQueue

/-- On a running node from first attach, whatever the producers, the Go layer's callback, the
apply path's applied-index record and the loop's turns do and in whatever order, the apply queue
holds exactly the first `MAX_APPLY_ENTRIES` entries offered through
`pgraft_enqueue_for_apply_from_go` whose data fit, in the order offered: nothing takes one off.
Once that many have been offered, every later call of `pgraft_enqueue_for_apply_from_go`
returns `-1`. -/
theorem apply_queue_keeps_first_offered (cs : List NodeCall) :
    applyRows sz (NodeCall.run sz cs (WorkerState.firstAttach sz)).1 =
        ((cs.flatMap NodeCall.offered).filter (·.2 ≤ sz.applyDataSize)).take sz.maxApplyEntries ∧
      (sz.maxApplyEntries ≤ ((cs.flatMap NodeCall.offered).filter (·.2 ≤ sz.applyDataSize)).length →
        ∀ i d n, (pgraftEnqueueForApplyFromGo sz
          (NodeCall.run sz cs (WorkerState.firstAttach sz)).1 i d n).2 = -1) := by
  have hrows := NodeCall.run_applyRows cs (WorkerState.firstAttach sz) (worker_inv_run sz [])
  have h0 : applyRows sz (WorkerState.firstAttach sz) = [] := by
    apply List.eq_nil_of_length_eq_zero
    rw [applyRows, List.length_map, Ring.length_contents]
    rfl
  rw [h0, List.nil_append] at hrows
  refine ⟨hrows, fun hfull i d n => ?_⟩
  have hcount : sz.maxApplyEntries ≤
      (NodeCall.run sz cs (WorkerState.firstAttach sz)).1.applyQueue.count := by
    rw [← Ring.length_contents, ← List.length_map _ fun e : ApplyEntry => (e.raftIndex, e.dataLen),
      ← applyRows, hrows, List.length_take]
    omega
  simp only [pgraftEnqueueForApplyFromGo, pgraftEnqueueApplyEntry, if_pos hcount]
  rfl

/-- With room for one entry: the Go layer offers index 7, a log append is queued and taken by a
turn, and index 8 is then refused; so is any later entry. -/
theorem apply_queue_refuses_after_one :
    let sz : CoreSizes := ⟨1, 1, 1, 1, 4, 1, 1, 1, 64, 4, Nat.one_pos, Nat.one_pos⟩
    let e : Engine :=
      ⟨fun _ _ _ => 0, fun _ _ _ => 0, fun _ => 0, fun _ _ => 0, fun _ => 0, fun _ => 0,
        sampleLibrary, sampleLoader⟩
    let cs := [NodeCall.enqueueForApplyFromGo 7 none 0,
      .queueLogCommand .logAppend (some "x") 1 0, .turn e 0, .enqueueForApplyFromGo 8 none 0]
    applyRows sz (NodeCall.run sz cs (WorkerState.firstAttach sz)).1 = [(7, 0)] ∧
      sz.maxApplyEntries ≤ ((cs.flatMap NodeCall.offered).filter (·.2 ≤ sz.applyDataSize)).length ∧
      (pgraftEnqueueForApplyFromGo sz (NodeCall.run sz cs (WorkerState.firstAttach sz)).1 9 none
        0).2 = -1 := by
  intro sz e cs
  have hfull : sz.maxApplyEntries ≤
      ((cs.flatMap NodeCall.offered).filter (·.2 ≤ sz.applyDataSize)).length := by
    decide
  exact ⟨(apply_queue_keeps_first_offered sz cs).1.trans (by decide), hfull,
    (apply_queue_keeps_first_offered sz cs).2 hfull 9 none 0⟩

end Pgraft
