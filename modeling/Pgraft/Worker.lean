import Pgraft.Ring

/-!
# The worker state and its queues

`pgraft_worker_state_t` with the fields `pgraft.c`, `pgraft_util.c` and `pgraft_apply.c`
use: the worker's identity and status, the command queue and the status buffer of
`MAX_COMMANDS` commands, the apply queue of `MAX_APPLY_ENTRIES` committed entries, and the
last applied index. The struct, its array sizes and the sizes of its string fields are in
`pgraft_core.h`, which is not among the sources: the sizes are parameters (`CoreSizes`), and
the enumerations are listed in the order the specification gives them.

`pgraft_worker_get_state` attaches with `ShmemInitStruct`, which hands out memory of the
segment the host creates zero-filled, and sets the identity and the command and status
cursors when the struct is new; the apply cursors keep the zeros of fresh memory
(`WorkerState.firstAttach`). Each function is the part of its C namesake after the state
pointer has been found non-null; `now` is what `time(NULL)` returns during the call.
-/

namespace Pgraft

/-- The sizes `pgraft_core.h` fixes: `MAX_COMMANDS`, `MAX_APPLY_ENTRIES` and the `sizeof` of
each string field the code copies into. -/
structure CoreSizes where
  maxCommands : Nat
  maxApplyEntries : Nat
  addressSize : Nat
  clusterIdSize : Nat
  logDataSize : Nat
  kvKeySize : Nat
  kvValueSize : Nat
  kvClientIdSize : Nat
  errorMessageSize : Nat
  applyDataSize : Nat
  maxCommands_pos : 0 < maxCommands
  maxApplyEntries_pos : 0 < maxApplyEntries

/-- `COMMAND_TYPE`. -/
inductive CommandType
  | init | addNode | removeNode | logAppend | logCommit | logApply | kvPut | kvDelete | shutdown
deriving DecidableEq, Repr, Inhabited

/-- `COMMAND_STATUS`. -/
inductive CommandStatus
  | pending | processing | completed | failed
deriving DecidableEq, Repr, Inhabited

/-- `status == COMMAND_STATUS_COMPLETED || status == COMMAND_STATUS_FAILED`. -/
def CommandStatus.isDone : CommandStatus → Bool
  | .completed | .failed => true
  | .pending | .processing => false

/-- `pgraft_command_t`. The all-zero record is `default`. -/
structure Command where
  type : CommandType
  nodeId : Int
  address : String
  port : Int
  clusterId : String
  logData : String
  logIndex : Int
  kvKey : String
  kvValue : String
  kvClientId : String
  status : CommandStatus
  errorMessage : String
  timestamp : Int
deriving DecidableEq, Repr, Inhabited

/-- `pgraft_apply_entry_t`; the characters of `data` stand for the bytes of its buffer. -/
structure ApplyEntry where
  raftIndex : Nat
  dataLen : Nat
  data : List Char
  applied : Bool
deriving DecidableEq, Repr, Inhabited

/-- The worker's status. -/
inductive WorkerStatus
  | stopped | initializing | running | stopping
deriving DecidableEq, Repr, Inhabited

/-- `pgraft_worker_state_t` without the lock. -/
structure WorkerState where
  nodeId : Int
  address : String
  port : Int
  status : WorkerStatus
  commands : Ring Command
  statusCommands : Ring Command
  applyQueue : Ring ApplyEntry
  lastAppliedIndex : Nat
deriving DecidableEq, Repr

variable (sz : CoreSizes)

namespace WorkerState

/-- The struct in fresh, zero-filled shared memory. -/
def zero : WorkerState :=
  ⟨0, "", 0, default, Ring.zero sz.maxCommands, Ring.zero sz.maxCommands,
    Ring.zero sz.maxApplyEntries, 0⟩

/-- The `!found` branch of `pgraft_worker_get_state`. -/
def setup (w : WorkerState) : WorkerState :=
  { w with
    nodeId := 0, port := 0, address := "127.0.0.1", status := .stopped
    commands := { w.commands with head := 0, tail := 0, count := 0 }
    statusCommands := { w.statusCommands with head := 0, tail := 0, count := 0 } }

/-- The state `pgraft_worker_get_state` leaves on first attach. -/
def firstAttach : WorkerState := (zero sz).setup

end WorkerState

/-- `strncpy(field, s, sizeof(field) - 1)` of an argument that may be `NULL`, which leaves
the empty string. -/
def cField (size : Nat) : Option String → String
  | some s => strncpyField size s
  | none => ""

/-! ## The command queue -/

/-- The shared body of the three producers: `false` when `command_count >= MAX_COMMANDS`,
otherwise `fill` writes the producer's fields over the slot at `command_tail` and the slot
is pushed. The fields a producer does not write keep what the slot held. -/
def queueCommandWith (w : WorkerState) (fill : Command → Command) : WorkerState × Bool :=
  match w.commands.offer sz.maxCommands fill with
  | none => (w, false)
  | some r => ({ w with commands := r }, true)

/-- What `pgraft_queue_command` writes over a command slot. -/
def queuedCommand (type : CommandType) (nodeId : Int) (address : Option String) (port : Int)
    (clusterId : Option String) (now : Int) (c : Command) : Command :=
  { c with
    type := type, nodeId := nodeId, address := cField sz.addressSize address, port := port
    clusterId := cField sz.clusterIdSize clusterId, status := .pending, errorMessage := ""
    timestamp := now }

/-- `pgraft_queue_command`. -/
def pgraftQueueCommand (w : WorkerState) (type : CommandType) (nodeId : Int)
    (address : Option String) (port : Int) (clusterId : Option String) (now : Int) :
    WorkerState × Bool :=
  queueCommandWith sz w (queuedCommand sz type nodeId address port clusterId now)

/-- What `pgraft_queue_log_command` writes over a command slot. -/
def queuedLogCommand (type : CommandType) (logData : Option String) (logIndex now : Int)
    (c : Command) : Command :=
  { c with
    type := type, nodeId := 0, address := "", port := 0, clusterId := ""
    logData := cField sz.logDataSize logData, logIndex := logIndex, status := .pending
    errorMessage := "", timestamp := now }

/-- `pgraft_queue_log_command`. -/
def pgraftQueueLogCommand (w : WorkerState) (type : CommandType) (logData : Option String)
    (logIndex now : Int) : WorkerState × Bool :=
  queueCommandWith sz w (queuedLogCommand sz type logData logIndex now)

/-- What `pgraft_queue_kv_command` writes over a command slot. -/
def queuedKvCommand (type : CommandType) (key value clientId : Option String) (now : Int)
    (c : Command) : Command :=
  { c with
    type := type, nodeId := 0, address := "", port := 0, clusterId := ""
    kvKey := cField sz.kvKeySize key, kvValue := cField sz.kvValueSize value
    kvClientId := cField sz.kvClientIdSize clientId, status := .pending, errorMessage := ""
    timestamp := now }

/-- `pgraft_queue_kv_command`. -/
def pgraftQueueKvCommand (w : WorkerState) (type : CommandType) (key value clientId : Option String)
    (now : Int) : WorkerState × Bool :=
  queueCommandWith sz w (queuedKvCommand sz type key value clientId now)

/-- `pgraft_dequeue_command`: `none` is the `false` of an empty queue. -/
def pgraftDequeueCommand (w : WorkerState) : WorkerState × Option Command :=
  match w.commands.take sz.maxCommands with
  | none => (w, none)
  | some (c, r) => ({ w with commands := r }, some c)

/-! ## The status buffer -/

/-- `pgraft_add_command_to_status`: when the buffer is full the oldest record is dropped,
then the command is copied in at `status_tail`. It always returns `true`. -/
def pgraftAddCommandToStatus (w : WorkerState) (cmd : Command) : WorkerState :=
  let r := if sz.maxCommands ≤ w.statusCommands.count then
    w.statusCommands.pop sz.maxCommands else w.statusCommands
  { w with statusCommands := r.push sz.maxCommands cmd }

/-- The loop of `pgraft_get_command_status` and `pgraft_update_command_status`: the first
`i < status_count` whose record at `(status_head + i) % MAX_COMMANDS` has the timestamp. -/
def statusFind (w : WorkerState) (timestamp : Int) : Option Nat :=
  (w.statusCommands.contents sz.maxCommands).findIdx? (·.timestamp == timestamp)

/-- `pgraft_get_command_status`. -/
def pgraftGetCommandStatus (w : WorkerState) (timestamp : Int) : Option Command :=
  (statusFind sz w timestamp).map fun i =>
    w.statusCommands.slot ((w.statusCommands.head + i) % sz.maxCommands)

/-- What `pgraft_update_command_status` writes over the record it finds: the error message
is copied only when one is given. -/
def statusUpdated (status : CommandStatus) (errorMessage : Option String) (c : Command) :
    Command :=
  { c with
    status := status
    errorMessage := match errorMessage with
      | some m => strncpyField sz.errorMessageSize m
      | none => c.errorMessage }

/-- `pgraft_update_command_status`. -/
def pgraftUpdateCommandStatus (w : WorkerState) (timestamp : Int) (status : CommandStatus)
    (errorMessage : Option String) : WorkerState × Bool :=
  match statusFind sz w timestamp with
  | none => (w, false)
  | some i =>
    let index := (w.statusCommands.head + i) % sz.maxCommands
    let c := statusUpdated sz status errorMessage (w.statusCommands.slot index)
    ({ w with statusCommands := { w.statusCommands with
        slots := w.statusCommands.slots.set index c } }, true)

/-- The loop of `pgraft_remove_completed_commands` at offset `i` with `removed` records
dropped so far and `n` offsets left: a record still pending or processing is copied down
`removed` slots. -/
def removeCompletedLoop (cap head : Nat) :
    List Command → Nat → Nat → Nat → List Command × Nat
  | slots, _, removed, 0 => (slots, removed)
  | slots, i, removed, n + 1 =>
    let c := slots.getD ((head + i) % cap) default
    if c.status.isDone then removeCompletedLoop cap head slots (i + 1) (removed + 1) n
    else
      removeCompletedLoop cap head
        (if removed > 0 then slots.set ((head + i - removed) % cap) c else slots)
        (i + 1) removed n

/-- `pgraft_remove_completed_commands`: after the loop, `status_head` advances by the
number removed and `status_count` falls by it. -/
def pgraftRemoveCompletedCommands (w : WorkerState) : WorkerState :=
  let r := w.statusCommands
  let res := removeCompletedLoop sz.maxCommands r.head r.slots 0 0 r.count
  { w with statusCommands :=
      { r with slots := res.1, head := (r.head + res.2) % sz.maxCommands,
               count := r.count - res.2 } }

/-! ## The apply queue -/

/-- `memcpy(dst, src, n)` into a buffer: its first `n` bytes replaced. -/
def memcpyPrefix (dst src : List Char) (n : Nat) : List Char := src.take n ++ dst.drop n

/-- The fields `pgraft_enqueue_apply_entry` writes over the slot at `apply_tail`; the data
is copied only when the pointer is non-null and the length positive. -/
def applyFill (raftIndex : Nat) (data : Option (List Char)) (dataLen : Nat) (e : ApplyEntry) :
    ApplyEntry :=
  { e with
    raftIndex := raftIndex, dataLen := dataLen
    data := match data with
      | some d => if dataLen > 0 then memcpyPrefix e.data d dataLen else e.data
      | none => e.data
    applied := false }

/-- `pgraft_enqueue_apply_entry`: refused when the queue is full or the data does not fit
the entry's buffer. -/
def pgraftEnqueueApplyEntry (w : WorkerState) (raftIndex : Nat) (data : Option (List Char))
    (dataLen : Nat) : WorkerState × Bool :=
  if sz.maxApplyEntries ≤ w.applyQueue.count then (w, false)
  else if dataLen > sz.applyDataSize then (w, false)
  else
    let e := applyFill raftIndex data dataLen (w.applyQueue.slot w.applyQueue.tail)
    ({ w with applyQueue := w.applyQueue.push sz.maxApplyEntries e }, true)

/-- `pgraft_enqueue_for_apply_from_go`: `0` on success, `-1` otherwise. -/
def pgraftEnqueueForApplyFromGo (w : WorkerState) (raftIndex : Nat) (data : Option (List Char))
    (dataLen : Nat) : WorkerState × Int :=
  let r := pgraftEnqueueApplyEntry sz w raftIndex data dataLen
  (r.1, if r.2 then 0 else -1)

/-- `pgraft_dequeue_apply_entry`: `none` is the `false` of an empty queue. -/
def pgraftDequeueApplyEntry (w : WorkerState) : WorkerState × Option ApplyEntry :=
  match w.applyQueue.take sz.maxApplyEntries with
  | none => (w, none)
  | some (e, r) => ({ w with applyQueue := r }, some e)

/-- `pgraft_record_applied_index`. -/
def pgraftRecordAppliedIndex (w : WorkerState) (index : Nat) : WorkerState :=
  { w with lastAppliedIndex := index }

/-- `pgraft_get_applied_index`. -/
def pgraftGetAppliedIndex (w : WorkerState) : Nat := w.lastAppliedIndex

/-! ## What each call leaves alone -/

section Frames

variable {sz} {w : WorkerState}

@[simp] theorem queueCommandWith_statusCommands (fill : Command → Command) :
    (queueCommandWith sz w fill).1.statusCommands = w.statusCommands := by
  unfold queueCommandWith; split <;> rfl
@[simp] theorem queueCommandWith_applyQueue (fill : Command → Command) :
    (queueCommandWith sz w fill).1.applyQueue = w.applyQueue := by
  unfold queueCommandWith; split <;> rfl
@[simp] theorem queueCommandWith_lastAppliedIndex (fill : Command → Command) :
    (queueCommandWith sz w fill).1.lastAppliedIndex = w.lastAppliedIndex := by
  unfold queueCommandWith; split <;> rfl
@[simp] theorem pgraftDequeueCommand_statusCommands :
    (pgraftDequeueCommand sz w).1.statusCommands = w.statusCommands := by
  unfold pgraftDequeueCommand; split <;> rfl
@[simp] theorem pgraftDequeueCommand_applyQueue :
    (pgraftDequeueCommand sz w).1.applyQueue = w.applyQueue := by
  unfold pgraftDequeueCommand; split <;> rfl
@[simp] theorem pgraftAddCommandToStatus_commands (c : Command) :
    (pgraftAddCommandToStatus sz w c).commands = w.commands := rfl
@[simp] theorem pgraftAddCommandToStatus_applyQueue (c : Command) :
    (pgraftAddCommandToStatus sz w c).applyQueue = w.applyQueue := rfl
@[simp] theorem pgraftUpdateCommandStatus_commands (ts : Int) (st : CommandStatus)
    (m : Option String) : (pgraftUpdateCommandStatus sz w ts st m).1.commands = w.commands := by
  unfold pgraftUpdateCommandStatus; split <;> rfl
@[simp] theorem pgraftUpdateCommandStatus_applyQueue (ts : Int) (st : CommandStatus)
    (m : Option String) :
    (pgraftUpdateCommandStatus sz w ts st m).1.applyQueue = w.applyQueue := by
  unfold pgraftUpdateCommandStatus; split <;> rfl
@[simp] theorem pgraftRemoveCompletedCommands_commands :
    (pgraftRemoveCompletedCommands sz w).commands = w.commands := rfl
@[simp] theorem pgraftRemoveCompletedCommands_applyQueue :
    (pgraftRemoveCompletedCommands sz w).applyQueue = w.applyQueue := rfl
@[simp] theorem pgraftEnqueueApplyEntry_commands (i : Nat) (d : Option (List Char)) (n : Nat) :
    (pgraftEnqueueApplyEntry sz w i d n).1.commands = w.commands := by
  unfold pgraftEnqueueApplyEntry; split_ifs <;> rfl
@[simp] theorem pgraftEnqueueApplyEntry_statusCommands (i : Nat) (d : Option (List Char))
    (n : Nat) : (pgraftEnqueueApplyEntry sz w i d n).1.statusCommands = w.statusCommands := by
  unfold pgraftEnqueueApplyEntry; split_ifs <;> rfl
@[simp] theorem pgraftDequeueApplyEntry_commands :
    (pgraftDequeueApplyEntry sz w).1.commands = w.commands := by
  unfold pgraftDequeueApplyEntry; split <;> rfl
@[simp] theorem pgraftDequeueApplyEntry_statusCommands :
    (pgraftDequeueApplyEntry sz w).1.statusCommands = w.statusCommands := by
  unfold pgraftDequeueApplyEntry; split <;> rfl
@[simp] theorem pgraftRecordAppliedIndex_commands (i : Nat) :
    (pgraftRecordAppliedIndex w i).commands = w.commands := rfl
@[simp] theorem pgraftRecordAppliedIndex_statusCommands (i : Nat) :
    (pgraftRecordAppliedIndex w i).statusCommands = w.statusCommands := rfl
@[simp] theorem pgraftRecordAppliedIndex_applyQueue (i : Nat) :
    (pgraftRecordAppliedIndex w i).applyQueue = w.applyQueue := rfl

end Frames

end Pgraft
