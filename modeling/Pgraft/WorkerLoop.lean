import Pgraft.WorkerQueues
import Pgraft.GoLoader

/-!
# The worker loop

One turn of `pgraft_main`'s loop that finds a command: `pgraft_dequeue_command`, then
`pgraft_add_command_to_status` copies the command into the status buffer as it was queued,
the `switch` runs it, and `pgraft_update_command_status` writes its outcome over the first
record in the buffer with the command's timestamp. The timestamp is `time(NULL)` at queueing,
in seconds, so it names a command only when no other command in the buffer was queued in the
same second.

The calls a branch makes outside the worker state are a parameter (`Engine`): what the
`*_system` functions return, and the Go library with the worker process's loader statics, on
which `pgraft_go_is_loaded` and `pgraft_go_append_log` (`Pgraft.GoLoader`) answer. An `ERROR`
raised in a branch, the one `pgraft_go_append_log` raises without its entry point included,
ends the worker (`Call.raise`), leaving the status record as it was copied in.
-/

namespace Pgraft

/-- What the calls of the loop's branches see: what `pgraft_init_system`,
`pgraft_add_node_system`, `pgraft_remove_node_system` and the three `pgraft_log_*_system`
return, and the Go library with the worker's loader statics. -/
structure Engine where
  initSystem : Int → String → Int → Int
  addNodeSystem : Int → String → Int → Int
  removeNodeSystem : Int → Int
  logAppendSystem : String → Int → Int
  logCommitSystem : Int → Int
  logApplySystem : Int → Int
  lib : GoLibrary
  loader : GoLoader

variable (sz : CoreSizes)

/-- A branch that calls one `*_system` function: `FAILED` with the branch's message when the
call returns non-zero, `COMPLETED` with the command's own (empty) message otherwise. The
message is written with `snprintf` or `strncpy` into `error_message`. -/
def systemOutcome (result : Int) (message : String) (cmd : Command) : CommandStatus × String :=
  if result ≠ 0 then (.failed, strncpyField sz.errorMessageSize message)
  else (.completed, cmd.errorMessage)

/-- The `COMMAND_KV_PUT` and `COMMAND_KV_DELETE` branches: the JSON is built into a 2048-byte
buffer (an `ERROR` when it does not fit) and appended through `pgraft_go_append_log`, which
raises an `ERROR` when its entry point was not found. -/
def replicateOutcome (e : Engine) (opType : Int) (value : Option String) (opName : String)
    (cmd : Command) (now : Int) : Except String (CommandStatus × String) :=
  if pgraftGoIsLoaded e.loader then
    match pgraftJsonCreateKvOperation opType cmd.kvKey value cmd.kvClientId now 2048 with
    | .error m => .error m
    | .ok text =>
      (pgraftGoAppendLog e.lib e.loader text).map fun result =>
        if result < 0 then
          (.failed, strncpyField sz.errorMessageSize ("Failed to replicate KV " ++ opName ++
            " operation through Raft (result=" ++ toString result ++ ")"))
        else (.completed, cmd.errorMessage)
  else .ok (.failed, strncpyField sz.errorMessageSize "Go layer not loaded, cannot replicate KV operation")

/-- The `switch (cmd.type)` of `pgraft_main`: the worker state the branch leaves, and the
status and error message it ends with; `now` is `GetCurrentTimestamp()` for the JSON. -/
def executeCommand (e : Engine) (w : WorkerState) (cmd : Command) (now : Int) :
    Except String (WorkerState × CommandStatus × String) :=
  match cmd.type with
  | .init =>
    if e.initSystem cmd.nodeId cmd.address cmd.port ≠ 0 then
      .ok (w, .failed, strncpyField sz.errorMessageSize "Failed to initialize pgraft system")
    else
      .ok ({ w with
          nodeId := cmd.nodeId, address := strncpyField sz.addressSize cmd.address, port := cmd.port
          status := .running }, .completed, cmd.errorMessage)
  | .addNode =>
    .ok (w, systemOutcome sz (e.addNodeSystem cmd.nodeId cmd.address cmd.port)
      ("Failed to add node " ++ toString cmd.nodeId ++ " to pgraft system") cmd)
  | .removeNode =>
    .ok (w, systemOutcome sz (e.removeNodeSystem cmd.nodeId)
      ("Failed to remove node " ++ toString cmd.nodeId ++ " from pgraft system") cmd)
  | .logAppend =>
    .ok (w, systemOutcome sz (e.logAppendSystem cmd.logData cmd.logIndex)
      ("Failed to append log entry at index " ++ toString cmd.logIndex) cmd)
  | .logCommit =>
    .ok (w, systemOutcome sz (e.logCommitSystem cmd.logIndex)
      ("Failed to commit log entry at index " ++ toString cmd.logIndex) cmd)
  | .logApply =>
    .ok (w, systemOutcome sz (e.logApplySystem cmd.logIndex)
      ("Failed to apply log entry at index " ++ toString cmd.logIndex) cmd)
  | .kvPut => (replicateOutcome sz e 1 (some cmd.kvValue) "PUT" cmd now).map (w, ·)
  | .kvDelete => (replicateOutcome sz e 2 none "DELETE" cmd now).map (w, ·)
  | .shutdown => .ok ({ w with status := .stopped }, .completed, cmd.errorMessage)

/-- One turn of `pgraft_main`'s loop, from `pgraft_dequeue_command` on. The local copy's
status is set to `PROCESSING` after the copy into the status buffer, and nothing reads it. -/
def pgraftMainStep (e : Engine) (w : WorkerState) (now : Int) : Call WorkerState Unit :=
  match pgraftDequeueCommand sz w with
  | (w, none) => .ret () w
  | (w, some cmd) =>
    let w := pgraftAddCommandToStatus sz w cmd
    match executeCommand sz e w cmd now with
    | .error m => .raise m w
    | .ok (w, st, msg) => .ret () (pgraftUpdateCommandStatus sz w cmd.timestamp st (some msg)).1

/-! ## What a turn does to the status buffer -/

/-- The records of the status buffer that `pgraft_add_command_to_status` keeps: all of them,
or all but the oldest when the buffer is full. -/
def statusKept (w : WorkerState) : List Command :=
  if sz.maxCommands ≤ w.statusCommands.count then (w.statusCommands.contents sz.maxCommands).tail
  else w.statusCommands.contents sz.maxCommands

section Step

variable {sz} {e : Engine} {w w₁ w₂ : WorkerState} {cmd : Command} {now : Int}
  {st : CommandStatus} {msg : String}

/-- A branch changes the worker's identity and status only. -/
theorem executeCommand_frame (h : executeCommand sz e w cmd now = .ok (w₂, st, msg)) :
    w₂ = { w with
      nodeId := w₂.nodeId, address := w₂.address, port := w₂.port, status := w₂.status } := by
  have hmap : ∀ {x : Except String (CommandStatus × String)} {v},
      x.map (w, ·) = .ok (w₂, v) → w₂ = w := by
    intro x v hx
    cases x with
    | error => cases hx
    | ok => cases hx; rfl
  unfold executeCommand at h
  split at h
  · split at h <;> cases h <;> rfl
  all_goals first
    | (obtain ⟨rfl, -⟩ := Prod.mk.inj (Except.ok.inj h); rfl)
    | (obtain rfl := hmap h; rfl)

/-- A turn that runs a command to its end: the command is copied in after the kept records,
and its outcome goes to the first record with its timestamp. -/
theorem mainStep_contents (hw : w.statusCommands.Inv sz.maxCommands)
    (hd : pgraftDequeueCommand sz w = (w₁, some cmd))
    (hx : executeCommand sz e (pgraftAddCommandToStatus sz w₁ cmd) cmd now = .ok (w₂, st, msg)) :
    (pgraftMainStep sz e w now).state.statusCommands.Inv sz.maxCommands ∧
    (pgraftMainStep sz e w now).state.statusCommands.contents sz.maxCommands =
      match (statusKept sz w).findIdx? (·.timestamp == cmd.timestamp) with
      | some i => (statusKept sz w).set i
          (statusUpdated sz st (some msg) ((statusKept sz w).getD i default)) ++ [cmd]
      | none => statusKept sz w ++ [statusUpdated sz st (some msg) cmd] := by
  set before := statusKept sz w
  have h1 : w₁.statusCommands = w.statusCommands := by
    simpa [hd] using (@pgraftDequeueCommand_statusCommands sz w)
  have hs : w₂.statusCommands = (pgraftAddCommandToStatus sz w₁ cmd).statusCommands := by
    rw [executeCommand_frame hx]
  obtain ⟨ha, hc⟩ := pgraftAddCommandToStatus_spec (h1 ▸ hw) cmd
  rw [h1] at hc
  have hw₂ : w₂.statusCommands.Inv sz.maxCommands := hs ▸ ha
  have hc₂ : w₂.statusCommands.contents sz.maxCommands = before ++ [cmd] := hs ▸ hc
  obtain ⟨hu, hcu⟩ := pgraftUpdateCommandStatus_spec hw₂ cmd.timestamp st (some msg)
  simp only [pgraftMainStep, hd, hx, Call.state_ret]
  refine ⟨hu, ?_⟩
  rw [hcu, statusFind, hc₂, List.findIdx?_append]
  cases hb : before.findIdx? (·.timestamp == cmd.timestamp) with
  | some i =>
    obtain ⟨hi, -⟩ := List.findIdx?_eq_some_iff_getElem.mp hb
    simp only [Option.or_some, List.set_append_left _ _ hi, List.getD_eq_getElem?_getD,
      List.getElem?_append_left hi]
  | none =>
    simp [List.set_append_right _ _ (Nat.le_refl _)]

/-- A command queued in a second that no kept record shares ends with its outcome in its own
record, the last one, and every other record stays as it was. -/
theorem mainStep_fresh_second (hw : w.statusCommands.Inv sz.maxCommands)
    (hd : pgraftDequeueCommand sz w = (w₁, some cmd))
    (hx : executeCommand sz e (pgraftAddCommandToStatus sz w₁ cmd) cmd now = .ok (w₂, st, msg))
    (hfresh : ∀ r ∈ statusKept sz w, r.timestamp ≠ cmd.timestamp) :
    (pgraftMainStep sz e w now).state.statusCommands.contents sz.maxCommands =
      statusKept sz w ++ [statusUpdated sz st (some msg) cmd] := by
  have hnone : (statusKept sz w).findIdx? (·.timestamp == cmd.timestamp) = none :=
    List.findIdx?_eq_none_iff.mpr fun r hr => by simpa using hfresh r hr
  rw [(mainStep_contents hw hd hx).2, hnone]

/-- A command queued in the same second as a kept record: its outcome is written over the
first such record, and its own record keeps the status it was queued with. -/
theorem mainStep_same_second (hw : w.statusCommands.Inv sz.maxCommands)
    (hd : pgraftDequeueCommand sz w = (w₁, some cmd))
    (hx : executeCommand sz e (pgraftAddCommandToStatus sz w₁ cmd) cmd now = .ok (w₂, st, msg))
    {r : Command} (hr : r ∈ statusKept sz w) (hts : r.timestamp = cmd.timestamp) :
    ∃ i < (statusKept sz w).length,
      (pgraftMainStep sz e w now).state.statusCommands.contents sz.maxCommands =
        (statusKept sz w).set i
          (statusUpdated sz st (some msg) ((statusKept sz w).getD i default)) ++ [cmd] := by
  have hany : (statusKept sz w).any (·.timestamp == cmd.timestamp) = true :=
    List.any_eq_true.mpr ⟨r, hr, by simp [hts]⟩
  obtain ⟨i, hi⟩ := Option.isSome_iff_exists.mp (List.findIdx?_isSome.trans hany)
  exact ⟨i, (List.findIdx?_eq_some_iff_getElem.mp hi).1, by rw [(mainStep_contents hw hd hx).2, hi]⟩

/-- A turn keeps the cursor discipline of the three buffers. -/
theorem WorkerInv.mainStep (hw : WorkerInv sz w) : WorkerInv sz (pgraftMainStep sz e w now).state := by
  have hd := hw.step sz .dequeueCommand
  rcases h : pgraftDequeueCommand sz w with ⟨w₁, _ | cmd⟩
  · simpa [pgraftMainStep, WorkerOp.step, h] using hd
  · have h1 : WorkerInv sz w₁ := by simpa [WorkerOp.step, h] using hd
    have h2 := h1.step sz (.addCommandToStatus cmd)
    rcases hx : executeCommand sz e (pgraftAddCommandToStatus sz w₁ cmd) cmd now with
      m | ⟨w₂, st, msg⟩
    · simpa only [pgraftMainStep, h, hx, Call.state_raise] using h2
    · have h3 : WorkerInv sz w₂ := by
        rw [executeCommand_frame hx]; exact ⟨h2.commands, h2.statusCommands, h2.applyQueue⟩
      simpa only [pgraftMainStep, h, hx, Call.state_ret] using
        h3.step sz (.updateCommandStatus cmd.timestamp st (some msg))

end Step

/-- Two puts queued in the same second, the first replicated and the second refused by the
engine: the second's failure is written over the first's record, and the second's record is
left pending. -/
theorem same_second_puts_swap_outcomes :
    let sz : CoreSizes := ⟨2, 1, 1, 1, 1, 16, 16, 16, 80, 1, Nat.two_pos, Nat.one_pos⟩
    let accept : Engine := ⟨fun _ _ _ => 0, fun _ _ _ => 0, fun _ => 0, fun _ _ => 0, fun _ => 0,
      fun _ => 0, sampleLibrary, sampleLoader⟩
    let refuse : Engine := { accept with lib := { sampleLibrary with appendLog := fun _ => -1 } }
    let queued := WorkerOp.run sz
      [.queueKvCommand .kvPut (some "a") (some "1") (some "pg_1") 100,
       .queueKvCommand .kvPut (some "b") (some "2") (some "pg_1") 100] (WorkerState.firstAttach sz)
    let w := (pgraftMainStep sz accept queued 0).state
    (w.statusCommands.contents sz.maxCommands).map (fun c => (c.kvKey, c.status)) =
        [("a", .completed)] ∧
    (∃ i < (statusKept sz w).length,
      (pgraftMainStep sz refuse w 0).state.statusCommands.contents sz.maxCommands =
        (statusKept sz w).set i (statusUpdated sz .failed
          (some "Failed to replicate KV PUT operation through Raft (result=-1)")
          ((statusKept sz w).getD i default)) ++
          [(pgraftDequeueCommand sz w).2.getD default]) ∧
    ((pgraftMainStep sz refuse w 0).state.statusCommands.contents sz.maxCommands).map
      (fun c => (c.kvKey, c.status)) = [("a", .failed), ("b", .pending)] := by
  intro sz accept refuse queued w
  have hw : WorkerInv sz w := WorkerInv.mainStep (worker_inv_run sz _)
  refine ⟨by decide, @mainStep_same_second sz refuse w (pgraftDequeueCommand sz w).1
    (pgraftAddCommandToStatus sz (pgraftDequeueCommand sz w).1 ((pgraftDequeueCommand sz w).2.getD default))
    ((pgraftDequeueCommand sz w).2.getD default) 0 .failed
    "Failed to replicate KV PUT operation through Raft (result=-1)" hw.statusCommands
    (by decide) (by decide) ((statusKept sz w).getD 0 default) (by decide) (by decide),
    by decide⟩

end Pgraft
