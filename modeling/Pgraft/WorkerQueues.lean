import Pgraft.Worker

/-!
# The worker's queues as queues

Every call that changes the worker state keeps the three buffers' cursor discipline
(`WorkerInv`). The command queue and the apply queue refine bounded first-in first-out
queues: a producer succeeds exactly when there is room (and, for the apply queue, when the
data fits) and then appends what it wrote, a refused call changes nothing, a dequeue takes the
oldest element, and along any run from first attach every accepted element comes out once,
in order (`command_queue_fifo`, `apply_queue_fifo`). The status buffer appends with
eviction and finds records by timestamp as a bounded log should; its clean-up, though, packs
the surviving records at the old head and then moves the head past them, so the buffer's
contents afterwards are `(survivors ++ rest).drop removed` (`contents_removeCompleted`),
which loses pending records and keeps finished ones (`remove_completed_keeps_finished`).
-/

namespace Pgraft

variable (sz : CoreSizes)

/-! ## One lemma per function -/

section Specs

variable {sz} {w : WorkerState}

theorem queueCommandWith_of_full {fill : Command → Command}
    (h : sz.maxCommands ≤ w.commands.count) : queueCommandWith sz w fill = (w, false) := by
  simp [queueCommandWith, Ring.offer, h]

theorem queueCommandWith_of_lt {fill : Command → Command} (h : w.commands.count < sz.maxCommands) :
    queueCommandWith sz w fill =
      ({ w with
          commands := (w.commands.push sz.maxCommands (fill (w.commands.slot w.commands.tail))) },
        true) := by
  simp [queueCommandWith, Ring.offer, Nat.not_le.mpr h]

theorem pgraftDequeueCommand_of_zero (h : w.commands.count = 0) :
    pgraftDequeueCommand sz w = (w, none) := by
  simp [pgraftDequeueCommand, Ring.take, h]

theorem pgraftDequeueCommand_of_pos (h : 0 < w.commands.count) :
    pgraftDequeueCommand sz w =
      ({ w with commands := w.commands.pop sz.maxCommands }, some (w.commands.slot w.commands.head)) := by
  simp [pgraftDequeueCommand, Ring.take, Nat.pos_iff_ne_zero.mp h]

/-- The apply queue accepts exactly when it has room and the data fits. -/
theorem pgraftEnqueueApplyEntry_eq (i : Nat) (d : Option (List Char)) (n : Nat) :
    pgraftEnqueueApplyEntry sz w i d n =
      if w.applyQueue.count < sz.maxApplyEntries ∧ n ≤ sz.applyDataSize then
        ({ w with
            applyQueue := (w.applyQueue.push sz.maxApplyEntries
              (applyFill i d n (w.applyQueue.slot w.applyQueue.tail))) }, true)
      else (w, false) := by
  unfold pgraftEnqueueApplyEntry
  split_ifs <;> first | rfl | omega

theorem pgraftDequeueApplyEntry_of_zero (h : w.applyQueue.count = 0) :
    pgraftDequeueApplyEntry sz w = (w, none) := by
  simp [pgraftDequeueApplyEntry, Ring.take, h]

theorem pgraftDequeueApplyEntry_of_pos (h : 0 < w.applyQueue.count) :
    pgraftDequeueApplyEntry sz w =
      ({ w with applyQueue := w.applyQueue.pop sz.maxApplyEntries },
        some (w.applyQueue.slot w.applyQueue.head)) := by
  simp [pgraftDequeueApplyEntry, Ring.take, Nat.pos_iff_ne_zero.mp h]

/-- What an accepted entry holds: the index, the length, and the first `data_len` bytes of
the caller's data. -/
theorem applyFill_spec (i : Nat) (d : List Char) (n : Nat) (e : ApplyEntry) (hn : n ≤ d.length) :
    (applyFill i (some d) n e).raftIndex = i ∧ (applyFill i (some d) n e).dataLen = n ∧
      (applyFill i (some d) n e).data.take n = d.take n ∧
      (applyFill i (some d) n e).applied = false := by
  refine ⟨rfl, rfl, ?_, rfl⟩
  simp only [applyFill]
  split
  · simp [memcpyPrefix, List.take_append_eq_append_take, Nat.min_eq_left hn]
  · simp [show n = 0 by omega]

end Specs

/-! ## Runs of the worker -/

/-- The calls that change the worker state. -/
inductive WorkerOp
  | queueCommand (type : CommandType) (nodeId : Int) (address : Option String) (port : Int)
      (clusterId : Option String) (now : Int)
  | queueLogCommand (type : CommandType) (logData : Option String) (logIndex now : Int)
  | queueKvCommand (type : CommandType) (key value clientId : Option String) (now : Int)
  | dequeueCommand
  | addCommandToStatus (cmd : Command)
  | updateCommandStatus (timestamp : Int) (status : CommandStatus) (errorMessage : Option String)
  | removeCompletedCommands
  | enqueueApplyEntry (raftIndex : Nat) (data : Option (List Char)) (dataLen : Nat)
  | dequeueApplyEntry
  | recordAppliedIndex (index : Nat)

namespace WorkerOp

/-- The state a call leaves. -/
def step : WorkerOp → WorkerState → WorkerState
  | .queueCommand t n a p c now, w => (pgraftQueueCommand sz w t n a p c now).1
  | .queueLogCommand t d i now, w => (pgraftQueueLogCommand sz w t d i now).1
  | .queueKvCommand t k v c now, w => (pgraftQueueKvCommand sz w t k v c now).1
  | .dequeueCommand, w => (pgraftDequeueCommand sz w).1
  | .addCommandToStatus c, w => pgraftAddCommandToStatus sz w c
  | .updateCommandStatus ts st m, w => (pgraftUpdateCommandStatus sz w ts st m).1
  | .removeCompletedCommands, w => pgraftRemoveCompletedCommands sz w
  | .enqueueApplyEntry i d n, w => (pgraftEnqueueApplyEntry sz w i d n).1
  | .dequeueApplyEntry, w => (pgraftDequeueApplyEntry sz w).1
  | .recordAppliedIndex i, w => pgraftRecordAppliedIndex w i

/-- The state a sequence of calls leaves. -/
def run (ops : List WorkerOp) (w : WorkerState) : WorkerState :=
  ops.foldl (fun w op => op.step sz w) w

/-- What a producer call writes over the slot at `command_tail`. -/
def commandFill : WorkerOp → Option (Command → Command)
  | .queueCommand t n a p c now => some (queuedCommand sz t n a p c now)
  | .queueLogCommand t d i now => some (queuedLogCommand sz t d i now)
  | .queueKvCommand t k v c now => some (queuedKvCommand sz t k v c now)
  | _ => none

/-- What a call takes from the front of the command queue and puts at its back. -/
def commandMoves : WorkerOp → WorkerState → List Command × List Command
  | .dequeueCommand, w => ((pgraftDequeueCommand sz w).2.toList, [])
  | op, w => ([], match op.commandFill sz with
    | some fill =>
      if w.commands.count < sz.maxCommands then [fill (w.commands.slot w.commands.tail)] else []
    | none => [])

/-- What a call takes from the front of the apply queue and puts at its back. -/
def applyMoves : WorkerOp → WorkerState → List ApplyEntry × List ApplyEntry
  | .dequeueApplyEntry, w => ((pgraftDequeueApplyEntry sz w).2.toList, [])
  | .enqueueApplyEntry i d n, w =>
    ([], if w.applyQueue.count < sz.maxApplyEntries ∧ n ≤ sz.applyDataSize then
      [applyFill i d n (w.applyQueue.slot w.applyQueue.tail)] else [])
  | _, _ => ([], [])

end WorkerOp

theorem runMoves_fst {α σ β : Type} (step : β → σ → σ) (io : β → σ → List α × List α) :
    ∀ (s : σ) (bs : List β), (runMoves step io s bs).1 = bs.foldl (fun s b => step b s) s
  | _, [] => rfl
  | s, b :: bs => runMoves_fst step io (step b s) bs

/-! ## The command queue -/

section CommandQueue

variable {sz} {w : WorkerState}

theorem queueCommandWith_moves (hw : w.commands.Inv sz.maxCommands) (fill : Command → Command) :
    (queueCommandWith sz w fill).1.commands.Inv sz.maxCommands ∧
    (queueCommandWith sz w fill).1.commands.contents sz.maxCommands =
      w.commands.contents sz.maxCommands ++
        if w.commands.count < sz.maxCommands then [fill (w.commands.slot w.commands.tail)] else [] := by
  by_cases hc : w.commands.count < sz.maxCommands
  · rw [queueCommandWith_of_lt hc, if_pos hc]
    exact ⟨hw.push hc _, Ring.contents_push hw hc _⟩
  · rw [queueCommandWith_of_full (by omega), if_neg hc, List.append_nil]
    exact ⟨hw, rfl⟩

theorem pgraftDequeueCommand_moves (hw : w.commands.Inv sz.maxCommands) :
    (pgraftDequeueCommand sz w).1.commands.Inv sz.maxCommands ∧
    (pgraftDequeueCommand sz w).2.toList ++
        (pgraftDequeueCommand sz w).1.commands.contents sz.maxCommands =
      w.commands.contents sz.maxCommands := by
  by_cases hc : 0 < w.commands.count
  · rw [pgraftDequeueCommand_of_pos hc]
    exact ⟨hw.pop hc, (Ring.contents_pop hw hc).symm⟩
  · rw [pgraftDequeueCommand_of_zero (by omega)]
    exact ⟨hw, rfl⟩

/-- Each call moves commands through the queue only at its two ends. -/
theorem commandMoves_step (hw : w.commands.Inv sz.maxCommands) (op : WorkerOp) :
    (op.step sz w).commands.Inv sz.maxCommands ∧
    (op.commandMoves sz w).1 ++ (op.step sz w).commands.contents sz.maxCommands =
      w.commands.contents sz.maxCommands ++ (op.commandMoves sz w).2 := by
  cases op with
  | queueCommand => exact queueCommandWith_moves hw _
  | queueLogCommand => exact queueCommandWith_moves hw _
  | queueKvCommand => exact queueCommandWith_moves hw _
  | dequeueCommand =>
    simp only [WorkerOp.commandMoves, WorkerOp.step, List.append_nil]
    exact pgraftDequeueCommand_moves hw
  | addCommandToStatus | updateCommandStatus | removeCompletedCommands | enqueueApplyEntry
    | dequeueApplyEntry | recordAppliedIndex =>
    simpa [WorkerOp.step, WorkerOp.commandMoves, WorkerOp.commandFill] using hw

/-- Along a run, commands leave the queue in the order they entered it. -/
theorem commandMoves_run (hw : w.commands.Inv sz.maxCommands) (ops : List WorkerOp) :
    (WorkerOp.run sz ops w).commands.Inv sz.maxCommands ∧
    (runMoves (WorkerOp.step sz) (WorkerOp.commandMoves sz) w ops).2.1 ++
        (WorkerOp.run sz ops w).commands.contents sz.maxCommands =
      w.commands.contents sz.maxCommands ++
        (runMoves (WorkerOp.step sz) (WorkerOp.commandMoves sz) w ops).2.2 := by
  rw [WorkerOp.run, ← runMoves_fst (WorkerOp.step sz) (WorkerOp.commandMoves sz)]
  exact runMoves_conserve _ _ (fun w => w.commands.contents sz.maxCommands)
    (fun w => w.commands.Inv sz.maxCommands) (fun op _ hw => commandMoves_step hw op) w ops hw

end CommandQueue

/-- The command queue of `w` as a bounded first-in first-out queue. Each of the three
producers is `queueCommandWith` with its own fill. -/
structure CommandQueueFifo (w : WorkerState) : Prop where
  inv : w.commands.Inv sz.maxCommands
  enqueue_iff : ∀ fill, (queueCommandWith sz w fill).2 = true ↔ w.commands.count < sz.maxCommands
  enqueue_appends : ∀ fill, (queueCommandWith sz w fill).2 = true →
    (queueCommandWith sz w fill).1.commands.contents sz.maxCommands =
      w.commands.contents sz.maxCommands ++ [fill (w.commands.slot w.commands.tail)]
  enqueue_refused : ∀ fill, (queueCommandWith sz w fill).2 = false → (queueCommandWith sz w fill).1 = w
  dequeue_empty : w.commands.count = 0 → pgraftDequeueCommand sz w = (w, none)
  dequeue_oldest : ∀ c cs, w.commands.contents sz.maxCommands = c :: cs →
    ∃ w', pgraftDequeueCommand sz w = (w', some c) ∧ w'.commands.contents sz.maxCommands = cs
  run : ∀ ops : List WorkerOp,
    (runMoves (WorkerOp.step sz) (WorkerOp.commandMoves sz) w ops).2.1 ++
        (WorkerOp.run sz ops w).commands.contents sz.maxCommands =
      w.commands.contents sz.maxCommands ++
        (runMoves (WorkerOp.step sz) (WorkerOp.commandMoves sz) w ops).2.2

theorem CommandQueueFifo.of_inv {w : WorkerState} (hw : w.commands.Inv sz.maxCommands) :
    CommandQueueFifo sz w where
  inv := hw
  enqueue_iff fill := by
    by_cases hc : w.commands.count < sz.maxCommands
    · simp [queueCommandWith_of_lt hc, hc]
    · simp [queueCommandWith_of_full (Nat.le_of_not_lt hc), hc]
  enqueue_appends fill h := by
    by_cases hc : w.commands.count < sz.maxCommands
    · simpa [hc] using (queueCommandWith_moves hw fill).2
    · simp [queueCommandWith_of_full (Nat.le_of_not_lt hc)] at h
  enqueue_refused fill h := by
    by_cases hc : w.commands.count < sz.maxCommands
    · simp [queueCommandWith_of_lt hc] at h
    · rw [queueCommandWith_of_full (Nat.le_of_not_lt hc)]
  dequeue_empty := pgraftDequeueCommand_of_zero
  dequeue_oldest c cs h := by
    have hc : 0 < w.commands.count := by
      have := congrArg List.length h
      simp only [Ring.length_contents, List.length_cons] at this; omega
    rw [Ring.contents_pop hw hc, List.cons.injEq] at h
    exact ⟨{ w with commands := w.commands.pop sz.maxCommands },
      by rw [pgraftDequeueCommand_of_pos hc, h.1], h.2⟩
  run ops := (commandMoves_run hw ops).2

/-- From first attach, through any interleaving of the three producers, the consumer and
every other call on the worker state. -/
theorem command_queue_fifo (ops : List WorkerOp) :
    CommandQueueFifo sz (WorkerOp.run sz ops (WorkerState.firstAttach sz)) := by
  exact CommandQueueFifo.of_inv sz (commandMoves_run (Ring.Inv.zero sz.maxCommands_pos) ops).1

/-! ## The apply queue -/

section ApplyQueue

variable {sz} {w : WorkerState}

theorem pgraftEnqueueApplyEntry_moves (hw : w.applyQueue.Inv sz.maxApplyEntries) (i : Nat)
    (d : Option (List Char)) (n : Nat) :
    (pgraftEnqueueApplyEntry sz w i d n).1.applyQueue.Inv sz.maxApplyEntries ∧
    (pgraftEnqueueApplyEntry sz w i d n).1.applyQueue.contents sz.maxApplyEntries =
      w.applyQueue.contents sz.maxApplyEntries ++
        if w.applyQueue.count < sz.maxApplyEntries ∧ n ≤ sz.applyDataSize then
          [applyFill i d n (w.applyQueue.slot w.applyQueue.tail)] else [] := by
  rw [pgraftEnqueueApplyEntry_eq]
  split
  · next hc => exact ⟨hw.push hc.1 _, Ring.contents_push hw hc.1 _⟩
  · exact ⟨hw, (List.append_nil _).symm⟩

theorem pgraftDequeueApplyEntry_moves (hw : w.applyQueue.Inv sz.maxApplyEntries) :
    (pgraftDequeueApplyEntry sz w).1.applyQueue.Inv sz.maxApplyEntries ∧
    (pgraftDequeueApplyEntry sz w).2.toList ++
        (pgraftDequeueApplyEntry sz w).1.applyQueue.contents sz.maxApplyEntries =
      w.applyQueue.contents sz.maxApplyEntries := by
  by_cases hc : 0 < w.applyQueue.count
  · rw [pgraftDequeueApplyEntry_of_pos hc]
    exact ⟨hw.pop hc, (Ring.contents_pop hw hc).symm⟩
  · rw [pgraftDequeueApplyEntry_of_zero (by omega)]
    exact ⟨hw, rfl⟩

/-- Each call moves entries through the apply queue only at its two ends. -/
theorem applyMoves_step (hw : w.applyQueue.Inv sz.maxApplyEntries) (op : WorkerOp) :
    (op.step sz w).applyQueue.Inv sz.maxApplyEntries ∧
    (op.applyMoves sz w).1 ++ (op.step sz w).applyQueue.contents sz.maxApplyEntries =
      w.applyQueue.contents sz.maxApplyEntries ++ (op.applyMoves sz w).2 := by
  cases op with
  | enqueueApplyEntry i d n => exact pgraftEnqueueApplyEntry_moves hw i d n
  | dequeueApplyEntry =>
    simp only [WorkerOp.applyMoves, WorkerOp.step, List.append_nil]
    exact pgraftDequeueApplyEntry_moves hw
  | queueCommand | queueLogCommand | queueKvCommand | dequeueCommand | addCommandToStatus
    | updateCommandStatus | removeCompletedCommands | recordAppliedIndex =>
    simpa [WorkerOp.step, WorkerOp.applyMoves, pgraftQueueCommand, pgraftQueueLogCommand,
      pgraftQueueKvCommand] using hw

/-- Along a run, entries leave the apply queue in the order they entered it. -/
theorem applyMoves_run (hw : w.applyQueue.Inv sz.maxApplyEntries) (ops : List WorkerOp) :
    (WorkerOp.run sz ops w).applyQueue.Inv sz.maxApplyEntries ∧
    (runMoves (WorkerOp.step sz) (WorkerOp.applyMoves sz) w ops).2.1 ++
        (WorkerOp.run sz ops w).applyQueue.contents sz.maxApplyEntries =
      w.applyQueue.contents sz.maxApplyEntries ++
        (runMoves (WorkerOp.step sz) (WorkerOp.applyMoves sz) w ops).2.2 := by
  rw [WorkerOp.run, ← runMoves_fst (WorkerOp.step sz) (WorkerOp.applyMoves sz)]
  exact runMoves_conserve _ _ (fun w => w.applyQueue.contents sz.maxApplyEntries)
    (fun w => w.applyQueue.Inv sz.maxApplyEntries) (fun op _ hw => applyMoves_step hw op) w ops hw

end ApplyQueue

/-- The apply queue of `w` as a bounded first-in first-out queue of committed entries. -/
structure ApplyQueueFifo (w : WorkerState) : Prop where
  inv : w.applyQueue.Inv sz.maxApplyEntries
  enqueue_iff : ∀ i d n, (pgraftEnqueueApplyEntry sz w i d n).2 = true ↔
    w.applyQueue.count < sz.maxApplyEntries ∧ n ≤ sz.applyDataSize
  enqueue_appends : ∀ i d n, (pgraftEnqueueApplyEntry sz w i d n).2 = true →
    (pgraftEnqueueApplyEntry sz w i d n).1.applyQueue.contents sz.maxApplyEntries =
      w.applyQueue.contents sz.maxApplyEntries ++
        [applyFill i d n (w.applyQueue.slot w.applyQueue.tail)]
  enqueue_refused : ∀ i d n, (pgraftEnqueueApplyEntry sz w i d n).2 = false →
    (pgraftEnqueueApplyEntry sz w i d n).1 = w
  written : ∀ i d n e, n ≤ d.length →
    (applyFill i (some d) n e).raftIndex = i ∧ (applyFill i (some d) n e).dataLen = n ∧
      (applyFill i (some d) n e).data.take n = d.take n
  dequeue_empty : w.applyQueue.count = 0 → pgraftDequeueApplyEntry sz w = (w, none)
  dequeue_oldest : ∀ e es, w.applyQueue.contents sz.maxApplyEntries = e :: es →
    ∃ w', pgraftDequeueApplyEntry sz w = (w', some e) ∧
      w'.applyQueue.contents sz.maxApplyEntries = es
  run : ∀ ops : List WorkerOp,
    (runMoves (WorkerOp.step sz) (WorkerOp.applyMoves sz) w ops).2.1 ++
        (WorkerOp.run sz ops w).applyQueue.contents sz.maxApplyEntries =
      w.applyQueue.contents sz.maxApplyEntries ++
        (runMoves (WorkerOp.step sz) (WorkerOp.applyMoves sz) w ops).2.2
  run_ordered : ∀ ops : List WorkerOp,
    (w.applyQueue.contents sz.maxApplyEntries ++
        (runMoves (WorkerOp.step sz) (WorkerOp.applyMoves sz) w ops).2.2).Pairwise
      (·.raftIndex ≤ ·.raftIndex) →
    (runMoves (WorkerOp.step sz) (WorkerOp.applyMoves sz) w ops).2.1.Pairwise (·.raftIndex ≤ ·.raftIndex)

theorem ApplyQueueFifo.of_inv {w : WorkerState} (hw : w.applyQueue.Inv sz.maxApplyEntries) :
    ApplyQueueFifo sz w where
  inv := hw
  enqueue_iff i d n := by
    rw [pgraftEnqueueApplyEntry_eq]
    split
    · next hc => simpa using hc
    · next hc => simpa using hc
  enqueue_appends i d n h := by
    rw [pgraftEnqueueApplyEntry_eq] at h
    split at h
    · next hc => simpa [hc] using (pgraftEnqueueApplyEntry_moves hw i d n).2
    · cases h
  enqueue_refused i d n h := by
    rw [pgraftEnqueueApplyEntry_eq] at h ⊢
    split at h
    · cases h
    · next hc => rw [if_neg hc]
  written i d n e hn :=
    let h := applyFill_spec i d n e hn
    ⟨h.1, h.2.1, h.2.2.1⟩
  dequeue_empty := pgraftDequeueApplyEntry_of_zero
  dequeue_oldest e es h := by
    have hc : 0 < w.applyQueue.count := by
      have := congrArg List.length h
      simp only [Ring.length_contents, List.length_cons] at this; omega
    rw [Ring.contents_pop hw hc, List.cons.injEq] at h
    exact ⟨{ w with applyQueue := w.applyQueue.pop sz.maxApplyEntries },
      by rw [pgraftDequeueApplyEntry_of_pos hc, h.1], h.2⟩
  run ops := (applyMoves_run hw ops).2
  run_ordered ops h := by
    rw [← (applyMoves_run hw ops).2] at h
    exact h.sublist (List.sublist_append_left _ _)

/-- From first attach, through any interleaving of enqueues, dequeues and every other call on
the worker state. -/
theorem apply_queue_fifo (ops : List WorkerOp) :
    ApplyQueueFifo sz (WorkerOp.run sz ops (WorkerState.firstAttach sz)) :=
  ApplyQueueFifo.of_inv sz (applyMoves_run (Ring.Inv.zero sz.maxApplyEntries_pos) ops).1

/-! ## The status buffer -/

/-- The records `pgraft_remove_completed_commands` should keep: those still pending or
processing, in order. -/
def survivors (l : List Command) : List Command := l.filter (!·.status.isDone)

/-- How many records it drops: the completed and failed ones. -/
def finished (l : List Command) : Nat := l.countP (·.status.isDone)

/-- The offsets of the buffer after the clean-up loop has visited the first `i` records of
`l`: the survivors among them packed at the front, the other offsets as they were. -/
def packed (l : List Command) (i : Nat) : List Command :=
  survivors (l.take i) ++ l.drop (survivors (l.take i)).length

theorem length_survivors_add_finished (l : List Command) :
    (survivors l).length + finished l = l.length := by
  have := List.length_eq_countP_add_countP (·.status.isDone) l
  simp only [survivors, finished, ← List.countP_eq_length_filter] at this ⊢
  rw [this, Nat.add_comm]
  congr 1
  exact List.countP_congr fun x _ => by simp

theorem take_succ_of_lt {α : Type} {l : List α} {i : Nat} (hi : i < l.length) :
    l.take (i + 1) = l.take i ++ [l[i]] := by
  rw [List.take_succ, List.getElem?_eq_getElem hi]; rfl

theorem finished_take_succ {l : List Command} {i : Nat} (hi : i < l.length) :
    finished (l.take (i + 1)) = finished (l.take i) + if l[i].status.isDone then 1 else 0 := by
  simp only [finished, take_succ_of_lt hi, List.countP_append, List.countP_singleton]

theorem packed_succ_of_done {l : List Command} {i : Nat} (hi : i < l.length)
    (hd : l[i].status.isDone = true) : packed l (i + 1) = packed l i := by
  simp only [packed, survivors, take_succ_of_lt hi, List.filter_append, List.filter_singleton, hd,
    Bool.not_true, cond_false, List.append_nil]

theorem packed_succ_of_keep {l : List Command} {i : Nat} (hi : i < l.length)
    (hd : l[i].status.isDone = false) :
    packed l (i + 1) = survivors (l.take i) ++ l[i] :: l.drop ((survivors (l.take i)).length + 1) := by
  simp only [packed, survivors, take_succ_of_lt hi, List.filter_append, List.filter_singleton, hd,
    Bool.not_false, cond_true, List.length_append, List.length_singleton, List.append_assoc,
    List.singleton_append]

/-- The loop has not yet moved anything into offset `i` when it reads it. -/
theorem getElem_packed {l : List Command} {i : Nat} (hi : i < l.length)
    (h : i < (packed l i).length) : (packed l i)[i] = l[i] := by
  have hs := length_survivors_add_finished (l.take i)
  rw [List.length_take, Nat.min_eq_left hi.le] at hs
  simp only [packed]
  rw [List.getElem_append_right (by omega), List.getElem_drop]
  congr 1; omega

section StatusBuffer

variable {sz} {w : WorkerState}

/-- Adding to a full buffer first drops its oldest record. -/
theorem pgraftAddCommandToStatus_spec (hw : w.statusCommands.Inv sz.maxCommands) (c : Command) :
    (pgraftAddCommandToStatus sz w c).statusCommands.Inv sz.maxCommands ∧
    (pgraftAddCommandToStatus sz w c).statusCommands.contents sz.maxCommands =
      (if sz.maxCommands ≤ w.statusCommands.count then
        (w.statusCommands.contents sz.maxCommands).tail
      else w.statusCommands.contents sz.maxCommands) ++ [c] := by
  simp only [pgraftAddCommandToStatus]
  split
  · next hf =>
    have hpos : 0 < w.statusCommands.count := Nat.lt_of_lt_of_le sz.maxCommands_pos hf
    have hp := hw.pop hpos
    have hlt : (w.statusCommands.pop sz.maxCommands).count < sz.maxCommands := by
      have := hw.count_le; simp only [Ring.pop_count]; omega
    rw [Ring.contents_pop hw hpos, List.tail_cons]
    exact ⟨hp.push hlt c, Ring.contents_push hp hlt c⟩
  · next hf => exact ⟨hw.push (by omega) c, Ring.contents_push hw (by omega) c⟩

/-- Get returns the oldest record with the timestamp. -/
theorem pgraftGetCommandStatus_eq (ts : Int) :
    pgraftGetCommandStatus sz w ts =
      (w.statusCommands.contents sz.maxCommands).find? (·.timestamp == ts) := by
  unfold pgraftGetCommandStatus statusFind
  cases h : (w.statusCommands.contents sz.maxCommands).findIdx? (·.timestamp == ts) with
  | none =>
    have := find?_isSome_eq_findIdx? (p := fun c : Command => c.timestamp == ts)
      (w.statusCommands.contents sz.maxCommands)
    rw [h] at this
    exact (Option.not_isSome_iff_eq_none.mp (by simpa using this)).symm
  | some i =>
    obtain ⟨hi, -⟩ := List.findIdx?_eq_some_iff_getElem.mp h
    rw [find?_eq_getElem?_of_findIdx? h, List.getElem?_eq_getElem hi, Ring.getElem_contents]
    rfl

/-- Update rewrites the oldest record with the timestamp, and no other. -/
theorem pgraftUpdateCommandStatus_spec (hw : w.statusCommands.Inv sz.maxCommands) (ts : Int)
    (st : CommandStatus) (m : Option String) :
    (pgraftUpdateCommandStatus sz w ts st m).1.statusCommands.Inv sz.maxCommands ∧
    (pgraftUpdateCommandStatus sz w ts st m).1.statusCommands.contents sz.maxCommands =
      match statusFind sz w ts with
      | none => w.statusCommands.contents sz.maxCommands
      | some i => (w.statusCommands.contents sz.maxCommands).set i
          (statusUpdated sz st m ((w.statusCommands.contents sz.maxCommands).getD i default)) := by
  cases h : statusFind sz w ts with
  | none => simpa [pgraftUpdateCommandStatus, h] using hw
  | some i =>
    simp only [pgraftUpdateCommandStatus, h]
    obtain ⟨hi, -⟩ := List.findIdx?_eq_some_iff_getElem.mp h
    rw [Ring.length_contents] at hi
    refine ⟨⟨by simp [hw.length_slots], hw.head_lt, hw.count_le, hw.tail_eq⟩, ?_⟩
    rw [Ring.contents_set hw hi, List.getD_eq_getElem?_getD,
      List.getElem?_eq_getElem (by simpa using hi), Option.getD_some, Ring.getElem_contents]

/-- The clean-up loop: after all `count` records, the survivors are packed at the front of the
offsets from `status_head`, and `removed` counts the finished records. -/
theorem removeCompletedLoop_spec {cap : Nat} {r : Ring Command} (hr : r.Inv cap) :
    ∀ (n i removed : Nat) (T : List Command), i + n = r.count → T.length = cap →
      removed = finished ((r.contents cap).take i) →
      ({ r with slots := T } : Ring Command).contents cap = packed (r.contents cap) i →
      (removeCompletedLoop cap r.head T i removed n).1.length = cap ∧
      (removeCompletedLoop cap r.head T i removed n).2 = finished (r.contents cap) ∧
      ({ r with slots := (removeCompletedLoop cap r.head T i removed n).1 } : Ring Command).contents
          cap = packed (r.contents cap) r.count
  | 0, i, removed, T, hn, hT, hrem, hview => by
    have hl : (r.contents cap).take i = r.contents cap := List.take_of_length_le (by simp; omega)
    refine ⟨hT, by rw [removeCompletedLoop, hrem, hl], ?_⟩
    rw [removeCompletedLoop, hview, show i = r.count by omega]
  | n + 1, i, removed, T, hn, hT, hrem, hview => by
    set l := r.contents cap with hlc
    have hi : i < l.length := by simp [l]; omega
    have hTr : ({ r with slots := T } : Ring Command).Inv cap :=
      ⟨hT, hr.head_lt, hr.count_le, hr.tail_eq⟩
    -- the loop reads the `i`-th record of the buffer, still in place
    have hc : T.getD ((r.head + i) % cap) default = l[i] := by
      have := congrArg (·[i]?) hview
      simp only [List.getElem?_eq_getElem (show i < (packed l i).length by
        rw [← hview]; simp; omega), getElem_packed hi] at this
      rw [List.getElem?_eq_getElem (by simp; omega), Ring.getElem_contents] at this
      exact Option.some.inj this
    have hs := length_survivors_add_finished (l.take i)
    rw [List.length_take, Nat.min_eq_left hi.le] at hs
    rw [removeCompletedLoop]
    simp only [hc]
    split
    · next hd =>
      refine removeCompletedLoop_spec hr n (i + 1) (removed + 1) T (by omega) hT ?_ ?_
      · rw [finished_take_succ hi, if_pos hd, hrem]
      · rw [packed_succ_of_done hi hd, hview]
    · next hd =>
      simp only [Bool.not_eq_true] at hd
      refine removeCompletedLoop_spec hr n (i + 1) removed _ (by omega) ?_
        (by rw [finished_take_succ hi, if_neg (by simp [hd]), hrem, Nat.add_zero]) ?_
      · split <;> simp [hT]
      · rw [packed_succ_of_keep hi hd]
        have hsl : (survivors (l.take i)).length < l.length := by omega
        split
        · next hpos =>
          have hoff : r.head + i - removed = r.head + (survivors (l.take i)).length := by omega
          rw [hoff, Ring.contents_set hTr (show _ < r.count by simp [l] at hsl; omega), hview,
            packed, List.set_append_right _ _ (by omega), Nat.sub_self,
            List.drop_eq_getElem_cons hsl]
          rfl
        · next hz =>
          have : (survivors (l.take i)).length = i := by omega
          rw [hview, packed, this, List.drop_eq_getElem_cons hi]

/-- `pgraft_remove_completed_commands` leaves the survivors packed from the old head and the
finished records' count as the new head's advance. -/
theorem contents_removeCompleted (hw : w.statusCommands.Inv sz.maxCommands) :
    (pgraftRemoveCompletedCommands sz w).statusCommands.Inv sz.maxCommands ∧
    (pgraftRemoveCompletedCommands sz w).statusCommands.contents sz.maxCommands =
      (packed (w.statusCommands.contents sz.maxCommands) w.statusCommands.count).drop
        (finished (w.statusCommands.contents sz.maxCommands)) := by
  obtain ⟨hlen, hrem, hview⟩ := removeCompletedLoop_spec hw w.statusCommands.count 0 0
    w.statusCommands.slots (by omega) hw.length_slots (by simp [finished])
    (by simp [packed, survivors])
  have hf : finished (w.statusCommands.contents sz.maxCommands) ≤ w.statusCommands.count := by
    simpa using List.countP_le_length (·.status.isDone) (l := w.statusCommands.contents sz.maxCommands)
  simp only [pgraftRemoveCompletedCommands, hrem]
  refine ⟨⟨hlen, Nat.mod_lt _ sz.maxCommands_pos, ?_, ?_⟩, ?_⟩
  · show _ - _ ≤ _; have := hw.count_le; omega
  · show _ = (_ + (_ - _)) % _; rw [hw.tail_eq, Nat.mod_add_mod]; congr 1; omega
  · rw [← hview]
    exact Ring.contents_advance (r := { w.statusCommands with
      slots := (removeCompletedLoop sz.maxCommands w.statusCommands.head w.statusCommands.slots 0 0
        w.statusCommands.count).1 }) _

/-- Each call keeps the status buffer's cursor discipline. -/
theorem statusCommands_step (hw : w.statusCommands.Inv sz.maxCommands) (op : WorkerOp) :
    (op.step sz w).statusCommands.Inv sz.maxCommands := by
  cases op with
  | addCommandToStatus c => exact (pgraftAddCommandToStatus_spec hw c).1
  | updateCommandStatus ts st m => exact (pgraftUpdateCommandStatus_spec hw ts st m).1
  | removeCompletedCommands => exact (contents_removeCompleted hw).1
  | queueCommand | queueLogCommand | queueKvCommand | dequeueCommand | enqueueApplyEntry
    | dequeueApplyEntry | recordAppliedIndex =>
    simpa [WorkerOp.step, pgraftQueueCommand, pgraftQueueLogCommand, pgraftQueueKvCommand]
      using hw

end StatusBuffer

/-- The cursor discipline of all three buffers. -/
structure WorkerInv (w : WorkerState) : Prop where
  commands : w.commands.Inv sz.maxCommands
  statusCommands : w.statusCommands.Inv sz.maxCommands
  applyQueue : w.applyQueue.Inv sz.maxApplyEntries

theorem WorkerInv.step {w : WorkerState} (hw : WorkerInv sz w) (op : WorkerOp) :
    WorkerInv sz (op.step sz w) :=
  ⟨(commandMoves_step hw.commands op).1, statusCommands_step hw.statusCommands op,
    (applyMoves_step hw.applyQueue op).1⟩

/-- Every state a run from first attach reaches keeps the cursor discipline of all three
buffers. -/
theorem worker_inv_run (ops : List WorkerOp) :
    WorkerInv sz (WorkerOp.run sz ops (WorkerState.firstAttach sz)) := by
  suffices h : ∀ w, WorkerInv sz w → WorkerInv sz (WorkerOp.run sz ops w) from
    h _ ⟨Ring.Inv.zero sz.maxCommands_pos, Ring.Inv.zero sz.maxCommands_pos,
      Ring.Inv.zero sz.maxApplyEntries_pos⟩
  induction ops with
  | nil => exact fun _ hw => hw
  | cons op ops ih => exact fun w hw => ih _ (hw.step sz op)

/-- A buffer holding a pending record and then a completed one: the clean-up keeps the
completed record and loses the pending one. -/
theorem remove_completed_keeps_finished (hcap : 2 ≤ sz.maxCommands) :
    let pending : Command := { (default : Command) with timestamp := 1 }
    let done : Command := { (default : Command) with timestamp := 2, status := .completed }
    let w := WorkerOp.run sz [.addCommandToStatus pending, .addCommandToStatus done]
      (WorkerState.firstAttach sz)
    w.statusCommands.contents sz.maxCommands = [pending, done] ∧
      (pgraftRemoveCompletedCommands sz w).statusCommands.contents sz.maxCommands = [done] := by
  intro pending done w
  have hw : w = pgraftAddCommandToStatus sz
      (pgraftAddCommandToStatus sz (WorkerState.firstAttach sz) pending) done := rfl
  have z : (WorkerState.firstAttach sz).statusCommands.count = 0 := rfl
  have ze : (WorkerState.firstAttach sz).statusCommands.contents sz.maxCommands = [] := by
    simp [Ring.contents, z]
  obtain ⟨h1, c1⟩ := pgraftAddCommandToStatus_spec (w := WorkerState.firstAttach sz)
    (Ring.Inv.zero sz.maxCommands_pos) pending
  rw [z, if_neg (Nat.not_le.mpr sz.maxCommands_pos), ze, List.nil_append] at c1
  have n1 : (pgraftAddCommandToStatus sz (WorkerState.firstAttach sz) pending).statusCommands.count
      = 1 := by
    simpa using congrArg List.length c1
  obtain ⟨h2, c2⟩ := pgraftAddCommandToStatus_spec h1 done
  rw [n1, if_neg (by omega), c1] at c2
  rw [hw, c2]
  refine ⟨rfl, ?_⟩
  have n2 := congrArg List.length c2
  rw [Ring.length_contents] at n2
  rw [(contents_removeCompleted h2).2, c2, n2]
  rfl

theorem remove_completed_keeps_finished_two :
    let sz : CoreSizes := ⟨2, 1, 1, 1, 1, 1, 1, 1, 1, 1, Nat.two_pos, Nat.one_pos⟩
    2 ≤ sz.maxCommands ∧
      let pending : Command := { (default : Command) with timestamp := 1 }
      let done : Command := { (default : Command) with timestamp := 2, status := .completed }
      let w := WorkerOp.run sz [.addCommandToStatus pending, .addCommandToStatus done]
        (WorkerState.firstAttach sz)
      w.statusCommands.contents sz.maxCommands = [pending, done] ∧
        (pgraftRemoveCompletedCommands sz w).statusCommands.contents sz.maxCommands = [done] :=
  ⟨Nat.le_refl 2, remove_completed_keeps_finished _ (Nat.le_refl 2)⟩

end Pgraft
