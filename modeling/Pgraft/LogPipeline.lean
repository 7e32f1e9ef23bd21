import Pgraft.WorkerLoop
import Pgraft.LogInv

/-!
# From the SQL log functions to the log tracker

`pgraft_log_append`, `pgraft_log_commit` and `pgraft_log_apply` do not touch the log: they
queue a command with `(int)` of their `int64` argument as its `log_index`, and the worker's
`LOG_*` branches call `pgraft_log_*_system`, which pass that index on to the tracker; for an
append it becomes the entry's term. A worker turn here is the loop's turn with those branches
calling the tracker (`logTurn`).

Along any interleaving of the three SQL functions and worker turns that starts and ends with an
empty command queue and in which no turn raises, the tracker gains exactly one entry per
`pgraft_log_append` call that returned, in the order of the calls, holding the call's term
reduced to 32 bits and its data cut to the command's field; commits and applies change no
entry's term or data (`log_pipeline`).
-/

namespace Pgraft

variable (sz : CoreSizes)

/-! ## The model -/

/-- `(int)` of an `int64_t`: the low 32 bits, read as a signed number. -/
def toInt32 (v : Int) : Int := v.bmod (2 ^ 32)

/-- A log SQL function: queue the command, `ERROR` when the queue refuses it. -/
def queueLogSql (w : WorkerState) (type : CommandType) (logData : Option String) (arg now : Int)
    (message : String) : Call WorkerState Unit :=
  match pgraftQueueLogCommand sz w type logData (toInt32 arg) now with
  | (w, true) => .ret () w
  | (w, false) => .raise message w

/-- SQL `pgraft_log_append(term, data)`. -/
def pgraftLogAppend (w : WorkerState) (term : Int) (data : String) (now : Int) :
    Call WorkerState Unit :=
  queueLogSql sz w .logAppend (some data) term now "pgraft: failed to queue LOG_APPEND command"

/-- SQL `pgraft_log_commit(index)`. -/
def pgraftLogCommit (w : WorkerState) (index now : Int) : Call WorkerState Unit :=
  queueLogSql sz w .logCommit none index now "pgraft: failed to queue LOG_COMMIT command"

/-- SQL `pgraft_log_apply(index)`. -/
def pgraftLogApply (w : WorkerState) (index now : Int) : Call WorkerState Unit :=
  queueLogSql sz w .logApply none index now "pgraft: failed to queue LOG_APPLY command"

/-- `pgraft_log_append_system`: the command's index is the entry's term, `strlen` its size. -/
def pgraftLogAppendSystem (lg : LogState) (logData : String) (logIndex now : Int) :
    Call LogState Int :=
  (pgraftLogAppendEntry lg logIndex logData logData.length now).map
    fun r => if r ≠ 0 then -1 else 0

/-- `pgraft_log_commit_system`. -/
def pgraftLogCommitSystem (lg : LogState) (logIndex : Int) : Call LogState Int :=
  (pgraftLogCommitEntry lg logIndex).map fun r => if r ≠ 0 then -1 else 0

/-- `pgraft_log_apply_system`. -/
def pgraftLogApplySystem (lg : LogState) (logIndex : Int) : Call LogState Int :=
  (pgraftLogApplyEntry lg logIndex).map fun r => if r ≠ 0 then -1 else 0

/-- The tracker call the branch for a command makes; `none` for the branches that make none. -/
def logCall (cmd : Command) (lg : LogState) (now : Int) : Option (Call LogState Int) :=
  match cmd.type with
  | .logAppend => some (pgraftLogAppendSystem lg cmd.logData cmd.logIndex now)
  | .logCommit => some (pgraftLogCommitSystem lg cmd.logIndex)
  | .logApply => some (pgraftLogApplySystem lg cmd.logIndex)
  | _ => none

/-- The engine whose three log calls answer `r`. -/
def Engine.withLog (e : Engine) (r : Int) : Engine :=
  { e with logAppendSystem := fun _ _ => r, logCommitSystem := fun _ => r,
           logApplySystem := fun _ => r }

/-- A turn of the worker loop whose log branches call the tracker: the loop's turn with the
tracker's answer; an `ERROR` from the tracker ends the turn after the command was taken and
copied to the status buffer. -/
def logTurn (e : Engine) (w : WorkerState) (lg : LogState) (now : Int) :
    Call (WorkerState × LogState) Unit :=
  match pgraftDequeueCommand sz w with
  | (_, none) => (pgraftMainStep sz e w now).mapState (·, lg)
  | (w', some cmd) =>
    match logCall cmd lg now with
    | none => (pgraftMainStep sz e w now).mapState (·, lg)
    | some (.raise m lg') => .raise m (pgraftAddCommandToStatus sz w' cmd, lg')
    | some (.ret r lg') => (pgraftMainStep sz (e.withLog r) w now).mapState (·, lg')

/-- The calls of the pipeline: the three SQL functions and a turn of the worker. -/
inductive PipeOp
  | logAppend (term : Int) (data : String) (now : Int)
  | logCommit (index now : Int)
  | logApply (index now : Int)
  | turn (now : Int)

namespace PipeOp

/-- The outcome of a call. -/
def call (e : Engine) : PipeOp → WorkerState × LogState → Call (WorkerState × LogState) Unit
  | logAppend t d now, s => (pgraftLogAppend sz s.1 t d now).mapState (·, s.2)
  | logCommit i now, s => (pgraftLogCommit sz s.1 i now).mapState (·, s.2)
  | logApply i now, s => (pgraftLogApply sz s.1 i now).mapState (·, s.2)
  | turn now, s => logTurn sz e s.1 s.2 now

/-- The term and data of a `pgraft_log_append` call that returned. -/
def accepted (e : Engine) : PipeOp → WorkerState × LogState → List (Int × String)
  | op@(logAppend t d _), s => if (op.call sz e s).returned.isSome then [(t, d)] else []
  | _, _ => []

/-- Whether a worker turn raised. -/
def raised (e : Engine) : PipeOp → WorkerState × LogState → Bool
  | op@(turn _), s => (op.call sz e s).returned.isNone
  | _, _ => false

/-- A run: the state it leaves, whether a worker turn raised, and the term and data of each
`pgraft_log_append` call that returned, in order. -/
def run (e : Engine) : List PipeOp → WorkerState × LogState →
    (WorkerState × LogState) × Bool × List (Int × String)
  | [], s => (s, false, [])
  | op :: ops, s =>
    let r := run e ops (op.call sz e s).state
    (r.1, op.raised sz e s || r.2.1, op.accepted sz e s ++ r.2.2)

end PipeOp

/-! ## What a call conserves -/

/-- The term and data of a log entry. -/
def LogEntry.termData (e : LogEntry) : Int × String := (e.term, e.data)

/-- The term and data the entry of a queued `LOG_APPEND` command gets. -/
def Command.appendOf (c : Command) : Option (Int × String) :=
  if c.type = .logAppend then some (c.logIndex, c.logData) else none

/-- What the entry of a `pgraft_log_append(term, data)` that returned holds. -/
def appendedEntry (a : Int × String) : Int × String := (toInt32 a.1, strncpyField sz.logDataSize a.2)

/-- The tracker's entries, then the appends still queued, as term and data. -/
def pipeView (s : WorkerState × LogState) : List (Int × String) :=
  s.2.stored.map LogEntry.termData ++
    (s.1.commands.contents sz.maxCommands).filterMap Command.appendOf

/-- The invariants of the two sides: the command ring's cursors and the tracker's. -/
structure PipeInv (s : WorkerState × LogState) : Prop where
  commands : s.1.commands.Inv sz.maxCommands
  log : s.2.Inv

section Tracker

variable {lg lg' : LogState} {cmd : Command} {r : Int}

theorem stored_termData_of_set {i : Nat} {x : LogEntry} (hi : i < lg.stored.length)
    (he : lg'.entries = lg.entries.set i x) (hn : lg'.logSize = lg.logSize)
    (hx : x.termData = lg.stored[i].termData) :
    lg'.stored.map LogEntry.termData = lg.stored.map LogEntry.termData := by
  rw [LogState.stored_of_set he hn, List.map_set]
  refine List.ext_getElem (by simp) fun j _ _ => ?_
  rw [List.getElem_set]
  split <;> simp_all

/-- An append that returns adds its entry after the stored ones. -/
theorem pgraftLogAppendEntry_stored (hlg : lg.Inv) (t : Int) (d : String) (n : Nat) (now : Int)
    (h : (pgraftLogAppendEntry lg t d n now).returned.isSome) :
    (pgraftLogAppendEntry lg t d n now).state.stored =
      lg.stored ++ [⟨lg.lastIndex + 1, t, now, ⟨d.data.take n⟩, n, false, false⟩] := by
  unfold pgraftLogAppendEntry at h ⊢
  split_ifs at h ⊢ with h1 h2
  · cases h
  · cases h
  · have hlt : lg.logSize < lg.entries.length := by
      rw [hlg.length_entries]; simp only [logSlots]; omega
    exact take_succ_set _ _ hlt

theorem pgraftLogCommitEntry_termData (index : Int) :
    (pgraftLogCommitEntry lg index).state.stored.map LogEntry.termData =
      lg.stored.map LogEntry.termData := by
  unfold pgraftLogCommitEntry
  split
  · rfl
  next i hf =>
    obtain ⟨hi, -⟩ := LogState.find_some hf
    exact stored_termData_of_set hi rfl rfl (by rw [LogState.slot_eq_stored hi]; rfl)

theorem pgraftLogApplyEntry_termData (index : Int) :
    (pgraftLogApplyEntry lg index).state.stored.map LogEntry.termData =
      lg.stored.map LogEntry.termData := by
  unfold pgraftLogApplyEntry
  split
  · rfl
  next i hf =>
    obtain ⟨hi, -⟩ := LogState.find_some hf
    split
    · rfl
    · exact stored_termData_of_set hi rfl rfl (by rw [LogState.slot_eq_stored hi]; rfl)

/-- A log branch that returns keeps the tracker's invariant and adds the command's entry, if it
is an append, after the stored ones; commit and apply change no term or data. -/
theorem logCall_ret {now : Int} (hlg : lg.Inv) (h : logCall cmd lg now = some (.ret r lg')) :
    lg'.Inv ∧ lg'.stored.map LogEntry.termData =
      lg.stored.map LogEntry.termData ++ cmd.appendOf.toList := by
  unfold logCall at h
  split at h
  next ht =>
    obtain ⟨a, hc, -⟩ := Call.map_eq_ret (Option.some.inj h)
    have hi := hlg.append cmd.logIndex cmd.logData cmd.logData.length now
    have hs := pgraftLogAppendEntry_stored hlg cmd.logIndex cmd.logData cmd.logData.length now
      (by rw [hc]; rfl)
    rw [hc, Call.state_ret] at hi hs
    have hd : (⟨cmd.logData.data.take cmd.logData.length⟩ : String) = cmd.logData :=
      congrArg String.mk (List.take_length _)
    refine ⟨hi, ?_⟩
    simp only [hs, List.map_append, List.map_singleton, LogEntry.termData, Command.appendOf, ht,
      if_true, Option.toList_some, hd]
  next ht =>
    obtain ⟨a, hc, -⟩ := Call.map_eq_ret (Option.some.inj h)
    have hi := hlg.commit cmd.logIndex
    have hs := @pgraftLogCommitEntry_termData lg cmd.logIndex
    rw [hc, Call.state_ret] at hi hs
    exact ⟨hi, by simp [hs, Command.appendOf, ht]⟩
  next ht =>
    obtain ⟨a, hc, -⟩ := Call.map_eq_ret (Option.some.inj h)
    have hi := hlg.apply cmd.logIndex
    have hs := @pgraftLogApplyEntry_termData lg cmd.logIndex
    rw [hc, Call.state_ret] at hi hs
    exact ⟨hi, by simp [hs, Command.appendOf, ht]⟩
  next => cases h

end Tracker

section Worker

variable {sz} {w : WorkerState}

/-- A turn of the loop puts no command on the queue: it leaves the queue `pgraft_dequeue_command`
left. -/
theorem pgraftMainStep_commands (e : Engine) (now : Int) :
    (pgraftMainStep sz e w now).state.commands = (pgraftDequeueCommand sz w).1.commands := by
  unfold pgraftMainStep
  rcases hd : pgraftDequeueCommand sz w with ⟨w₁, _ | cmd⟩
  · rfl
  · dsimp only
    rcases hx : executeCommand sz e (pgraftAddCommandToStatus sz w₁ cmd) cmd now with
      _ | ⟨w₂, st, msg⟩
    · rfl
    · simp only [Call.state_ret, pgraftUpdateCommandStatus_commands]
      rw [executeCommand_frame hx]; rfl

/-- A log SQL function puts its command on the queue exactly when it returns. -/
theorem queueLogSql_spec (hw : w.commands.Inv sz.maxCommands) (type : CommandType)
    (logData : Option String) (arg now : Int) (message : String) :
    (queueLogSql sz w type logData arg now message).state.commands.Inv sz.maxCommands ∧
    (queueLogSql sz w type logData arg now message).state.commands.contents sz.maxCommands =
      w.commands.contents sz.maxCommands ++
        if (queueLogSql sz w type logData arg now message).returned.isSome then
          [queuedLogCommand sz type logData (toInt32 arg) now (w.commands.slot w.commands.tail)]
        else [] := by
  unfold queueLogSql pgraftQueueLogCommand
  by_cases hc : w.commands.count < sz.maxCommands
  · rw [queueCommandWith_of_lt hc]
    exact ⟨hw.push hc _, by simpa using Ring.contents_push hw hc _⟩
  · rw [queueCommandWith_of_full (by omega)]
    exact ⟨hw, by simp⟩

theorem appendOf_of_logCall_none {cmd : Command} {lg : LogState} {now : Int}
    (h : logCall cmd lg now = none) : cmd.appendOf = none := by
  unfold logCall at h
  split at h <;> simp_all [Command.appendOf]

/-- A worker turn that does not raise keeps both invariants and moves an append from the queue
to the tracker, as the same term and data. -/
theorem logTurn_spec {e : Engine} {lg : LogState} {now : Int} (hs : PipeInv sz (w, lg))
    (hr : (logTurn sz e w lg now).returned.isSome) :
    PipeInv sz (logTurn sz e w lg now).state ∧
      pipeView sz (logTurn sz e w lg now).state = pipeView sz (w, lg) := by
  obtain ⟨hw', hmv⟩ := pgraftDequeueCommand_moves hs.commands
  have hm := fun e' => @pgraftMainStep_commands sz w e' now
  unfold logTurn at hr ⊢
  rcases hd : pgraftDequeueCommand sz w with ⟨w', _ | cmd⟩ <;> rw [hd] at hw' hmv hm hr <;>
    dsimp only at hr hw' hmv hm ⊢
  · rw [Call.state_mapState]
    exact ⟨⟨by simpa [hm] using hw', hs.log⟩, by simp [pipeView, hm, ← hmv]⟩
  · rcases hl : logCall cmd lg now with _ | (⟨r, lg'⟩ | ⟨m, lg'⟩) <;> rw [hl] at hr <;>
      dsimp only at hr ⊢
    · rw [Call.state_mapState]
      refine ⟨⟨by simpa [hm] using hw', hs.log⟩, ?_⟩
      simp [pipeView, hm, ← hmv, appendOf_of_logCall_none hl]
    · obtain ⟨hi, hv⟩ := logCall_ret hs.log hl
      rw [Call.state_mapState]
      refine ⟨⟨by simpa [hm] using hw', hi⟩, ?_⟩
      simp only [pipeView, hm, hv, ← hmv, Option.toList_some, List.singleton_append,
        List.filterMap_cons, List.append_assoc]
      cases cmd.appendOf <;> rfl
    · cases hr

end Worker

namespace PipeOp

variable {sz} {e : Engine}

/-- A call that does not end the worker keeps both invariants, and the conserved view gains
exactly the entry of an append the call accepted. -/
theorem call_spec {s : WorkerState × LogState} (hs : PipeInv sz s) (op : PipeOp)
    (hr : op.raised sz e s = false) :
    PipeInv sz (op.call sz e s).state ∧
      pipeView sz (op.call sz e s).state =
        pipeView sz s ++ (op.accepted sz e s).map (appendedEntry sz) := by
  obtain ⟨w, lg⟩ := s
  cases op with
  | logAppend t d now =>
    obtain ⟨hi, hc⟩ := queueLogSql_spec hs.commands .logAppend (some d) t now
      "pgraft: failed to queue LOG_APPEND command"
    simp only [call, accepted, pgraftLogAppend, Call.state_mapState, Call.returned_mapState]
    refine ⟨⟨hi, hs.log⟩, ?_⟩
    simp only [pipeView, hc]
    split <;> simp [Command.appendOf, queuedLogCommand, appendedEntry, cField]
  | logCommit i now =>
    obtain ⟨hi, hc⟩ := queueLogSql_spec hs.commands .logCommit none i now
      "pgraft: failed to queue LOG_COMMIT command"
    simp only [call, accepted, pgraftLogCommit, Call.state_mapState]
    refine ⟨⟨hi, hs.log⟩, ?_⟩
    simp only [pipeView, hc]
    split <;> simp [Command.appendOf, queuedLogCommand]
  | logApply i now =>
    obtain ⟨hi, hc⟩ := queueLogSql_spec hs.commands .logApply none i now
      "pgraft: failed to queue LOG_APPLY command"
    simp only [call, accepted, pgraftLogApply, Call.state_mapState]
    refine ⟨⟨hi, hs.log⟩, ?_⟩
    simp only [pipeView, hc]
    split <;> simp [Command.appendOf, queuedLogCommand]
  | turn now =>
    simp only [raised, call] at hr
    simpa [accepted, call] using logTurn_spec hs ((Option.isNone_eq_false_iff _).mp hr)

/-- Along a run in which no worker turn raises, both invariants hold, and the conserved view
gains the entries of the accepted appends, in the order of the calls. -/
theorem run_spec : ∀ (ops : List PipeOp) (s : WorkerState × LogState), PipeInv sz s →
    (run sz e ops s).2.1 = false →
    PipeInv sz (run sz e ops s).1 ∧
      pipeView sz (run sz e ops s).1 = pipeView sz s ++ (run sz e ops s).2.2.map (appendedEntry sz)
  | [], s, hs, _ => ⟨hs, by simp [run]⟩
  | op :: ops, s, hs, hr => by
    simp only [run, Bool.or_eq_false_iff] at hr ⊢
    obtain ⟨h₁, h₂⟩ := call_spec hs op hr.1
    obtain ⟨h₃, h₄⟩ := run_spec ops _ h₁ hr.2
    exact ⟨h₃, by rw [h₄, h₂, List.map_append, List.append_assoc]⟩

end PipeOp

/-! ## The log a run leaves -/

theorem contents_of_count_zero {r : Ring Command} (h : r.count = 0) : r.contents sz.maxCommands = [] :=
  List.eq_nil_of_length_eq_zero (by simp [h])

/-- Along any interleaving of `pgraft_log_append`, `pgraft_log_commit`, `pgraft_log_apply` and
worker turns that starts with an empty command queue, ends with it drained, and in which no turn
raises, the tracker gains one entry per `pgraft_log_append` that returned, in the order of the
calls: its term is the call's `int64` term cut to 32 bits, its data the call's data cut to the
command's field. Nothing else changes a stored term or data. -/
theorem log_pipeline (e : Engine) (ops : List PipeOp) {w : WorkerState} {lg : LogState}
    (hw : w.commands.Inv sz.maxCommands) (hempty : w.commands.count = 0) (hlg : lg.Inv)
    (hr : (PipeOp.run sz e ops (w, lg)).2.1 = false)
    (hdrained : (PipeOp.run sz e ops (w, lg)).1.1.commands.count = 0) :
    (PipeOp.run sz e ops (w, lg)).1.2.stored.map (fun x => (x.term, x.data)) =
      lg.stored.map (fun x => (x.term, x.data)) ++ (PipeOp.run sz e ops (w, lg)).2.2.map
        fun a => (toInt32 a.1, strncpyField sz.logDataSize a.2) := by
  have h := (PipeOp.run_spec ops (w, lg) ⟨hw, hlg⟩ hr).2
  simpa [pipeView, contents_of_count_zero sz hempty, contents_of_count_zero sz hdrained] using h

/-- A term of `2 ^ 31` appended through the queue, then its entry committed: the tracker holds
it with term `-2 ^ 31`. -/
theorem log_append_term_wraps :
    let sz : CoreSizes := ⟨2, 1, 16, 1, 64, 1, 1, 1, 64, 1, Nat.two_pos, Nat.one_pos⟩
    let e : Engine :=
      ⟨fun _ _ _ => 0, fun _ _ _ => 0, fun _ => 0, fun _ _ => 0, fun _ => 0, fun _ => 0,
        sampleLibrary, sampleLoader⟩
    let ops := [PipeOp.logAppend (2 ^ 31) "x" 0, .turn 0, .logCommit 1 0, .turn 0]
    ((WorkerState.firstAttach sz).commands.count = 0 ∧
      (PipeOp.run sz e ops (WorkerState.firstAttach sz, LogState.init)).2.1 = false ∧
      (PipeOp.run sz e ops (WorkerState.firstAttach sz, LogState.init)).1.1.commands.count = 0) ∧
      (PipeOp.run sz e ops (WorkerState.firstAttach sz, LogState.init)).1.2.stored.map
        (fun x => (x.term, x.data)) = [(-2 ^ 31, "x")] := by
  intro sz e ops
  have hr : (PipeOp.run sz e ops (WorkerState.firstAttach sz, LogState.init)).2.1 = false := by
    decide
  have hd :
      (PipeOp.run sz e ops (WorkerState.firstAttach sz, LogState.init)).1.1.commands.count = 0 := by
    decide
  have ha : (PipeOp.run sz e ops (WorkerState.firstAttach sz, LogState.init)).2.2 =
      [(2 ^ 31, "x")] := by
    decide
  refine ⟨⟨by decide, hr, hd⟩, (@log_pipeline sz e ops (WorkerState.firstAttach sz) LogState.init
    (worker_inv_run sz []).commands (by decide) LogState.Inv.init hr hd).trans ?_⟩
  rw [ha]
  decide

end Pgraft
