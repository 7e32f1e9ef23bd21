import Pgraft.Log
import Pgraft.KvMap

/-!
# The tracker's invariant

Every state reachable from `pgraft_log_init_shared_memory` by appends, commits, applies,
replication counts, cleanups and resets keeps its stored indices gapless and ending at
`last_index`, has every applied entry committed, and orders
`0 ≤ last_applied ≤ commit_index ≤ last_index` with each committed (applied) entry at or
below `commit_index` (`last_applied`): `log_reachable_inv`. The cleanup loop, whose index
steps back after each removal, keeps exactly the stored entries at or above the threshold,
in order (`stored_cleanup`).
-/

namespace Pgraft

/-! ## The cleanup loop -/

theorem shiftDown_eq_shiftSlots : ∀ (es : List LogEntry) (j n : Nat),
    shiftDown es j n = shiftSlots es j n
  | _, _, 0 => rfl
  | _, j, n + 1 => shiftDown_eq_shiftSlots _ (j + 1) n

/-- The inner loop removes slot `j` and repeats the last slot it reads. -/
theorem shiftDown_eq (n j : Nat) (es : List LogEntry) (h : j + n < es.length) :
    shiftDown es j n = es.take j ++ (es.drop (j + 1)).take n ++ es.drop (j + n) := by
  rw [shiftDown_eq_shiftSlots, shiftSlots_eq n j es h]

/-- The outer loop from slot `i` keeps the slots before `i` and filters the slots
`i ..< size`. -/
theorem cleanupLoop_spec (b : Int) (es : List LogEntry) (i size : Nat) :
    i ≤ size → size ≤ es.length →
    (cleanupLoop b es i size).1.length = es.length ∧ (cleanupLoop b es i size).2 ≤ size ∧
    (cleanupLoop b es i size).1.take (cleanupLoop b es i size).2 =
      es.take i ++ ((es.drop i).take (size - i)).filter (fun e => decide (e.index ≥ b)) := by
  induction es, i, size using cleanupLoop.induct b with
  | case1 es i size hlt hrm ih =>
    intro _ hs
    have hi : i < es.length := by omega
    have hsh := shiftDown_eq (size - 1 - i) i es (by omega)
    have hlen : (shiftDown es i (size - 1 - i)).length = es.length := by
      rw [shiftDown_eq_shiftSlots, length_shiftSlots]
    obtain ⟨ih1, ih3, ih2⟩ := ih (by omega) (by rw [hlen]; omega)
    have hcons : (es.drop i).take (size - i) = es[i] :: (es.drop (i + 1)).take (size - 1 - i) := by
      rw [show size - i = size - 1 - i + 1 by omega, List.drop_eq_getElem_cons hi,
        List.take_succ_cons]
    have hrm' : es[i].index < b := by simpa [List.getElem?_eq_getElem hi] using hrm
    rw [cleanupLoop.eq_1, if_pos hlt, if_pos hrm]
    refine ⟨ih1.trans hlen, by omega, ?_⟩
    have hA : (es.take i).length = i := List.length_take_of_le hi.le
    have hB : ((es.drop (i + 1)).take (size - 1 - i)).length = size - 1 - i :=
      List.length_take_of_le (by rw [List.length_drop]; omega)
    rw [ih2, hsh, List.append_assoc, List.take_left' hA, List.drop_left' hA, List.take_left' hB,
      hcons, List.filter_cons, if_neg (by simp only [ge_iff_le, decide_eq_true_eq]; omega)]
  | case2 es i size hlt hkeep ih =>
    intro _ hs
    have hi : i < es.length := by omega
    obtain ⟨ih1, ih3, ih2⟩ := ih (by omega) hs
    have htake : es.take (i + 1) = es.take i ++ [es[i]] := by
      rw [List.take_succ, List.getElem?_eq_getElem hi]; rfl
    have hcons : (es.drop i).take (size - i) =
        es[i] :: (es.drop (i + 1)).take (size - (i + 1)) := by
      rw [show size - i = size - (i + 1) + 1 by omega, List.drop_eq_getElem_cons hi,
        List.take_succ_cons]
    have hkeep' : ¬es[i].index < b := by simpa [List.getElem?_eq_getElem hi] using hkeep
    rw [cleanupLoop.eq_1, if_pos hlt, if_neg hkeep]
    refine ⟨ih1, ih3, ?_⟩
    rw [ih2, htake, hcons, List.filter_cons, if_pos (by simp; omega)]
    simp only [List.append_assoc, List.singleton_append]
  | case3 es i size hge =>
    intro hi _
    rw [cleanupLoop.eq_1, if_neg hge]
    simp [show i = size by omega]

theorem stored_cleanup {st : LogState} (b : Int) (hl : st.logSize ≤ st.entries.length) :
    (pgraftLogCleanupOldEntries st b).stored =
      st.stored.filter (fun e => decide (e.index ≥ b)) ∧
    (pgraftLogCleanupOldEntries st b).entries.length = st.entries.length ∧
    (pgraftLogCleanupOldEntries st b).logSize ≤ st.logSize := by
  obtain ⟨h1, h3, h2⟩ := cleanupLoop_spec b st.entries 0 st.logSize (Nat.zero_le _) hl
  exact ⟨by simpa [pgraftLogCleanupOldEntries, LogState.stored] using h2, h1, h3⟩

/-- Filtering consecutive indices by a threshold drops a prefix. -/
theorem filter_ge_of_consecutive (b : Int) : ∀ (l : List LogEntry) (c : Int),
    (∀ i (h : i < l.length), l[i].index = c + i) →
    ∃ k, l.filter (fun e => decide (e.index ≥ b)) = l.drop k
  | [], _, _ => ⟨0, rfl⟩
  | e :: l, c, h => by
    have he : e.index = c := by simpa using h 0 (by simp)
    have hl : ∀ i (hi : i < l.length), l[i].index = (c + 1) + i := fun i hi => by
      have := h (i + 1) (by simp; omega); simp at this; omega
    by_cases hc : b ≤ c
    · refine ⟨0, List.filter_eq_self.mpr fun x hx => ?_⟩
      obtain ⟨i, hi, rfl⟩ := List.getElem_of_mem hx
      have := h i hi; simp; omega
    · obtain ⟨k, hk⟩ := filter_ge_of_consecutive b l (c + 1) hl
      exact ⟨k + 1, by simp [List.filter_cons, he, hc, hk]⟩

/-! ## The invariant -/

namespace LogState

/-- What every reachable tracker state satisfies; `stored` is `entries[0 .. log_size)`. -/
structure Inv (st : LogState) : Prop where
  length_entries : st.entries.length = logSlots
  logSize_le : st.logSize ≤ 1000
  gapless : ∀ i (h : i < st.stored.length), st.stored[i].index = st.lastIndex - st.logSize + 1 + i
  committed_of_applied : ∀ e ∈ st.stored, e.applied = true → e.committed = true
  lastApplied_nonneg : 0 ≤ st.lastApplied
  lastApplied_le : st.lastApplied ≤ st.commitIndex
  commitIndex_le : st.commitIndex ≤ st.lastIndex
  committed_le : ∀ e ∈ st.stored, e.committed = true → e.index ≤ st.commitIndex
  applied_le : ∀ e ∈ st.stored, e.applied = true → e.index ≤ st.lastApplied

variable {st : LogState} {i : Nat} {e : LogEntry}

theorem Inv.logSize_le_length (hs : st.Inv) : st.logSize ≤ st.entries.length := by
  rw [hs.length_entries]; exact hs.logSize_le

theorem stored_length (hl : st.logSize ≤ st.entries.length) : st.stored.length = st.logSize := by
  simp [stored]; omega

theorem slot_eq_stored (hi : i < st.stored.length) : st.slot i = st.stored[i] := by
  simp only [stored, List.getElem_take] at hi ⊢
  simp [slot, List.getElem?_eq_getElem (show i < st.entries.length by simp at hi; omega)]

theorem Inv.index_le (hs : st.Inv) (he : e ∈ st.stored) : e.index ≤ st.lastIndex := by
  obtain ⟨i, hi, rfl⟩ := List.getElem_of_mem he
  have := hs.gapless i hi
  have := stored_length hs.logSize_le_length
  omega

theorem find_some {index : Int} (h : st.find index = some i) :
    ∃ hi : i < st.stored.length, st.stored[i].index = index := by
  obtain ⟨hi, hp, -⟩ := List.findIdx?_eq_some_iff_getElem.mp h
  exact ⟨hi, by simpa using hp⟩

theorem stored_of_set {st' : LogState} {x : LogEntry} (he : st'.entries = st.entries.set i x)
    (hn : st'.logSize = st.logSize) : st'.stored = st.stored.set i x := by
  simp [stored, he, hn, List.set_take]

end LogState

open LogState

/-- `if (index > cur) cur = index` only moves a cursor forward, and no further than a bound
of both. -/
theorem raise_ge_left (a b : Int) : b ≤ (if a > b then a else b) := by split <;> omega

theorem raise_ge_right (a b : Int) : a ≤ (if a > b then a else b) := by split <;> omega

theorem raise_le {a b c : Int} (ha : a ≤ c) (hb : b ≤ c) : (if a > b then a else b) ≤ c := by
  split <;> omega

section
variable {st : LogState}

theorem LogState.Inv.append (hs : st.Inv) (t : Int) (d : String) (n : Nat) (now : Int) :
    (pgraftLogAppendEntry st t d n now).state.Inv := by
  unfold pgraftLogAppendEntry
  split_ifs with h1 h2
  · exact hs
  · exact hs
  · have hl := hs.logSize_le_length
    have hlt : st.logSize < st.entries.length := by rw [hs.length_entries]; simp [logSlots]; omega
    have hst : ∀ x : LogEntry, ({ st with
        entries := st.entries.set st.logSize x
        logSize := st.logSize + 1
        lastIndex := st.lastIndex + 1 } : LogState).stored = st.stored ++ [x] :=
      fun x => take_succ_set _ _ hlt
    refine ⟨?length_entries, ?logSize_le, ?gapless, ?committed_of_applied, ?lastApplied_nonneg,
      ?lastApplied_le, ?commitIndex_le, ?committed_le, ?applied_le⟩
    all_goals dsimp only [Call.state_ret]
    case length_entries => simp [hs.length_entries]
    case logSize_le => omega
    case gapless =>
      intro j hj
      simp only [hst] at hj ⊢
      have hn := stored_length hl
      rw [List.getElem_append]
      split
      · have := hs.gapless j (by omega); push_cast; omega
      · simp at hj; simp [show j = st.logSize by omega]; omega
    case lastApplied_nonneg => exact hs.lastApplied_nonneg
    case lastApplied_le => exact hs.lastApplied_le
    case commitIndex_le => have := hs.commitIndex_le; omega
    all_goals
      intro x hx; simp only [hst, List.mem_append, List.mem_singleton] at hx
      rcases hx with hx | rfl
    · exact hs.committed_of_applied x hx
    · simp
    · intro hc; have := hs.committed_le x hx hc; omega
    · simp
    · intro ha; have := hs.applied_le x hx ha; omega
    · simp

/-- Commit and apply rewrite the flags of one stored slot and move the two cursors forward:
the invariant holds afterwards when the new slot and cursors respect it. -/
theorem LogState.Inv.mark (hs : st.Inv) {st' : LogState} {i : Nat} {x : LogEntry}
    (hi : i < st.stored.length) (he : st'.entries = st.entries.set i x)
    (hn : st'.logSize = st.logSize) (hL : st'.lastIndex = st.lastIndex)
    (hx : x.index = st.stored[i].index)
    (hC : st.commitIndex ≤ st'.commitIndex) (hA : st.lastApplied ≤ st'.lastApplied)
    (hAC : st'.lastApplied ≤ st'.commitIndex) (hCL : st'.commitIndex ≤ st'.lastIndex)
    (hxa : x.applied = true → x.committed = true)
    (hxc : x.committed = true → x.index ≤ st'.commitIndex)
    (hxA : x.applied = true → x.index ≤ st'.lastApplied) : st'.Inv := by
  have hst := stored_of_set he hn
  have hmem : ∀ y ∈ st'.stored, y ∈ st.stored ∨ y = x := fun y hy =>
    List.mem_or_eq_of_mem_set (hst ▸ hy)
  refine ⟨by rw [he, List.length_set, hs.length_entries], hn ▸ hs.logSize_le, fun j hj => ?_,
    fun y hy => ?_, Int.le_trans hs.lastApplied_nonneg hA, hAC, hCL, fun y hy => ?_,
    fun y hy => ?_⟩
  · simp only [hst, List.getElem_set] at hj ⊢
    rw [hn, hL]
    split
    · subst_vars; rw [hx]; exact hs.gapless _ hi
    · exact hs.gapless j (by simpa using hj)
  · rcases hmem y hy with hy | rfl
    · exact hs.committed_of_applied y hy
    · exact hxa
  · rcases hmem y hy with hy | rfl
    · exact fun h => Int.le_trans (hs.committed_le y hy h) hC
    · exact hxc
  · rcases hmem y hy with hy | rfl
    · exact fun h => Int.le_trans (hs.applied_le y hy h) hA
    · exact hxA

theorem LogState.Inv.commit (hs : st.Inv) (index : Int) : (pgraftLogCommitEntry st index).state.Inv := by
  unfold pgraftLogCommitEntry
  split
  · exact hs
  next i hf =>
    obtain ⟨hi, hidx⟩ := LogState.find_some hf
    have hle : index ≤ st.lastIndex := hidx ▸ hs.index_le (List.getElem_mem hi)
    rw [slot_eq_stored hi]
    exact hs.mark hi rfl rfl rfl rfl (raise_ge_left _ _) (Int.le_refl _)
      (Int.le_trans hs.lastApplied_le (raise_ge_left _ _)) (raise_le hle hs.commitIndex_le)
      (fun _ => rfl) (fun _ => hidx ▸ raise_ge_right _ _)
      (hs.applied_le st.stored[i] (List.getElem_mem hi))

theorem LogState.Inv.apply (hs : st.Inv) (index : Int) : (pgraftLogApplyEntry st index).state.Inv := by
  unfold pgraftLogApplyEntry
  split
  · exact hs
  next i hf =>
    obtain ⟨hi, hidx⟩ := LogState.find_some hf
    rw [slot_eq_stored hi]
    split
    · exact hs
    next hc =>
      have hc : st.stored[i].committed = true := by simpa using hc
      have hle : index ≤ st.commitIndex := hidx ▸ hs.committed_le _ (List.getElem_mem hi) hc
      exact hs.mark hi rfl rfl rfl rfl (Int.le_refl _) (raise_ge_left _ _)
        (raise_le hle hs.lastApplied_le) hs.commitIndex_le (fun _ => hc)
        (fun _ => hidx ▸ hle) (fun _ => hidx ▸ raise_ge_right _ _)

theorem LogState.Inv.replicate (hs : st.Inv) (fromIndex : Int) :
    (pgraftLogReplicateToNode st fromIndex).Inv :=
  ⟨hs.1, hs.2, hs.3, hs.4, hs.5, hs.6, hs.7, hs.8, hs.9⟩

/-- Cleanup keeps a suffix of the stored entries: consecutive indices filtered by a threshold. -/
theorem LogState.Inv.cleanup (hs : st.Inv) (b : Int) : (pgraftLogCleanupOldEntries st b).Inv := by
  have hl := hs.logSize_le_length
  have hn := stored_length hl
  obtain ⟨hst, hlen, hsz⟩ := stored_cleanup b hl
  obtain ⟨k, hk⟩ := filter_ge_of_consecutive b st.stored _ hs.gapless
  rw [hk] at hst
  have hn' : (pgraftLogCleanupOldEntries st b).stored.length =
      (pgraftLogCleanupOldEntries st b).logSize := stored_length (by omega)
  have hsub : ∀ e ∈ (pgraftLogCleanupOldEntries st b).stored, e ∈ st.stored :=
    fun e he => List.mem_of_mem_drop (hst ▸ he)
  refine ⟨hlen.trans hs.length_entries, by have := hs.logSize_le; omega, fun j hj => ?_,
    fun e he => hs.committed_of_applied e (hsub e he), hs.lastApplied_nonneg, hs.lastApplied_le,
    hs.commitIndex_le, fun e he => hs.committed_le e (hsub e he),
    fun e he => hs.applied_le e (hsub e he)⟩
  simp only [hst, List.getElem_drop, List.length_drop] at hj hn' ⊢
  have := hs.gapless (k + j) (by omega)
  change _ = st.lastIndex - _ + 1 + _
  rw [this, ← hn']
  push_cast
  omega

theorem LogState.Inv.reset (hs : st.Inv) : (pgraftLogReset st).Inv := by
  refine ⟨hs.length_entries, Nat.zero_le _, ?_, ?_, Int.le_refl 0, Int.le_refl 0, Int.le_refl 0,
    ?_, ?_⟩ <;> simp [pgraftLogReset, stored]

theorem LogState.Inv.init : LogState.init.Inv := by
  refine ⟨by simp [LogState.init], Nat.zero_le _, ?_, ?_, Int.le_refl 0, Int.le_refl 0,
    Int.le_refl 0, ?_, ?_⟩ <;> simp [LogState.init, stored]

end

/-! ## Runs -/

/-- The tracker's operations, each as the state its call leaves. -/
inductive LogOp
  | append (term : Int) (data : String) (dataSize : Nat) (now : Int)
  | commit (index : Int)
  | apply (index : Int)
  | replicate (fromIndex : Int)
  | cleanup (beforeIndex : Int)
  | reset
deriving DecidableEq, Repr

namespace LogOp

def step : LogOp → LogState → LogState
  | .append t d n now, st => (pgraftLogAppendEntry st t d n now).state
  | .commit index, st => (pgraftLogCommitEntry st index).state
  | .apply index, st => (pgraftLogApplyEntry st index).state
  | .replicate f, st => pgraftLogReplicateToNode st f
  | .cleanup b, st => pgraftLogCleanupOldEntries st b
  | .reset, st => pgraftLogReset st

/-- The index a successful append assigns: `entry->index`, which it also stores in
`last_index`. -/
def assigned : LogOp → LogState → Option Int
  | .append t d n now, st =>
    match pgraftLogAppendEntry st t d n now with
    | .ret _ st' => some st'.lastIndex
    | .raise _ _ => none
  | _, _ => none

variable {st : LogState} {x : Int}

theorem assigned_eq : ∀ op : LogOp, op.assigned st = some x →
    x = st.lastIndex + 1 ∧ (op.step st).lastIndex = st.lastIndex + 1
  | .append t d n now, h => by
    simp only [assigned, step, pgraftLogAppendEntry] at h ⊢
    split_ifs at h ⊢
    simp at h; exact ⟨h.symm, rfl⟩

theorem step_lastIndex : ∀ op : LogOp, op ≠ .reset → op.assigned st = none →
    (op.step st).lastIndex = st.lastIndex
  | .append t d n now, _, h => by
    simp only [assigned, step, pgraftLogAppendEntry] at h ⊢
    split_ifs at h ⊢ <;> simp_all
  | .commit index, _, _ => by simp only [step, pgraftLogCommitEntry]; split <;> rfl
  | .apply index, _, _ => by
    simp only [step, pgraftLogApplyEntry]; split
    · rfl
    · split <;> rfl
  | .replicate _, _, _ => rfl
  | .cleanup _, _, _ => rfl
  | .reset, h, _ => absurd rfl h

end LogOp

/-- The states reachable from `pgraft_log_init_shared_memory`. -/
inductive LogReachable : LogState → Prop
  | init : LogReachable LogState.init
  | step {st : LogState} (op : LogOp) : LogReachable st → LogReachable (op.step st)

theorem LogState.Inv.step {st : LogState} (hs : st.Inv) : ∀ op : LogOp, (op.step st).Inv
  | .append .. => hs.append ..
  | .commit _ => hs.commit _
  | .apply _ => hs.apply _
  | .replicate _ => hs.replicate _
  | .cleanup _ => hs.cleanup _
  | .reset => hs.reset

theorem LogReachable.inv {st : LogState} (h : LogReachable st) : st.Inv := by
  induction h with
  | init => exact LogState.Inv.init
  | step op _ ih => exact ih.step op

/-- The indices the successful appends of a run assign, in order. -/
def appendIndices : LogState → List LogOp → List Int
  | _, [] => []
  | st, op :: ops => (op.assigned st).toList ++ appendIndices (op.step st) ops

/-- Without a reset, the appends of a run are numbered on from `last_index`. -/
theorem appendIndices_eq : ∀ (st : LogState) (ops : List LogOp), (∀ op ∈ ops, op ≠ .reset) →
    appendIndices st ops =
      (List.range (appendIndices st ops).length).map fun k : Nat => st.lastIndex + 1 + k
  | _, [], _ => rfl
  | st, op :: ops, hr => by
    have ih := appendIndices_eq (op.step st) ops fun o h => hr o (List.mem_cons_of_mem _ h)
    have hop : op ≠ .reset := hr op (List.mem_cons_self _ _)
    simp only [appendIndices]
    cases ha : op.assigned st with
    | none =>
      rw [Option.toList_none, List.nil_append, ih, op.step_lastIndex hop ha, List.length_map,
        List.length_range]
    | some x =>
      obtain ⟨rfl, hL⟩ := op.assigned_eq ha
      rw [ih, hL]
      generalize (appendIndices (op.step st) ops).length = m
      simp only [Option.toList_some, List.singleton_append, List.length_cons, List.length_map,
        List.length_range, List.range_succ_eq_map, List.map_cons, List.map_map]
      refine congrArg₂ _ (by simp) (List.map_congr_left fun k _ => ?_)
      simp only [Function.comp, Nat.succ_eq_add_one]; push_cast; omega

/-- The tracker's contract on a state: the invariant, and the appends after a reset numbered
`1, 2, 3, ...`. -/
structure LogTrackerSound (st : LogState) : Prop where
  inv : st.Inv
  numbered_after_reset : ∀ ops : List LogOp, (∀ op ∈ ops, op ≠ .reset) →
    appendIndices (pgraftLogReset st) ops =
      (List.range (appendIndices (pgraftLogReset st) ops).length).map fun k : Nat => (k : Int) + 1

theorem log_reachable_inv {st : LogState} (h : LogReachable st) : LogTrackerSound st :=
  ⟨h.inv, fun ops hr => by
    rw [appendIndices_eq _ ops hr]
    simp [pgraftLogReset, Int.add_comm]⟩

theorem log_append_inv : LogReachable ((LogOp.append 1 "x" 1 0).step LogState.init) ∧
    LogTrackerSound ((LogOp.append 1 "x" 1 0).step LogState.init) :=
  ⟨.step _ .init, log_reachable_inv (.step _ .init)⟩

/-! ## The cleanup on any state -/

/-- On any tracker state whose slots hold its `log_size` entries, the cleanup keeps exactly
the stored entries at or above the threshold, in order and unchanged, flags included, and
leaves `last_index`, `commit_index` and `last_applied` as they were. The loop stops because
`size - i` falls on both of its paths (`cleanupLoop`). -/
theorem cleanup_keeps_entries_from {st : LogState} (b : Int) (hl : st.logSize ≤ st.entries.length) :
    (pgraftLogCleanupOldEntries st b).stored = st.stored.filter (fun e => decide (e.index ≥ b)) ∧
      (pgraftLogCleanupOldEntries st b).lastIndex = st.lastIndex ∧
      (pgraftLogCleanupOldEntries st b).commitIndex = st.commitIndex ∧
      (pgraftLogCleanupOldEntries st b).lastApplied = st.lastApplied :=
  ⟨(stored_cleanup b hl).1, rfl, rfl, rfl⟩

/-- Three appends, then a cleanup below index 2. -/
theorem cleanup_after_three_appends :
    let st := (LogOp.append 1 "c" 1 0).step ((LogOp.append 1 "b" 1 0).step
      ((LogOp.append 1 "a" 1 0).step LogState.init))
    st.logSize ≤ st.entries.length ∧
      ((pgraftLogCleanupOldEntries st 2).stored = st.stored.filter (fun e => decide (e.index ≥ 2)) ∧
        (pgraftLogCleanupOldEntries st 2).lastIndex = st.lastIndex ∧
        (pgraftLogCleanupOldEntries st 2).commitIndex = st.commitIndex ∧
        (pgraftLogCleanupOldEntries st 2).lastApplied = st.lastApplied) := by
  intro st
  have hl : st.logSize ≤ st.entries.length :=
    (LogReachable.inv (.step _ (.step _ (.step _ .init)))).logSize_le_length
  exact ⟨hl, cleanup_keeps_entries_from 2 hl⟩

/-! ## Failed calls change nothing -/

section Errors

variable {st : LogState} {index : Int}

theorem LogState.find_eq_none (h : ∀ e ∈ st.stored, e.index ≠ index) : st.find index = none :=
  List.findIdx?_eq_none_iff.mpr fun e he => by simpa using h e he

/-- A commit of an index no stored entry carries returns `-1` and changes nothing. -/
theorem pgraftLogCommitEntry_missing (h : ∀ e ∈ st.stored, e.index ≠ index) :
    pgraftLogCommitEntry st index = .ret (-1) st := by
  simp [pgraftLogCommitEntry, LogState.find_eq_none h]

/-- An apply of an index whose stored entries are all uncommitted returns `-1` and changes
nothing. -/
theorem pgraftLogApplyEntry_uncommitted (h : ∀ e ∈ st.stored, e.index = index → e.committed = false) :
    pgraftLogApplyEntry st index = .ret (-1) st := by
  unfold pgraftLogApplyEntry
  split
  · rfl
  · next k hk =>
    obtain ⟨hk', he⟩ := LogState.find_some hk
    rw [LogState.slot_eq_stored hk', h _ (List.getElem_mem hk') he]
    rfl

end Errors

/-- The tracker's calls that fail, and what they leave: the whole state as it was. -/
structure LogErrorsAtomic (st : LogState) : Prop where
  append_refused : ∀ t d n now, 1024 < n ∨ st.logSize = 1000 →
    (pgraftLogAppendEntry st t d n now).returned = none ∧
      (pgraftLogAppendEntry st t d n now).state = st
  commit_missing : ∀ i, (∀ e ∈ st.stored, e.index ≠ i) → pgraftLogCommitEntry st i = .ret (-1) st
  commit_before_append : ∀ i, st.lastIndex < i → pgraftLogCommitEntry st i = .ret (-1) st
  commit_cleaned_up : ∀ b i, i < b →
    pgraftLogCommitEntry (pgraftLogCleanupOldEntries st b) i =
      .ret (-1) (pgraftLogCleanupOldEntries st b)
  apply_uncommitted : ∀ i, (∀ e ∈ st.stored, e.index = i → e.committed = false) →
    pgraftLogApplyEntry st i = .ret (-1) st

theorem log_errors_atomic {st : LogState} (h : LogReachable st) : LogErrorsAtomic st := by
  have hs := h.inv
  refine ⟨fun t d n now hn => ?_, fun i => pgraftLogCommitEntry_missing,
    fun i hi => pgraftLogCommitEntry_missing fun e he => ?_, fun b i hi => ?_,
    fun i => pgraftLogApplyEntry_uncommitted⟩
  · unfold pgraftLogAppendEntry
    rcases hn with hn | hn
    · rw [if_pos hn]; exact ⟨rfl, rfl⟩
    · split_ifs <;> first | exact ⟨rfl, rfl⟩ | omega
  · have := hs.index_le he; omega
  · refine pgraftLogCommitEntry_missing fun e he => ?_
    rw [(stored_cleanup b hs.logSize_le_length).1, List.mem_filter] at he
    have := of_decide_eq_true he.2; omega

/-- Two entries appended, the second committed, and the first cleaned up. -/
theorem log_errors_atomic_after_cleanup :
    let st₀ := (LogOp.commit 2).step
      ((LogOp.append 1 "y" 1 0).step ((LogOp.append 1 "x" 1 0).step LogState.init))
    let st := (LogOp.cleanup 2).step st₀
    (LogReachable st ∧ st.stored.map (fun e => (e.index, e.committed)) = [(2, true)]) ∧
      LogErrorsAtomic st := by
  intro st₀ st
  have h₀ : LogReachable st₀ := .step _ (.step _ (.step _ .init))
  have hs : st.stored = st₀.stored.filter (fun e => decide (e.index ≥ 2)) :=
    (stored_cleanup 2 h₀.inv.logSize_le_length).1
  exact ⟨⟨.step _ h₀, by rw [hs]; decide⟩, log_errors_atomic (.step _ h₀)⟩

end Pgraft
