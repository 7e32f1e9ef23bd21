import Pgraft.Cluster
import Pgraft.WorkerQueues
import Mathlib.Data.List.Nodup

/-!
# The node table and the leader test

Every call keeps the table's shape, 16 slots with at most 16 in use (`ClusterReachable.inv`).
An add appends without looking for its id, and a remove takes out the first node with its id
only (`Cluster.Inv.table_removeNode`). So a table can list an id twice, and a remove then
leaves a copy (`listed_add_duplicates`).

`pgraft_kv_queue_operation` tests `node_id == leader_id` on the descriptor and nothing else.
A fresh descriptor holds `-1` in both, and every call but `pgraft_core_init` and a refresh
from a loaded Go library leaves an uninitialized descriptor as it is. Until one of those two
runs, a write is queued with no leader known, while `pgraft_core_is_leader` says no and SQL
`pgraft_is_leader` says yes (`gate_open_before_init`).

Node ids from the Go library reach the table cast to `int32_t`, and the nodes table flags a
node as leader by its cast id (`refresh_flags_narrowed_ids`).
-/

namespace Pgraft

/-- The shape every call keeps: 16 slots, at most 16 of them in use. -/
structure Cluster.Inv (c : Cluster) : Prop where
  length_nodes : c.nodes.length = 16
  numNodes_le : c.numNodes ≤ 16

section Table

variable {cs : ClusterSizes} {c : Cluster}

theorem Cluster.Inv.length_table (hc : c.Inv) : c.table.length = c.numNodes := by
  simp [Cluster.table, hc.length_nodes, hc.numNodes_le]

theorem pgraftCoreAddNode_of_room (hi : c.initialized = true) (hn : c.numNodes < 16)
    (n : Int) (a : String) (p : Int) :
    pgraftCoreAddNode cs c n a p =
      .ret 0 { c with
        nodes := c.nodes.set c.numNodes (clusterNode cs n a p), numNodes := c.numNodes + 1 } := by
  simp [pgraftCoreAddNode, hi, Nat.not_le.mpr hn]

/-- An add that finds room appends to the table. -/
theorem Cluster.Inv.table_addNode (hc : c.Inv) (hi : c.initialized = true) (hn : c.numNodes < 16)
    (n : Int) (a : String) (p : Int) :
    (pgraftCoreAddNode cs c n a p).state.table = c.table ++ [clusterNode cs n a p] := by
  rw [pgraftCoreAddNode_of_room hi hn, Call.state_ret]
  exact take_succ_set _ _ (by rw [hc.length_nodes]; exact hn)

/-- A remove takes out the first node in use with the id, and only that one. -/
theorem Cluster.Inv.table_removeNode (hc : c.Inv) (hi : c.initialized = true) (n : Int) :
    (pgraftCoreRemoveNode c n).state.table = c.table.eraseP (·.id == n) := by
  simp only [pgraftCoreRemoveNode, hi, Bool.not_true, Bool.false_eq_true, if_false]
  cases hf : c.table.findIdx? (·.id == n) with
  | none =>
    exact (List.eraseP_of_forall_not fun x hx => by
      simpa using List.findIdx?_eq_none_iff.mp hf x hx).symm
  | some i =>
    have hlt : i < c.numNodes := hc.length_table ▸ (List.findIdx?_eq_some_iff_getElem.mp hf).1
    rw [Call.state_ret, eraseP_of_findIdx? hf, ← List.eraseIdx_eq_take_drop_succ]
    exact take_shiftSlots hlt (hc.length_nodes ▸ hc.numNodes_le)

/-! ### Each call keeps the shape -/

theorem Cluster.Inv.init (hc : c.Inv) (n : Int) (a : String) (p : Int) :
    (pgraftCoreInit cs c n a p).state.Inv := by
  unfold pgraftCoreInit
  split
  · exact hc
  · exact ⟨by simp [hc.length_nodes], by show 1 ≤ 16; decide⟩

theorem Cluster.Inv.addNode (hc : c.Inv) (n : Int) (a : String) (p : Int) :
    (pgraftCoreAddNode cs c n a p).state.Inv := by
  unfold pgraftCoreAddNode
  split_ifs with h₁ h₂
  · exact hc
  · exact hc
  · exact ⟨by simp [hc.length_nodes], show c.numNodes + 1 ≤ 16 by omega⟩

theorem Cluster.Inv.removeNode (hc : c.Inv) (n : Int) : (pgraftCoreRemoveNode c n).state.Inv := by
  unfold pgraftCoreRemoveNode
  split
  · exact hc
  · split
    · exact ⟨by simp [length_shiftSlots, hc.length_nodes],
        show c.numNodes - 1 ≤ 16 by have := hc.numNodes_le; omega⟩
    · exact hc

theorem Cluster.Inv.updateNodes (hc : c.Inv) (ns : List (Int × String)) :
    (pgraftCoreUpdateNodes cs c ns).state.Inv := by
  unfold pgraftCoreUpdateNodes
  split
  · exact hc
  · have h : (ns.take 16).length ≤ 16 := List.length_take_le _ _
    exact ⟨by simp only [Call.state_ret, List.length_append, List.length_replicate,
      List.length_map]; omega, by simp⟩

theorem Cluster.Inv.updateClusterState (hc : c.Inv) (l t : Int) (st : Option String) :
    (pgraftCoreUpdateClusterState cs c l t st).state.Inv := by
  unfold pgraftCoreUpdateClusterState
  split
  · exact hc
  · exact ⟨hc.1, hc.2⟩

theorem Cluster.Inv.cleanup (hc : c.Inv) : (pgraftCoreCleanup c).Inv := by
  unfold pgraftCoreCleanup
  split
  · exact ⟨hc.1, hc.2⟩
  · exact hc

theorem Cluster.Inv.refreshNodes (hc : c.Inv) (js : Option String) : (refreshNodes cs c js).Inv := by
  unfold Pgraft.refreshNodes
  split
  · split
    · exact hc
    · split
      · exact hc.updateNodes _
      · exact hc
  · exact hc

theorem Cluster.Inv.refresh {s : Shared} (hc : s.cluster.Inv) (g : Option GoReport) :
    (pgraftUpdateSharedMemoryFromGo cs g s).cluster.Inv := by
  cases g with
  | none => exact hc
  | some g =>
    have h := @Cluster.Inv.refreshNodes cs s.cluster hc g.nodesJson
    simp only [pgraftUpdateSharedMemoryFromGo]
    split <;> exact ⟨h.1, h.2⟩

/-- `pgraft_add_node_system` leaves the descriptor as its `pgraft_core_add_node` did, whatever
the Go library answers. -/
theorem pgraftAddNodeSystem_state (n : Int) (a : String) (p : Int) (e : Option (Nat → Int)) :
    (pgraftAddNodeSystem cs c n a p e).state = (pgraftCoreAddNode cs c n a p).state := by
  cases h : pgraftCoreAddNode cs c n a p with
  | raise m c' => simp [pgraftAddNodeSystem, h]
  | ret r c' =>
    simp only [pgraftAddNodeSystem, h, Call.state_ret]
    split
    · rfl
    · split
      · rfl
      · split <;> rfl

theorem Cluster.Inv.step {s : Shared} (hc : s.cluster.Inv) (op : ClusterOp) :
    (op.step cs s).cluster.Inv := by
  cases op with
  | init n a p => exact hc.init n a p
  | addNode n a p => exact hc.addNode n a p
  | addNodeSystem n a p e =>
    simpa only [ClusterOp.step, pgraftAddNodeSystem_state] using hc.addNode n a p
  | removeNode n => exact hc.removeNode n
  | updateNodes ns => exact hc.updateNodes ns
  | refresh g => exact hc.refresh g
  | updateClusterState l t st => exact hc.updateClusterState l t st
  | cleanup => exact hc.cleanup

end Table

/-- Every reachable descriptor has its 16 slots and at most 16 nodes in use. -/
theorem ClusterReachable.inv {cs : ClusterSizes} {sz : CoreSizes} {s : Shared}
    (h : ClusterReachable cs sz s) : s.cluster.Inv := by
  induction h with
  | start => exact ⟨by simp [Shared.start, pgraftCoreInitSharedMemory, Cluster.zero], Nat.zero_le _⟩
  | step op _ ih => exact ih.step op

/-! ## Ids listed twice -/

/-- An add of an id the table already lists, on an initialized descriptor with room: the
state it leaves is reachable and lists the id twice, and a remove of the id then leaves a
copy. -/
theorem listed_add_duplicates {cs : ClusterSizes} {sz : CoreSizes} {s : Shared} {nodeId : Int}
    (address : String) (port : Int) (hr : ClusterReachable cs sz s)
    (hi : s.cluster.initialized = true) (hn : s.cluster.numNodes < 16)
    (hm : nodeId ∈ s.cluster.ids) :
    let s' := (ClusterOp.addNode nodeId address port).step cs s
    ClusterReachable cs sz s' ∧ s'.cluster.ids = s.cluster.ids ++ [nodeId] ∧
      ¬ s'.cluster.ids.Nodup ∧ nodeId ∈ ((ClusterOp.removeNode nodeId).step cs s').cluster.ids := by
  intro s'
  have hr' : ClusterReachable cs sz s' := .step _ hr
  have hadd : s'.cluster.table = s.cluster.table ++ [clusterNode cs nodeId address port] :=
    hr.inv.table_addNode hi hn _ _ _
  have hids : s'.cluster.ids = s.cluster.ids ++ [nodeId] := by
    simp [Cluster.ids, hadd, clusterNode]
  have hi' : s'.cluster.initialized = true := by
    simp [s', ClusterOp.step, pgraftCoreAddNode_of_room hi hn, hi]
  refine ⟨hr', hids, fun hnd => List.disjoint_of_nodup_append (hids ▸ hnd) hm
    (List.mem_singleton_self _), ?_⟩
  obtain ⟨x, hx, rfl⟩ := List.mem_map.mp hm
  simp only [ClusterOp.step, Cluster.ids]
  rw [hr'.inv.table_removeNode hi' x.id, hadd, List.eraseP_append_left (by simp) _ hx]
  simp [clusterNode]

/-- The node's own id, added again after `pgraft_core_init`. -/
theorem own_id_added_twice :
    let cs : ClusterSizes := ⟨256, 32⟩
    let s := (ClusterOp.init 1 "10.0.0.1:5432" 5432).step cs (Shared.start cs smallSizes)
    let s' := (ClusterOp.addNode 1 "10.0.0.1:5432" 5432).step cs s
    s.cluster.ids = [1] ∧
      (ClusterReachable cs smallSizes s' ∧ s'.cluster.ids = s.cluster.ids ++ [1] ∧
        ¬ s'.cluster.ids.Nodup ∧ 1 ∈ ((ClusterOp.removeNode 1).step cs s').cluster.ids) := by
  intro cs s s'
  exact ⟨by decide,
    listed_add_duplicates "10.0.0.1:5432" 5432 (.step _ .start) rfl (by decide) (by decide)⟩

/-! ## The leader test -/

/-- The calls that leave an uninitialized descriptor as it is: every one but
`pgraft_core_init` and a refresh from a loaded Go library. -/
def ClusterOp.keepsUninitialized : ClusterOp → Bool
  | .init .. => false
  | .refresh (some _) => false
  | _ => true

/-- What the three leadership tests say of a state. -/
structure OpenGate (cs : ClusterSizes) (sz : CoreSizes) (s : Shared) : Prop where
  uninitialized : s.cluster.initialized = false
  no_leader : s.cluster.leaderId = -1
  queues : ∀ (h : Host) (key : String) (value : Option String) (clientId : String),
    kvQueueOperationOnDescriptor cs sz none h s 1 key value clientId =
      .ret 0 { s with node := { s.node with
        worker := (pgraftQueueKvCommand sz s.node.worker .kvPut (some key) value (some clientId)
          h.now).1 } }
  core_refuses : pgraftCoreIsLeader s.cluster = false
  sql_accepts : pgraftIsLeader s.cluster s.node.worker = true

section Gate

variable {cs : ClusterSizes} {sz : CoreSizes}

theorem ClusterOp.step_of_uninitialized {s : Shared} {op : ClusterOp}
    (hi : s.cluster.initialized = false) (hop : op.keepsUninitialized = true) :
    op.step cs s = s := by
  cases op with
  | init => cases hop
  | refresh g =>
    cases g with
    | none => rfl
    | some => cases hop
  | addNodeSystem n a p e =>
    simp [ClusterOp.step, pgraftAddNodeSystem_state, pgraftCoreAddNode, hi]
  | _ =>
    simp [ClusterOp.step, pgraftCoreAddNode, pgraftCoreRemoveNode, pgraftCoreUpdateNodes,
      pgraftCoreUpdateClusterState, pgraftCoreCleanup, hi]

theorem ClusterOp.run_of_uninitialized : ∀ (ops : List ClusterOp) {s : Shared},
    s.cluster.initialized = false → (∀ op ∈ ops, op.keepsUninitialized = true) →
      ClusterOp.run cs ops s = s
  | [], _, _, _ => rfl
  | op :: ops, s, hi, hops => by
    rw [ClusterOp.run, List.foldl_cons, step_of_uninitialized hi (hops op (List.mem_cons_self _ _))]
    exact run_of_uninitialized ops hi fun o ho => hops o (List.mem_cons_of_mem _ ho)

theorem OpenGate.start : OpenGate cs sz (Shared.start cs sz) where
  uninitialized := rfl
  no_leader := rfl
  queues h key value clientId := by
    have hq : (pgraftQueueKvCommand sz (WorkerState.firstAttach sz) .kvPut (some key) value
        (some clientId) h.now).2 = true := by
      rw [pgraftQueueKvCommand, queueCommandWith_of_lt sz.maxCommands_pos]
    simp [kvQueueOperationOnDescriptor, pgraftUpdateSharedMemoryFromGo, Shared.host,
      pgraftKvQueueOperation, hq, Call.mapState, Shared.start, pgraftCoreInitSharedMemory]
  core_refuses := rfl
  sql_accepts := rfl

end Gate

/-- Before the first `pgraft_core_init` or refresh from a loaded Go library, whatever else is
called: the descriptor is uninitialized with no leader, `pgraft_kv_queue_operation` without
the library queues a write, `pgraft_core_is_leader` says no and SQL `pgraft_is_leader` says
yes. -/
theorem gate_open_before_init {cs : ClusterSizes} {sz : CoreSizes} (ops : List ClusterOp)
    (hops : ∀ op ∈ ops, op.keepsUninitialized = true) :
    OpenGate cs sz (ClusterOp.run cs ops (Shared.start cs sz)) := by
  rw [ClusterOp.run_of_uninitialized ops rfl hops]
  exact OpenGate.start

/-- A refresh that finds no Go library, a state update and a cleanup leave the gate open. -/
theorem gate_open_without_library :
    OpenGate ⟨256, 32⟩ smallSizes (ClusterOp.run ⟨256, 32⟩
      [.refresh none, .updateClusterState 2 1 (some "leader"), .cleanup]
      (Shared.start ⟨256, 32⟩ smallSizes)) :=
  gate_open_before_init _ (by decide)

/-! ## Node ids from the Go library -/

theorem parseNodeEntry_of_fields {x : Json} {n : Int} {a : String}
    (hid : x.getEx "id" = some (.int n)) (ha : x.getEx "address" = some (.str a))
    (h0 : 0 < n) (h63 : n < 2 ^ 63) :
    parseNodeEntry x = some (n.bmod (2 ^ 32), strncpyField 256 (cStr a)) := by
  cases x with
  | obj fs =>
    have hsat : int64Sat n = n := by unfold int64Sat; omega
    have hmod : n % 2 ^ 64 = n := Int.emod_eq_of_lt h0.le (by omega)
    simp only [parseNodeEntry, hid, ha, hsat, hmod, h0, if_true]
  | _ => cases hid

theorem parseNodesLoop_of_forall₂ {xs : List Json} {qs : List (Int × String)}
    (h : List.Forall₂ (fun x q => parseNodeEntry x = some q) xs qs) :
    ∀ m, parseNodesLoop m xs = qs.take m := by
  induction h with
  | nil => intro m; cases m <;> rfl
  | cons hx _ ih =>
    intro m
    cases m with
    | zero => rfl
    | succ m => simp [parseNodesLoop, hx, ih]

section Refresh

variable {cs : ClusterSizes} {c : Cluster} {s : Shared} {g : GoReport}

theorem pgraftCoreUpdateNodes_table (hi : c.initialized = true) (ns : List (Int × String)) :
    (pgraftCoreUpdateNodes cs c ns).state.table =
      (ns.take 16).map fun n => ⟨n.1, strncpyField cs.addressSize n.2, 0, false⟩ := by
  simp [pgraftCoreUpdateNodes, hi, Cluster.table]

theorem refreshNodes_of_parse {text : String} {q : Int × String} {qs : List (Int × String)}
    (hne : text ≠ "[]") (hparse : pgraftParseNodesJson text 16 = some (q :: qs)) :
    refreshNodes cs c (some text) = (pgraftCoreUpdateNodes cs c (q :: qs)).state := by
  simp [refreshNodes, hne, hparse]

/-- A refresh from a loaded library marks the descriptor initialized, takes the reported
leader, and keeps the table its node list left. -/
theorem refresh_cluster :
    (pgraftUpdateSharedMemoryFromGo cs (some g) s).cluster.initialized = true ∧
      (pgraftUpdateSharedMemoryFromGo cs (some g) s).cluster.leaderId = g.leader ∧
      (pgraftUpdateSharedMemoryFromGo cs (some g) s).cluster.table =
        (refreshNodes cs s.cluster g.nodesJson).table ∧
      (pgraftUpdateSharedMemoryFromGo cs (some g) s).cluster.numNodes =
        (refreshNodes cs s.cluster g.nodesJson).numNodes := by
  simp only [pgraftUpdateSharedMemoryFromGo]
  split <;> exact ⟨rfl, rfl, rfl, rfl⟩

/-- A refresh from a loaded library stores the reported leader and term, and the reported node
id when it is positive. -/
theorem refresh_descriptor_ids :
    (pgraftUpdateSharedMemoryFromGo cs (some g) s).cluster.leaderId = g.leader ∧
      (pgraftUpdateSharedMemoryFromGo cs (some g) s).cluster.currentTerm = g.term ∧
      (0 < g.nodeId → (pgraftUpdateSharedMemoryFromGo cs (some g) s).cluster.nodeId = g.nodeId) := by
  by_cases h : 0 < g.nodeId <;> simp [pgraftUpdateSharedMemoryFromGo, h]

/-- The rows of the nodes table are the table in use, flagged by the leader id. -/
theorem getNodesTable_flags (hi : c.initialized = true) (hc : c.numNodes ≤ 16) :
    (pgraftGetNodesTable c).map (fun r => (r.id, r.isLeader)) =
      c.table.map fun n => (n.id, c.leaderId == n.id) := by
  simp [pgraftGetNodesTable, pgraftCoreGetClusterState, hi, Cluster.table, Nat.min_eq_left hc,
    Function.comp_def]

end Refresh

/-- A node list the Go library reports, each element an object with a positive 64-bit `id`
and a string `address`: after the refresh the nodes table lists them with their ids cast to
`int32_t`, and flags a node as leader when its cast id is the reported leader. -/
theorem refresh_flags_narrowed_ids {cs : ClusterSizes} {s : Shared} {g : GoReport} {text : String}
    {xs : List Json} {ps : List (Int × String)}
    (hi : s.cluster.initialized = true) (hjs : g.nodesJson = some text) (hne : text ≠ "[]")
    (hp : Json.tokenerParse text = some (.arr xs))
    (hnodes : List.Forall₂ (fun x p => x.getEx "id" = some (.int p.1) ∧
      x.getEx "address" = some (.str p.2) ∧ 0 < p.1 ∧ p.1 < 2 ^ 63) xs ps)
    (hps : ps ≠ []) :
    (pgraftGetNodesTable (pgraftUpdateSharedMemoryFromGo cs (some g) s).cluster).map
        (fun r => (r.id, r.isLeader)) =
      (ps.take 16).map fun p => (p.1.bmod (2 ^ 32), g.leader == p.1.bmod (2 ^ 32)) := by
  have hq : List.Forall₂ (fun x q => parseNodeEntry x = some q) xs
      (ps.map fun p => (p.1.bmod (2 ^ 32), strncpyField 256 (cStr p.2))) :=
    List.forall₂_map_right_iff.mpr (hnodes.imp fun _ _ h => parseNodeEntry_of_fields h.1 h.2.1 h.2.2.1 h.2.2.2)
  have hparse : pgraftParseNodesJson text 16 =
      some ((ps.map fun p => (p.1.bmod (2 ^ 32), strncpyField 256 (cStr p.2))).take 16) := by
    simp [pgraftParseNodesJson, hp, parseNodesLoop_of_forall₂ hq]
  obtain ⟨p, ps', rfl⟩ := List.exists_cons_of_ne_nil hps
  obtain ⟨hi', hl, ht, hn⟩ := @refresh_cluster cs s g
  rw [hjs, refreshNodes_of_parse hne hparse] at ht hn
  have hle : (pgraftUpdateSharedMemoryFromGo cs (some g) s).cluster.numNodes ≤ 16 := by
    simp [hn, pgraftCoreUpdateNodes, hi]
  rw [getNodesTable_flags hi' hle, ht, pgraftCoreUpdateNodes_table hi, hl]
  simp [List.map_take, List.take_take, Function.comp_def]

/-- One node, with id `2^31`, reported as leader: the nodes table lists it with id `-2^31`
and does not flag it. -/
theorem leader_id_past_int32_unflagged :
    let cs : ClusterSizes := ⟨256, 32⟩
    let s := (ClusterOp.init 1 "10.0.0.1:5432" 5432).step cs (Shared.start cs smallSizes)
    let text := "[\x7b\"id\": 2147483648, \"address\": \"10.0.0.2:5432\"\x7d]"
    let g : GoReport := ⟨2147483648, 1, 2147483648, some text⟩
    (pgraftGetNodesTable (pgraftUpdateSharedMemoryFromGo cs (some g) s).cluster).map
        (fun r => (r.id, r.isLeader)) =
      ([((2147483648 : Int), "10.0.0.2:5432")].take 16).map
        (fun p => (p.1.bmod (2 ^ 32), g.leader == p.1.bmod (2 ^ 32))) ∧
    (pgraftGetNodesTable (pgraftUpdateSharedMemoryFromGo cs (some g) s).cluster).map
        (fun r => (r.id, r.isLeader)) = [(-2147483648, false)] := by
  intro cs s text g
  have h := @refresh_flags_narrowed_ids cs s g text
    [.obj [("id", .int 2147483648), ("address", .str "10.0.0.2:5432")]]
    [(2147483648, "10.0.0.2:5432")] rfl rfl (by decide) rfl
    (.cons ⟨rfl, rfl, by decide, by decide⟩ .nil) (List.cons_ne_nil _ _)
  exact ⟨h, h.trans (by decide)⟩

end Pgraft
