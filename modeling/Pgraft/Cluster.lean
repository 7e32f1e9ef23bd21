import Pgraft.Surface

/-!
# The cluster descriptor

`pgraft_core.c` keeps one `pgraft_cluster_t` in shared memory: whether the core is
initialized, this node's id, the term, the leader's id, a state name and a table of at most
16 nodes. `pgraft_core_init` fills it once, `pgraft_core_add_node` and
`pgraft_core_remove_node` edit the table, `pgraft_core_update_nodes` replaces it, and
`pgraft_core_cleanup` clears the flag and nothing else.

`pgraft_update_shared_memory_from_go` (`pgraft.c`) copies what the Go library reports into
the descriptor and the worker state: the node list through `pgraft_parse_nodes_json`
(`pgraft_json.c`) and `pgraft_core_update_nodes`, then the leader, the term and this node's
id. `pgraft_kv_queue_operation` runs that refresh and then the leader test of
`Pgraft.Surface` on the descriptor's two ids.

`pgraft_core.h` is not among the sources; the sizes of the descriptor's character fields are
a parameter (`ClusterSizes`), and its integer fields are unbounded here except where the code
itself narrows a value (the `(int32_t)` cast of a node id).
-/

namespace Pgraft

/-- The sizes `pgraft_core.h` gives a node's address and the state name. -/
structure ClusterSizes where
  addressSize : Nat
  stateSize : Nat

/-- `pgraft_node_t`. -/
structure ClusterNode where
  id : Int
  address : String
  port : Int
  isLeader : Bool
deriving DecidableEq, Repr, Inhabited

/-- `pgraft_cluster_t` without its spinlock and the three counters no modelled call reads.
`nodes` is the array of 16 slots; `num_nodes` is only ever set to a count, so it is a `Nat`. -/
structure Cluster where
  initialized : Bool
  nodeId : Int
  currentTerm : Int
  leaderId : Int
  state : String
  numNodes : Nat
  nodes : List ClusterNode
deriving DecidableEq, Repr

namespace Cluster

/-- Zero-filled memory. -/
def zero : Cluster := ⟨false, 0, 0, 0, "", 0, List.replicate 16 default⟩

/-- The nodes in use, `nodes[0 .. num_nodes)`. -/
def table (c : Cluster) : List ClusterNode := c.nodes.take c.numNodes

/-- Their ids. -/
def ids (c : Cluster) : List Int := c.table.map (·.id)

end Cluster

variable (cs : ClusterSizes)

/-! ## `pgraft_core.c` -/

/-- `pgraft_core_init_shared_memory` on the segment `ShmemInitStruct` has just created; on a
segment that exists it changes nothing. -/
def pgraftCoreInitSharedMemory : Cluster :=
  { Cluster.zero with nodeId := -1, leaderId := -1, state := strncpyField cs.stateSize "stopped" }

/-- A table entry as `pgraft_core_init` and `pgraft_core_add_node` write it. -/
def clusterNode (nodeId : Int) (address : String) (port : Int) : ClusterNode :=
  ⟨nodeId, strncpyField cs.addressSize address, port, false⟩

/-- `pgraft_core_init`: a second call returns `0` and changes nothing. -/
def pgraftCoreInit (c : Cluster) (nodeId : Int) (address : String) (port : Int) :
    Call Cluster Int :=
  if c.initialized then .ret 0 c
  else
    .ret 0 { c with
      nodeId := nodeId, currentTerm := 0, leaderId := -1
      state := strncpyField cs.stateSize "follower", numNodes := 1
      nodes := c.nodes.set 0 (clusterNode cs nodeId address port), initialized := true }

/-- `pgraft_core_add_node`: the node goes into slot `num_nodes`, with no look for its id. -/
def pgraftCoreAddNode (c : Cluster) (nodeId : Int) (address : String) (port : Int) :
    Call Cluster Int :=
  if !c.initialized then
    .raise ("pgraft: cannot add node " ++ toString nodeId ++ " - core system not initialized") c
  else if 16 ≤ c.numNodes then .raise "pgraft: maximum number of nodes (16) reached" c
  else
    .ret 0 { c with
      nodes := c.nodes.set c.numNodes (clusterNode cs nodeId address port)
      numNodes := c.numNodes + 1 }

/-- `pgraft_core_remove_node`: the first node in use with the id is closed over by the copy
loop; `-1` when there is none. -/
def pgraftCoreRemoveNode (c : Cluster) (nodeId : Int) : Call Cluster Int :=
  if !c.initialized then
    .raise ("pgraft: cannot remove node " ++ toString nodeId ++ " - core system not initialized") c
  else
    match c.table.findIdx? (·.id == nodeId) with
    | some i =>
      .ret 0 { c with nodes := shiftSlots c.nodes i (c.numNodes - 1 - i), numNodes := c.numNodes - 1 }
    | none => .ret (-1) c

/-- `pgraft_core_update_cluster_state`; a `NULL` state name keeps the old one. -/
def pgraftCoreUpdateClusterState (c : Cluster) (leaderId currentTerm : Int)
    (state : Option String) : Call Cluster Int :=
  if !c.initialized then .ret (-1) c
  else
    .ret 0 { c with
      leaderId := leaderId, currentTerm := currentTerm
      state := match state with
        | some s => strncpyField cs.stateSize s
        | none => c.state }

/-- `pgraft_core_update_nodes` with the `num_nodes` ids and addresses of `nodes`: the table
is zero-filled, then the first 16 are copied in with port `0`. -/
def pgraftCoreUpdateNodes (c : Cluster) (nodes : List (Int × String)) : Call Cluster Int :=
  if !c.initialized then .ret (-1) c
  else
    let copied := (nodes.take 16).map fun n => (⟨n.1, strncpyField cs.addressSize n.2, 0, false⟩ : ClusterNode)
    .ret 0 { c with
      nodes := copied ++ List.replicate (16 - copied.length) default, numNodes := copied.length }

/-- `pgraft_core_is_leader`. -/
def pgraftCoreIsLeader (c : Cluster) : Bool := c.initialized && c.nodeId == c.leaderId

/-- `pgraft_core_get_cluster_state`: the copy it hands out, zero-filled when the descriptor is
not initialized; it returns `0` both ways. -/
def pgraftCoreGetClusterState (c : Cluster) : Cluster := if c.initialized then c else Cluster.zero

/-- `pgraft_core_cleanup`. -/
def pgraftCoreCleanup (c : Cluster) : Cluster :=
  if c.initialized then { c with initialized := false } else c

/-! ## `pgraft_parse_nodes_json` -/

/-- `json_object_get_int64` on an integer: json-c holds it in 64 bits, saturating. -/
def int64Sat (n : Int) : Int := max (-2 ^ 63) (min n (2 ^ 63 - 1))

/-- One element of the array: an object whose `id` is an integer, read into a `uint64_t`
(`0` when missing), and whose `address` is a string. A positive id is kept cast to
`int32_t`, its low 32 bits read as two's complement; the address is cut to 255 bytes. -/
def parseNodeEntry : Json → Option (Int × String)
  | .obj fs =>
    let nodeId : Int := match (Json.obj fs).getEx "id" with
      | some (.int n) => int64Sat n % 2 ^ 64
      | _ => 0
    match (Json.obj fs).getEx "address" with
    | some (.str a) =>
      if 0 < nodeId then some (nodeId.bmod (2 ^ 32), strncpyField 256 (cStr a)) else none
    | _ => none
  | _ => none

/-- The loop over the array's elements while fewer than `maxNodes` nodes are kept. -/
def parseNodesLoop : Nat → List Json → List (Int × String)
  | 0, _ => []
  | _, [] => []
  | n + 1, x :: xs =>
    match parseNodeEntry x with
    | some e => e :: parseNodesLoop n xs
    | none => parseNodesLoop (n + 1) xs

/-- `pgraft_parse_nodes_json`: the nodes kept, or `none` for its `-1`. -/
def pgraftParseNodesJson (nodesJson : String) (maxNodes : Int) : Option (List (Int × String)) :=
  if maxNodes ≤ 0 then none
  else
    match Json.tokenerParse nodesJson with
    | some (.arr xs) => some (parseNodesLoop maxNodes.toNat xs)
    | _ => none

/-! ## The refresh from the Go library -/

/-- The cluster descriptor and the node's own shared state. -/
structure Shared where
  cluster : Cluster
  node : Node

/-- What `pgraft_update_shared_memory_from_go` reads from the Go library: the leader id, the
term, this node's id and the node list (`none` when the list getter is missing or returns
`NULL`). -/
structure GoReport where
  leader : Int
  term : Int
  nodeId : Int
  nodesJson : Option String

/-- The node-list part of the refresh: a list other than `[]` from which at least one node is
parsed replaces the table. -/
def refreshNodes (c : Cluster) : Option String → Cluster
  | some js =>
    if js = "[]" then c
    else
      match pgraftParseNodesJson js 16 with
      | some (n :: ns) => (pgraftCoreUpdateNodes cs c (n :: ns)).state
      | _ => c
  | none => c

/-- `pgraft_update_shared_memory_from_go`; `none` when the library or one of the three id
getters is missing, and then nothing changes. The node list is stored before the descriptor
is marked initialized. The persistence file it writes is not modelled. -/
def pgraftUpdateSharedMemoryFromGo (g : Option GoReport) (s : Shared) : Shared :=
  match g with
  | none => s
  | some g =>
    let c := { refreshNodes cs s.cluster g.nodesJson with
      leaderId := g.leader, currentTerm := g.term, initialized := true }
    let c := if 0 < g.nodeId then { c with nodeId := g.nodeId } else c
    let w := if 0 < g.nodeId then { s.node.worker with nodeId := g.nodeId } else s.node.worker
    let st := if 0 < g.leader ∧ g.leader = w.nodeId then "leader" else "follower"
    ⟨{ c with state := strncpyField cs.stateSize st }, { s.node with worker := w }⟩

/-- `pgraft_add_node_system`: the node goes into the table first; then, when the Go library is
loaded with an add-peer function, up to three calls to it, the `k`-th returning
`addPeer k`. -/
def pgraftAddNodeSystem (c : Cluster) (nodeId : Int) (address : String) (port : Int)
    (addPeer : Option (Nat → Int)) : Call Cluster Int :=
  match pgraftCoreAddNode cs c nodeId address port with
  | .raise m c => .raise m c
  | .ret r c =>
    if r ≠ 0 then .ret (-1) c
    else
      match addPeer with
      | none => .ret 0 c
      | some attempt => if (List.range 3).any (attempt · == 0) then .ret 0 c else .ret (-1) c

/-! ## Readers -/

/-- The host as `pgraft_kv_queue_operation` sees it after its refresh: the descriptor's ids. -/
def Shared.host (s : Shared) (h : Host) : Host :=
  { h with nodeId := s.cluster.nodeId, leaderId := s.cluster.leaderId }

/-- `pgraft_kv_queue_operation` in full: the refresh, then the leader test on the descriptor's
`node_id` and `leader_id`. -/
def kvQueueOperationOnDescriptor (sz : CoreSizes) (g : Option GoReport) (h : Host) (s : Shared)
    (opType : Int) (key : String) (value : Option String) (clientId : String) : Call Shared Int :=
  let s := pgraftUpdateSharedMemoryFromGo cs g s
  (pgraftKvQueueOperation sz (s.host h) s.node opType key value clientId).mapState
    fun n => { s with node := n }

/-- SQL `pgraft_is_leader`: the leader id of the descriptor's copy against the worker's
node id. -/
def pgraftIsLeader (c : Cluster) (w : WorkerState) : Bool :=
  (pgraftCoreGetClusterState c).leaderId == w.nodeId

/-- A row of SQL `pgraft_get_nodes_table`. -/
structure NodeRow where
  id : Int
  address : String
  port : Int
  isLeader : Bool
deriving DecidableEq, Repr

/-- SQL `pgraft_get_nodes_table`: per node in use, its id, the address up to its first `:`,
the `atoi` of what follows (`0` without a colon), and whether its id is the leader's. -/
def pgraftGetNodesTable (c : Cluster) : List NodeRow :=
  let c := pgraftCoreGetClusterState c
  (c.nodes.take (min c.numNodes 16)).map fun n =>
    let parts := n.address.data.span (· ≠ ':')
    ⟨n.id, ⟨parts.1⟩, if parts.2 = [] then 0 else atoi ⟨parts.2.tail⟩, c.leaderId == n.id⟩

/-! ## Runs -/

/-- The calls that change the descriptor. -/
inductive ClusterOp
  | init (nodeId : Int) (address : String) (port : Int)
  | addNode (nodeId : Int) (address : String) (port : Int)
  | addNodeSystem (nodeId : Int) (address : String) (port : Int) (addPeer : Option (Nat → Int))
  | removeNode (nodeId : Int)
  | updateNodes (nodes : List (Int × String))
  | refresh (report : Option GoReport)
  | updateClusterState (leaderId currentTerm : Int) (state : Option String)
  | cleanup

namespace ClusterOp

/-- The state a call leaves, an `ERROR` included. -/
def step : ClusterOp → Shared → Shared
  | .init n a p, s => { s with cluster := (pgraftCoreInit cs s.cluster n a p).state }
  | .addNode n a p, s => { s with cluster := (pgraftCoreAddNode cs s.cluster n a p).state }
  | .addNodeSystem n a p e, s => { s with cluster := (pgraftAddNodeSystem cs s.cluster n a p e).state }
  | .removeNode n, s => { s with cluster := (pgraftCoreRemoveNode s.cluster n).state }
  | .updateNodes ns, s => { s with cluster := (pgraftCoreUpdateNodes cs s.cluster ns).state }
  | .refresh g, s => pgraftUpdateSharedMemoryFromGo cs g s
  | .updateClusterState l t st, s =>
    { s with cluster := (pgraftCoreUpdateClusterState cs s.cluster l t st).state }
  | .cleanup, s => { s with cluster := pgraftCoreCleanup s.cluster }

/-- The state a sequence of calls leaves. -/
def run (ops : List ClusterOp) (s : Shared) : Shared := ops.foldl (fun s op => op.step cs s) s

end ClusterOp

/-- The shared state at start: a fresh descriptor, an empty store and the worker state of the
first attach. -/
def Shared.start (sz : CoreSizes) : Shared :=
  ⟨pgraftCoreInitSharedMemory cs, ⟨KvStore.empty, WorkerState.firstAttach sz⟩⟩

/-- The states some sequence of calls reaches from the start. -/
inductive ClusterReachable (sz : CoreSizes) : Shared → Prop
  | start : ClusterReachable sz (Shared.start cs sz)
  | step {s : Shared} (op : ClusterOp) : ClusterReachable sz s → ClusterReachable sz (op.step cs s)

end Pgraft
