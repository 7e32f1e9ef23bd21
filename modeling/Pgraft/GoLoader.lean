import Pgraft.Guc

/-!
# The Go library loader

`pgraft_go.c` loads `pgraft_go.so` into each process with `dlopen` and keeps, in that
process's static variables, the library handle and one function pointer per entry point.
`pgraft_go_load_library` opens the library once and looks the entry points up in the order of
`pgraft_go_load_symbols`, which raises an `ERROR` at the first missing one of the eight it
needs; the pointers written before the `ERROR`, and the handle, stay. A later load in the same
process returns `0` as soon as the handle and the `pgraft_go_init` pointer are set, and looks
the entry points up again when only the handle is. `pgraft_go_check_version` only warns, and
`pgraft_go_load_symbols` returns only `0`, so the branches that clear the handle after them
are never taken.

The wrappers check that the library is loaded and that their pointer is set before they call
into Go. The Go side is a parameter (`GoLibrary`): which names `dlsym` resolves, and what each
entry point returns; its own state is not modelled. `pgraft_init_from_gucs`, the start of the
background worker and the SQL functions that call into Go are written over this state.
-/

namespace Pgraft

/-! ## Calls in sequence -/

namespace Call

variable {σ α β : Type}

/-- A check that reads the state and leaves it as it is. -/
def lift (s : σ) : Except String α → Call σ α
  | .ok a => ret a s
  | .error m => raise m s

@[simp] theorem lift_ok (s : σ) (a : α) : lift s (.ok a : Except String α) = ret a s := rfl
@[simp] theorem lift_error (s : σ) (m : String) : lift s (.error m : Except String α) = raise m s :=
  rfl

theorem map_map {γ : Type} (c : Call σ α) (g : α → β) (f : β → γ) :
    (c.map g).map f = c.map (f ∘ g) := by
  cases c <;> rfl

theorem lift_bind_eq_ret {s s' : σ} {e : Except String α} {f : α → σ → Call σ β} {b : β}
    (h : (lift s e).bind f = ret b s') : ∃ a, e = .ok a ∧ f a s = ret b s' := by
  cases e with
  | ok a => exact ⟨a, rfl, h⟩
  | error m => cases h

theorem lift_map_eq_ret {s s' : σ} {e : Except String α} {f : α → β} {b : β}
    (h : (lift s e).map f = ret b s') : ∃ a, e = .ok a ∧ s' = s ∧ f a = b := by
  cases e with
  | ok a => cases h; exact ⟨a, rfl, rfl, rfl⟩
  | error m => cases h

end Call

/-! ## The library and the loader state -/

/-- The entry points `pgraft_go_load_symbols` looks up, in its order. -/
inductive GoSym
  | init | initConfig | start | startBackground | stop | addPeer | getLeader | getTerm
  | getNodeId | version | removePeer | isInitialized | isLeader | appendLog | getNodes
  | logReplicate | test | setDebug | startNetworkServer | triggerHeartbeat | freeString
  | updateClusterState | replicateLogEntry
deriving DecidableEq, Repr

namespace GoSym

/-- The name `dlsym` is asked for. -/
def name : GoSym → String
  | init => "pgraft_go_init"
  | initConfig => "pgraft_go_init_config"
  | start => "pgraft_go_start"
  | startBackground => "pgraft_go_start_background"
  | stop => "pgraft_go_stop"
  | addPeer => "pgraft_go_add_peer"
  | getLeader => "pgraft_go_get_leader"
  | getTerm => "pgraft_go_get_term"
  | getNodeId => "pgraft_go_get_node_id"
  | version => "pgraft_go_version"
  | removePeer => "pgraft_go_remove_peer"
  | isInitialized => "pgraft_go_is_initialized"
  | isLeader => "pgraft_go_is_leader"
  | appendLog => "pgraft_go_append_log"
  | getNodes => "pgraft_go_get_nodes"
  | logReplicate => "pgraft_go_log_replicate"
  | test => "pgraft_go_test"
  | setDebug => "pgraft_go_set_debug"
  | startNetworkServer => "pgraft_go_start_network_server"
  | triggerHeartbeat => "pgraft_go_trigger_heartbeat"
  | freeString => "pgraft_go_free_string"
  | updateClusterState => "pgraft_go_update_cluster_state"
  | replicateLogEntry => "pgraft_go_replicate_log_entry"

/-- The lookups whose failure raises an `ERROR`; the others only log, if anything. -/
def required : GoSym → Bool
  | init | start | stop | addPeer | getLeader | getTerm | getNodeId | version => true
  | _ => false

end GoSym

/-- The lookups of `pgraft_go_load_symbols`, in its order. -/
def goSymbols : List GoSym :=
  [.init, .initConfig, .start, .startBackground, .stop, .addPeer, .getLeader, .getTerm,
    .getNodeId, .version, .removePeer, .isInitialized, .isLeader, .appendLog, .getNodes,
    .logReplicate, .test, .setDebug, .startNetworkServer, .triggerHeartbeat, .freeString,
    .updateClusterState, .replicateLogEntry]

/-- The library `dlopen` finds: the names `dlsym` resolves, the text `dlerror` gives for a name
it does not, and what the entry points the extension calls return. -/
structure GoLibrary where
  exports : String → Bool
  dlerror : String → String
  init : Int → String → Int → Int
  initConfig : GoConfig → Int
  start : Int
  startBackground : Int
  connectToPeers : Int
  startNetworkServer : Int → Int
  isInitialized : Int
  isLeader : Int
  addPeer : Int → String → Int → Int
  removePeer : Int → Int
  getLeader : Int
  getTerm : Int
  getNodeId : Int
  getNodes : Option String
  appendLog : String → Int
  tick : Int
  triggerHeartbeat : Int
  replicateLogEntry : String → Int
  version : Option String
  test : Int

/-- Where the library is looked for: `pgraft.go_library_path` (boot value `""`), the build's
`PKGLIBDIR` and `PG_VERSION_NUM`, which paths `access(R_OK)` admits, which `dlopen` opens, and
`dlerror` after a failed `dlopen`. -/
structure LoadEnv where
  libraryPath : String
  pkglibdir : String
  pgVersionNum : Nat
  readable : String → Bool
  dlopen : String → Bool
  dlopenError : String

/-- The static variables of `pgraft_go.c` in one process: whether the handle is set, whether
each function pointer is, and the two statics of `pgraft_go_tick`. -/
structure GoLoader where
  handle : Bool
  ptr : GoSym → Bool
  tickFunc : Bool
  loadAttempted : Bool

/-- A process that has not loaded the library: every static `NULL` or `false`. -/
def GoLoader.fresh : GoLoader := ⟨false, fun _ => false, false, false⟩

/-- A library that exports every entry point and whose calls succeed: not initialized yet,
the leader, node `1` of term `1`. -/
def sampleLibrary : GoLibrary := ⟨fun _ => true, fun _ => "", fun _ _ _ => 0, fun _ => 0, 0, 0,
  0, fun _ => 0, 0, 1, fun _ _ _ => 0, fun _ => 0, 1, 1, 1, none, fun _ => 0, 0, 0, fun _ => 1,
  some "1.0.0", 0⟩

/-- The statics of a process that has loaded a library exporting every entry point: the handle
and every pointer set. -/
def sampleLoader : GoLoader := ⟨true, fun _ => true, false, true⟩

/-! ## Loading -/

/-- One lookup of `pgraft_go_load_symbols`: the pointer takes what `dlsym` returns, and a
needed entry point that is missing raises an `ERROR`. -/
def loadSymbol (lib : GoLibrary) (s : GoSym) (st : GoLoader) : Call GoLoader Unit :=
  let st := { st with ptr := Function.update st.ptr s (lib.exports s.name) }
  if s.required && !lib.exports s.name then
    .raise ("pgraft: failed to load symbol \x27" ++ s.name ++ "\x27: " ++ lib.dlerror s.name) st
  else .ret () st

/-- The lookups from the given one on. -/
def loadSymbols (lib : GoLibrary) : List GoSym → GoLoader → Call GoLoader Unit
  | [], st => .ret () st
  | s :: ss, st => (loadSymbol lib s st).bind fun _ st => loadSymbols lib ss st

/-- `pgraft_go_load_symbols`: it returns only `0`, after every lookup. -/
def pgraftGoLoadSymbols (lib : GoLibrary) (st : GoLoader) : Call GoLoader Unit :=
  loadSymbols lib goSymbols st

/-- `GO_LIB_NAME` off Apple platforms. -/
def goLibName : String := "pgraft_go.so"

/-- The five paths tried when the first is not readable, in their order. -/
def altPaths (env : LoadEnv) : List String :=
  ["./src/" ++ goLibName, env.pkglibdir ++ "/" ++ goLibName,
    "/usr/lib/postgresql/" ++ toString (env.pgVersionNum / 10000) ++ "/lib/" ++ goLibName,
    "/usr/local/lib/postgresql/" ++ goLibName,
    "/usr/pgsql-" ++ toString (env.pgVersionNum / 10000) ++ "/lib/" ++ goLibName]

/-- The path `pgraft_go_load_library` opens: the setting, or the default under `PKGLIBDIR`,
or the first readable of the alternatives. -/
def resolveLibraryPath (env : LoadEnv) : Except String String :=
  let path := if env.libraryPath = "" then env.pkglibdir ++ "/" ++ goLibName else env.libraryPath
  if env.readable path then .ok path
  else
    match (altPaths env).find? env.readable with
    | some alt => .ok alt
    | none => .error ("pgraft: go library does not exist or is not readable: " ++ path ++
        " (tried " ++ toString (altPaths env).length ++ " alternative paths)")

/-- `pgraft_go_load_library`. -/
def pgraftGoLoadLibrary (env : LoadEnv) (lib : GoLibrary) (st : GoLoader) : Call GoLoader Int :=
  if st.handle && st.ptr .init then .ret 0 st
  else if st.handle then (pgraftGoLoadSymbols lib st).map fun _ => 0
  else
    match resolveLibraryPath env with
    | .error m => .raise m st
    | .ok path =>
      if env.dlopen path then (pgraftGoLoadSymbols lib { st with handle := true }).map fun _ => 0
      else .raise ("pgraft: failed to load Go library from " ++ path ++ ": " ++ env.dlopenError) st

/-- `pgraft_go_is_loaded`: loaded in this process. -/
def pgraftGoIsLoaded (st : GoLoader) : Bool := st.handle

/-- The calls that change the loader's statics: a load, from whichever caller, and a tick.
Every other call only reads them. -/
inductive LoaderOp
  | load
  | tick

/-! ## The wrappers -/

section Wrappers

variable (lib : GoLibrary) (st : GoLoader)

/-- A wrapper that raises when the library is not loaded or its pointer is not set. -/
def goCall (s : GoSym) (missing : String) (answer : Int) : Except String Int :=
  if !st.handle then .error "pgraft: go library not loaded"
  else if !st.ptr s then .error missing
  else .ok answer

/-- `pgraft_go_init`. -/
def pgraftGoInit (nodeId : Int) (address : String) (port : Int) : Except String Int :=
  goCall st .init "pgraft: failed to get init function" (lib.init nodeId address port)

/-- `pgraft_go_start`. -/
def pgraftGoStart : Except String Int :=
  goCall st .start "pgraft: failed to get start function" lib.start

/-- `pgraft_go_start_network_server`. -/
def pgraftGoStartNetworkServer (port : Int) : Except String Int :=
  goCall st .startNetworkServer "pgraft: failed to get start_network_server function"
    (lib.startNetworkServer port)

/-- `pgraft_go_append_log`. -/
def pgraftGoAppendLog (data : String) : Except String Int :=
  goCall st .appendLog "pgraft: append_log function not available" (lib.appendLog data)

/-- `pgraft_go_init_with_config`: the whole configuration through `pgraft_go_init_config`, or,
without it, the node id, address and port through the legacy `pgraft_go_init`. -/
def pgraftGoInitWithConfig (c : GoConfig) : Except String Int :=
  if !st.handle then .error "pgraft: go library not loaded"
  else if !st.ptr .initConfig then
    if st.ptr .init then .ok (lib.init c.nodeId c.address c.port)
    else .error "pgraft: no init function available"
  else .ok (lib.initConfig c)

/-- `pgraft_go_start_background`: `-1`, with a warning, without its pointer. -/
def pgraftGoStartBackground : Except String Int :=
  if !st.handle then .error "pgraft: go library not loaded"
  else if !st.ptr .startBackground then .ok (-1)
  else .ok lib.startBackground

/-- `pgraft_go_connect_to_peers`, which looks its entry point up at each call. -/
def pgraftGoConnectToPeers : Int :=
  if !st.handle then -1
  else if !lib.exports "pgraft_go_connect_to_peers" then -1
  else lib.connectToPeers

/-- `pgraft_go_is_initialized`. -/
def pgraftGoIsInitialized : Int :=
  if !st.handle || !st.ptr .isInitialized then 0 else lib.isInitialized

/-- `pgraft_go_is_leader`: `-1` when it cannot ask. -/
def pgraftGoIsLeader : Int :=
  if !st.handle then -1 else if !st.ptr .isLeader then -1 else lib.isLeader

/-- `pgraft_go_trigger_heartbeat`: nothing to do without its pointer. -/
def pgraftGoTriggerHeartbeat : Except String Int :=
  if !st.handle then .error "pgraft: go library not loaded"
  else if !st.ptr .triggerHeartbeat then .ok 0
  else .ok lib.triggerHeartbeat

/-- `pgraft_go_tick`: the entry point is looked up at the first call with the library loaded,
and never again. -/
def pgraftGoTick : Int × GoLoader :=
  if !st.handle then (-1, st)
  else
    let st := if !st.tickFunc && !st.loadAttempted then
      { st with loadAttempted := true, tickFunc := lib.exports "pgraft_go_tick" } else st
    (if st.tickFunc then lib.tick else -1, st)

/-- What `pgraft_update_shared_memory_from_go` reads through the loader: nothing unless the
library is loaded with its three id getters; the node list only through its getter. -/
def goReport : Option GoReport :=
  if st.handle && st.ptr .getLeader && st.ptr .getTerm && st.ptr .getNodeId then
    some ⟨lib.getLeader, lib.getTerm, lib.getNodeId, if st.ptr .getNodes then lib.getNodes else none⟩
  else none

end Wrappers

namespace LoaderOp

/-- The statics a call leaves, an `ERROR` included. -/
def step (env : LoadEnv) (lib : GoLibrary) : LoaderOp → GoLoader → GoLoader
  | load, st => (pgraftGoLoadLibrary env lib st).state
  | tick, st => (pgraftGoTick lib st).2

/-- The statics after the calls, in order. -/
def run (env : LoadEnv) (lib : GoLibrary) (ops : List LoaderOp) (st : GoLoader) : GoLoader :=
  ops.foldl (fun st op => op.step env lib st) st

end LoaderOp

/-! ## Initialization -/

/-- The load of `pgraft_init_from_gucs` and of the worker's start, when the library is not
loaded in this process; `message` is the caller's `ERROR` for a return other than `0`, which
`pgraft_go_load_library` never gives. -/
def ensureLoaded (env : LoadEnv) (lib : GoLibrary) (message : String) (st : GoLoader) :
    Call GoLoader Unit :=
  if st.handle then .ret () st
  else (pgraftGoLoadLibrary env lib st).bind fun r st =>
    if r ≠ 0 then .raise message st else .ret () st

/-- `pgraft_init_from_gucs`: `none` when the Go layer says it is initialized, else the
configuration built from the variables once it has been handed to the Go layer and the node
started. A network server that does not start only warns; one that cannot be called raises. -/
def pgraftInitFromGucs (env : LoadEnv) (lib : GoLibrary) (g : Gucs) (st : GoLoader) :
    Call GoLoader (Option GoConfig) :=
  if pgraftGoIsInitialized lib st ≠ 0 then .ret none st
  else
    match initConfig g with
    | .error m => .raise m st
    | .ok config =>
      (ensureLoaded env lib "pgraft: failed to load Go library" st).bind fun _ st =>
      (Call.lift st (pgraftGoInitWithConfig lib st config)).bind fun r st =>
      if r ≠ 0 then .raise "pgraft: failed to initialize raft node" st
      else (Call.lift st (pgraftGoStart lib st)).bind fun r st =>
        if r ≠ 0 then .raise "pgraft: failed to start raft node" st
        else (Call.lift st (pgraftGoStartNetworkServer lib st config.port)).map fun _ => some config

/-- SQL `pgraft_init`: `true` once `pgraft_init_from_gucs` returns, which it only does with
`0`; its branch for another value is never taken. -/
def pgraftInit (env : LoadEnv) (lib : GoLibrary) (g : Gucs) (st : GoLoader) : Call GoLoader Bool :=
  (pgraftInitFromGucs env lib g st).map fun _ => true

/-- `pgraft_main` up to its loop: load the library, initialize from the variables, start the
node again, start the ticker; a failed connection to the peers only warns. Its waits and the
worker-state fields it writes before the loop are left out. -/
def pgraftMainStartup (env : LoadEnv) (lib : GoLibrary) (g : Gucs) (st : GoLoader) :
    Call GoLoader Unit :=
  (ensureLoaded env lib "pgraft: background worker failed to load Go library" st).bind
    fun _ st => (pgraftInitFromGucs env lib g st).bind fun _ st =>
  (Call.lift st (pgraftGoStart lib st)).bind fun r st =>
  if r ≠ 0 then .raise "pgraft: background worker failed to start Go Raft goroutines" st
  else (Call.lift st (pgraftGoStartBackground lib st)).bind fun r st =>
    if r ≠ 0 then .raise "pgraft: background worker failed to start ticker" st
    else .ret () st

/-- `pgraft_init_system`, the worker's `COMMAND_INIT`: the core descriptor, then the library,
the legacy init, the start and the network server; a failure returns `-1` with a warning. -/
def pgraftInitSystem (cs : ClusterSizes) (env : LoadEnv) (lib : GoLibrary) (c : Cluster)
    (st : GoLoader) (nodeId : Int) (address : String) (port : Int) : Call (Cluster × GoLoader) Int :=
  match pgraftCoreInit cs c nodeId address port with
  | .raise m c => .raise m (c, st)
  | .ret r c =>
    if r ≠ 0 then .ret (-1) (c, st)
    else
      ((pgraftGoLoadLibrary env lib st).mapState (c, ·)).bind fun r s =>
      if r ≠ 0 ∨ !s.2.ptr .init then .ret (-1) s
      else if lib.init nodeId address port ≠ 0 then .ret (-1) s
      else (Call.lift s (pgraftGoStart lib s.2)).bind fun r s =>
        if r ≠ 0 then .ret (-1) s
        else (Call.lift s (pgraftGoStartNetworkServer lib s.2 port)).bind fun r s =>
          if r ≠ 0 then .ret (-1) s else .ret 0 s

/-! ## The SQL functions that call into Go -/

/-- SQL `pgraft_add_node`: checks its arguments, then asks the Go layer, on the leader only, to
add the peer. The core descriptor is not touched. -/
def pgraftAddNode (lib : GoLibrary) (st : GoLoader) (nodeId : Int) (address : String)
    (port : Int) : Except String Unit :=
  if nodeId < 1 ∨ 1000 < nodeId then
    .error ("pgraft: invalid node_id " ++ toString nodeId ++ ", must be between 1 and 1000")
  else if address = "" then .error "pgraft: address cannot be empty"
  else if port < 1024 ∨ 65535 < port then
    .error ("pgraft: invalid port " ++ toString port ++ ", must be between 1024 and 65535")
  else if !st.handle then
    .error "pgraft: go library not loaded. Initialize cluster first with pgraft_init()"
  else if pgraftGoIsLeader lib st < 0 then .error "pgraft: cannot add node - raft consensus not ready"
  else if pgraftGoIsLeader lib st = 0 then .error "pgraft: cannot add node - this node is not the leader"
  else if !st.ptr .addPeer then .error "pgraft: failed to get add_peer function"
  else if lib.addPeer nodeId address port ≠ 0 then
    .error ("pgraft: failed to add node " ++ toString nodeId)
  else .ok ()

/-- SQL `pgraft_remove_node`: the core descriptor first, then the Go layer when it can be asked. -/
def pgraftRemoveNode (lib : GoLibrary) (st : GoLoader) (c : Cluster)
    (nodeId : Int) : Call Cluster Unit :=
  (pgraftCoreRemoveNode c nodeId).bind fun r c =>
  if r ≠ 0 then .raise "pgraft: failed to remove node from core system" c
  else if st.handle && st.ptr .removePeer && lib.removePeer nodeId ≠ 0 then
    .raise "pgraft: failed to remove node from Go library" c
  else .ret () c

/-- `pgraft_remove_node_system`, the worker's `COMMAND_REMOVE_NODE`: the Go layer first, then the
core descriptor; a failure returns `-1` with a warning. -/
def pgraftRemoveNodeSystem (lib : GoLibrary) (st : GoLoader) (c : Cluster) (nodeId : Int) :
    Call Cluster Int :=
  if st.handle && st.ptr .removePeer && lib.removePeer nodeId ≠ 0 then .ret (-1) c
  else (pgraftCoreRemoveNode c nodeId).bind fun r c => if r ≠ 0 then .ret (-1) c else .ret 0 c

/-- SQL `pgraft_get_version`: the Go layer's version when it gives one. -/
def pgraftGetVersion (lib : GoLibrary) (st : GoLoader) : String :=
  match st.handle && st.ptr .version, lib.version with
  | true, some v => v
  | _, _ => "pgraft-1.0.0"

/-- SQL `pgraft_test`. -/
def pgraftTest (lib : GoLibrary) (st : GoLoader) : Int :=
  if st.handle && st.ptr .test && lib.test == 0 then 0 else -1

/-- SQL `pgraft_replicate_entry_func`: `0` when the Go layer answers `1`. -/
def pgraftReplicateEntryFunc (lib : GoLibrary) (st : GoLoader) (data : String) :
    Except String Int :=
  if !st.handle then .error "pgraft: go library not loaded"
  else if !st.ptr .replicateLogEntry then .error "pgraft: replicate function not available"
  else if lib.replicateLogEntry data = 1 then .ok 0
  else .ok (-1)

/-- SQL `pgraft_get_nodes_from_raft`, which asks for the pointer without the loaded check. -/
def pgraftGetNodesFromRaft (lib : GoLibrary) (st : GoLoader) : String :=
  match st.ptr .getNodes, lib.getNodes with
  | true, some js => js
  | _, _ => "[]"

end Pgraft
