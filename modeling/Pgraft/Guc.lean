import Pgraft.StateFile

/-!
# Configuration from the GUC variables

`pgraft_guc.c` registers the etcd-style GUC variables and reads them back in two parsers and a
check: `pgraft_parse_initial_cluster` cuts `initial_cluster` into `name=url` members,
`pgraft_parse_url` cuts a URL into a host and a port, and `pgraft_validate_configuration`
checks the cluster settings. `pgraft_init_from_gucs` (`pgraft_sql.c`) runs the two parsers,
fills the `pgraft_go_config_t` it hands to the Go layer, and runs the check before it does
(`initConfig`); its calls into the Go layer are in `GoLoader`.

Every `elog(ERROR)` ends the call, so the `return -1` after each is never reached: the
function fails with the message of its first `ERROR`, or returns `0`. String variables are
never `NULL` once registered (every boot value is a string), so they are `String`s here.
-/

namespace Pgraft

/-! ## The variables -/

/-- The GUC variables that the parsers, the check and `pgraft_init_from_gucs` read. The string
settings that `pgraft_init_from_gucs` only copies into the configuration (log, TLS and network
settings) are left out. -/
structure Gucs where
  name : String
  dataDir : String
  initialCluster : String
  initialClusterState : String
  initialClusterToken : String
  initialAdvertisePeerUrls : String
  advertiseClientUrls : String
  listenClientUrls : String
  listenPeerUrls : String
  electionTimeout : Int
  heartbeatInterval : Int
  snapshotCount : Int
  quotaBackendBytes : Int
  maxRequestBytes : Int
  maxSnapshots : Int
  maxWals : Int
  autoCompactionRetention : String
  autoCompactionMode : String
  compactionBatchLimit : Int
  maxLogEntries : Int
  batchSize : Int
  maxBatchDelay : Int
deriving DecidableEq

/-- The boot values `pgraft_register_guc_variables` registers. -/
def Gucs.default : Gucs where
  name := "default"
  dataDir := "default.etcd"
  initialCluster := "default=http://localhost:2380"
  initialClusterState := "new"
  initialClusterToken := "etcd-cluster"
  initialAdvertisePeerUrls := "http://localhost:2380"
  advertiseClientUrls := "http://localhost:2379"
  listenClientUrls := "http://localhost:2379"
  listenPeerUrls := "http://localhost:2380"
  electionTimeout := 1000
  heartbeatInterval := 100
  snapshotCount := 10000
  quotaBackendBytes := 2147483647
  maxRequestBytes := 1572864
  maxSnapshots := 5
  maxWals := 5
  autoCompactionRetention := "0"
  autoCompactionMode := "periodic"
  compactionBatchLimit := 1000
  maxLogEntries := 10000
  batchSize := 100
  maxBatchDelay := 10

/-- A `DefineCustomIntVariable` registration: the variable's name, where it lives, its boot
value and the bounds `SET` enforces. -/
structure IntGuc where
  name : String
  get : Gucs → Int
  bootValue : Int
  minValue : Int
  maxValue : Int

/-- The integer registrations of `pgraft_register_guc_variables`, in its order. -/
def intGucs : List IntGuc :=
  [⟨"pgraft.election_timeout", (·.electionTimeout), 1000, 100, 30000⟩,
   ⟨"pgraft.heartbeat_interval", (·.heartbeatInterval), 100, 10, 10000⟩,
   ⟨"pgraft.snapshot_count", (·.snapshotCount), 10000, 100, 1000000⟩,
   ⟨"quota_backend_bytes", (·.quotaBackendBytes), 2147483647, 1048576, 2147483647⟩,
   ⟨"max_request_bytes", (·.maxRequestBytes), 1572864, 1024, 67108864⟩,
   ⟨"max_snapshots", (·.maxSnapshots), 5, 1, 100⟩,
   ⟨"max_wals", (·.maxWals), 5, 1, 100⟩,
   ⟨"compaction_batch_limit", (·.compactionBatchLimit), 1000, 1, 10000⟩,
   ⟨"pgraft.max_log_entries", (·.maxLogEntries), 10000, 100, 1000000⟩,
   ⟨"pgraft.batch_size", (·.batchSize), 100, 1, 10000⟩,
   ⟨"pgraft.max_batch_delay", (·.maxBatchDelay), 10, 1, 1000⟩]

/-- The settings `SET` admits: every integer variable within its registered bounds. -/
def Gucs.InBounds (g : Gucs) : Prop := ∀ v ∈ intGucs, v.minValue ≤ v.get g ∧ v.get g ≤ v.maxValue

instance (g : Gucs) : Decidable g.InBounds := inferInstanceAs (Decidable (∀ v ∈ intGucs, _))

/-! ## C string helpers -/

/-- `strtok_r` over a C string with one delimiter: its maximal runs without it. -/
def strtokR (delim : Char) (s : List Char) : List (List Char) :=
  (s.splitOn delim).filter (· ≠ [])

/-- `strstr(hay, needle) != NULL`: the needle starts at some position of the haystack. -/
def strstr (hay needle : List Char) : Bool := hay.tails.any needle.isPrefixOf

/-- `atoi` as glibc computes it, `(int) strtol(s, NULL, 10)`: white space, an optional sign and
digits, the value saturated to a `long` and cut to an `int`; `0` without digits. The apply
path's `Pgraft.atoi` leaves out the cut and three of the white-space characters. -/
def glibcAtoi (s : List Char) : Int := scanInt ((scanDecimal (s.dropWhile isspace)).getD 0)

/-! ## `pgraft_parse_url` -/

/-- What `pgraft_parse_url` leaves behind. `ok`: it returned `true` with the host and the port
written. `badPort`: it wrote the port, and freed the host it had allocated and stored, before
returning `false`. `noPort`: it returned `false` and wrote nothing (an empty text, or no colon
after the scheme). -/
inductive UrlResult
  | ok (host : String) (port : Int)
  | badPort (port : Int)
  | noPort
deriving DecidableEq, Repr

/-- `pgraft_parse_url`: a leading `http://` or `https://` is skipped, the host runs to the first
colon after it, and the port is `atoi` of the rest, which must lie in `1 .. 65535`. -/
def pgraftParseUrl (url : String) : UrlResult :=
  if url = "" then .noPort
  else
    let start :=
      if "http://".data.isPrefixOf url.data then url.data.drop 7
      else if "https://".data.isPrefixOf url.data then url.data.drop 8
      else url.data
    match start.span (· ≠ ':') with
    | (_, []) => .noPort
    | (host, _ :: rest) =>
      let port := glibcAtoi rest
      if port ≤ 0 ∨ 65535 < port then .badPort port else .ok ⟨host⟩ port

/-- A host pointer of `pgraft_go_config_t`: `NULL`, a string, or memory already freed. -/
inductive HostPtr
  | null
  | live (host : String)
  | freed
deriving DecidableEq, Repr

/-- The host and port `pgraft_parse_url` leaves in its two out-parameters, from what they
held. -/
def UrlResult.store : UrlResult → HostPtr × Int → HostPtr × Int
  | .ok h p, _ => (.live h, p)
  | .badPort p, _ => (.freed, p)
  | .noPort, hp => hp

/-! ## `pgraft_parse_initial_cluster` -/

/-- `pgraft_cluster_member_t`. -/
structure ClusterMember where
  name : String
  peerUrl : String
deriving DecidableEq, Repr

/-- The tokens that are not blank, each after its leading white space. -/
def trimmedTokens (toks : List (List Char)) : List (List Char) :=
  (toks.map (·.dropWhile isspace)).filter (· ≠ [])

/-- The member tokens of a comma list. -/
def memberTokens (s : String) : List (List Char) := trimmedTokens (strtokR ',' s.data)

/-- One member of the second pass, from a token after its white space: split at the first `=`,
each part after its own leading white space. -/
def parseMemberToken (t : List Char) : Except String ClusterMember :=
  match t.span (· ≠ '=') with
  | (_, []) =>
    .error ("pgraft: invalid member format in initial_cluster: " ++ ⟨t⟩ ++ " (expected name=url)")
  | (name, _ :: url) => .ok ⟨⟨name.dropWhile isspace⟩, ⟨url.dropWhile isspace⟩⟩

/-- The second pass: while fewer than `count` members are filled, the next token that is not
blank gives one. -/
def fillMembers : Nat → List (List Char) → Except String (List ClusterMember)
  | 0, _ => .ok []
  | _, [] => .ok []
  | n + 1, t :: ts =>
    if t.dropWhile isspace = [] then fillMembers (n + 1) ts
    else do
      let m ← parseMemberToken (t.dropWhile isspace)
      let ms ← fillMembers n ts
      pure (m :: ms)

/-- `pgraft_parse_initial_cluster`: the first pass counts the tokens that are not blank, the
second fills that many members; an empty text, or one of blank tokens only, gives none. -/
def pgraftParseInitialCluster (clusterStr : String) : Except String (List ClusterMember) :=
  if clusterStr = "" then .ok []
  else
    let count := (memberTokens clusterStr).length
    if count = 0 then .ok [] else fillMembers count (strtokR ',' clusterStr.data)

/-! ## `pgraft_validate_configuration` -/

/-- The check of one member token, after its white space: a `=`, a name before it, and
`http://` or `https://` somewhere after it. -/
def validateMember (t : List Char) : Except String Unit :=
  match t.span (· ≠ '=') with
  | (_, []) =>
    .error ("pgraft: invalid member format in initial_cluster: " ++ ⟨t⟩ ++ " (expected name=url)")
  | (name, _ :: url) =>
    if name = [] then .error "pgraft: empty member name in initial_cluster"
    else if !(strstr url "http://".data || strstr url "https://".data) then
      .error ("pgraft: invalid peer URL format: " ++ ⟨url⟩ ++ " (must start with http:// or https://)")
    else .ok ()

/-- The check's loop over the tokens of `initial_cluster`: the number of members. -/
def validateMembers : List (List Char) → Except String Nat
  | [] => .ok 0
  | t :: ts =>
    if t.dropWhile isspace = [] then validateMembers ts
    else do
      validateMember (t.dropWhile isspace)
      let n ← validateMembers ts
      pure (n + 1)

/-- One of the range checks on the consensus and performance settings. -/
def checkRange (field : String) (lo hi : Int) (unit : String) (v : Int) : Except String Unit :=
  if v < lo ∨ hi < v then
    .error ("pgraft: invalid " ++ field ++ " " ++ toString v ++ ", must be between " ++
      toString lo ++ " and " ++ toString hi ++ unit)
  else .ok ()

/-- `pgraft_validate_configuration`. The warning on an election timeout under five heartbeat
intervals, and the look at `listen_metrics_urls`, only log. -/
def pgraftValidateConfiguration (g : Gucs) : Except String Unit :=
  if g.initialClusterToken = "" then .error "pgraft: initial_cluster_token must be set"
  else if g.listenPeerUrls = "" then .error "pgraft: listen_peer_urls must be set"
  else if g.initialCluster = "" then .error "pgraft: initial_cluster must be set"
  else
    match validateMembers (strtokR ',' g.initialCluster.data) with
    | .error m => .error m
    | .ok n =>
      if n < 1 then .error "pgraft: initial_cluster must contain at least 1 member"
      else if g.initialClusterState ≠ "" ∧ g.initialClusterState ≠ "new" ∧
          g.initialClusterState ≠ "existing" then
        .error ("pgraft: invalid initial_cluster_state \x27" ++ g.initialClusterState ++
          "\x27, must be \x27new\x27 or \x27existing\x27")
      else do
        checkRange "heartbeat_interval" 10 10000 " ms" g.heartbeatInterval
        checkRange "election_timeout" 100 30000 " ms" g.electionTimeout
        checkRange "snapshot_count" 100 1000000 "" g.snapshotCount
        checkRange "max_log_entries" 100 1000000 "" g.maxLogEntries

/-! ## `pgraft_init_from_gucs` -/

/-- `pgraft_go_cluster_member_t`. -/
structure GoMember where
  name : String
  peerHost : String
  peerPort : Int
deriving DecidableEq, Repr

/-- `pgraft_go_config_t` as `pgraft_init_from_gucs` fills it, without the string settings it
copies from their variables unchanged. -/
structure GoConfig where
  nodeId : Int
  clusterId : String
  address : String
  port : Int
  dataDir : String
  clusterMembers : List GoMember
  initialClusterState : Int
  name : String
  listenPeerHost : String
  listenPeerPort : Int
  listenClient : HostPtr × Int
  advertiseClient : HostPtr × Int
  initialAdvertisePeer : HostPtr × Int
  electionTimeout : Int
  heartbeatInterval : Int
  snapshotInterval : Int
  quotaBackendBytes : Int
  maxRequestBytes : Int
  maxSnapshots : Int
  maxWals : Int
  autoCompactionRetention : Int
  autoCompactionMode : Int
  compactionBatchLimit : Int
  maxLogEntries : Int
  batchSize : Int
  maxBatchDelay : Int
deriving DecidableEq

/-- The loop over the members: the peer URL of each cut into host and port. -/
def goMember (m : ClusterMember) : Except String GoMember :=
  match pgraftParseUrl m.peerUrl with
  | .ok h p => .ok ⟨m.name, h, p⟩
  | _ => .error ("pgraft: failed to parse peer URL for member \x27" ++ m.name ++ "\x27: " ++ m.peerUrl)

/-- An optional URL: parsed when it is set, its two fields holding whatever the parser left;
a failure only warns. -/
def optionalUrl (url : String) : HostPtr × Int :=
  if url = "" then (.null, 0) else (pgraftParseUrl url).store (.null, 0)

/-- The configuration `pgraft_init_from_gucs` fills from the variables, the members and the
listen address. -/
def goConfigOf (g : Gucs) (members : List GoMember) (host : String) (port : Int) : GoConfig where
  nodeId := 1
  clusterId := g.initialClusterToken
  address := host
  port := port
  dataDir := if g.dataDir = "" then "/tmp/pgraft/" ++ g.name else g.dataDir
  clusterMembers := members
  initialClusterState := if g.initialClusterState = "new" then 1 else 0
  name := g.name
  listenPeerHost := host
  listenPeerPort := port
  listenClient := optionalUrl g.listenClientUrls
  advertiseClient := optionalUrl g.advertiseClientUrls
  initialAdvertisePeer := optionalUrl g.initialAdvertisePeerUrls
  electionTimeout := g.electionTimeout
  heartbeatInterval := g.heartbeatInterval
  snapshotInterval := g.snapshotCount
  quotaBackendBytes := g.quotaBackendBytes
  maxRequestBytes := g.maxRequestBytes
  maxSnapshots := g.maxSnapshots
  maxWals := g.maxWals
  autoCompactionRetention := glibcAtoi g.autoCompactionRetention.data
  autoCompactionMode := if g.autoCompactionMode = "periodic" then 1 else 0
  compactionBatchLimit := g.compactionBatchLimit
  maxLogEntries := g.maxLogEntries
  batchSize := g.batchSize
  maxBatchDelay := g.maxBatchDelay

/-- The checks of `pgraft_init_from_gucs` before it calls the Go layer, in its order: the
members and their peer URLs, the listen URL, the token, the listen host and port, then
`pgraft_validate_configuration`. The result is the configuration it hands over. -/
def initConfig (g : Gucs) : Except String GoConfig := do
  let members ← pgraftParseInitialCluster g.initialCluster
  if members.length = 0 then .error "pgraft: no cluster members found in initial_cluster"
  else do
    let goMembers ← members.mapM goMember
    match pgraftParseUrl g.listenPeerUrls with
    | .ok host port =>
      if g.initialClusterToken = "" then .error "pgraft: initial_cluster_token must be set"
      else if host = "" then .error "pgraft: listen_peer_urls must be set and valid"
      else if port < 1024 ∨ 65535 < port then
        .error ("pgraft: listen_peer_urls port must be between 1024 and 65535 (got " ++
          toString port ++ ")")
      else do
        pgraftValidateConfiguration g
        pure (goConfigOf g goMembers host port)
    | _ => .error ("pgraft: failed to parse listen_peer_urls: " ++ g.listenPeerUrls)

end Pgraft
