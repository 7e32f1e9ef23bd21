import Pgraft.Kv
import Pgraft.Worker
import Pgraft.Json

/-!
# The apply pipeline

`pgraft_apply.c`: the consensus engine hands every committed entry, with its raft index, to
`pgraft_apply_entry_to_postgres` (through `pgraft_go_apply_callback`). An entry whose first
byte is `{` is a key/value operation in JSON, applied to the store through
`pgraft_kv_put_local` or `pgraft_kv_delete_local`; any other entry is
`index|term|op|database|schema|sql`, whose text runs through `SPI_execute`. A successful apply
records the raft index as the worker state's `last_applied_index`.

`SPI_execute` runs the statements of the text in order, and a statement may call the
extension's own SQL functions on the node: the local put and delete, the record and the read
of the applied index, the store's read, compaction and reset, or a client write that queues a
command (`SpiStatement`). It stops at the first `ERROR` or negative code, and nothing the
earlier statements did to shared memory is undone. The host's SPI is a parameter (`Spi`):
whether `SPI_connect` succeeds, and the statements its parser makes of a text; the database's
tables are not modelled. The snapshot file that the store's put and delete write after their
update is in `Pgraft.Snapshot`.
-/

namespace Pgraft

/-- The shared state an apply reads and writes: the key/value store and the worker state. -/
structure Node where
  kv : KvStore
  worker : WorkerState

/-- `pgraft_record_applied_index` on the node. -/
def Node.recordApplied (n : Node) (index : Nat) : Node :=
  { n with worker := pgraftRecordAppliedIndex n.worker index }

/-! ## The SQL functions that write the node -/

/-- `pgraft_kv_get_sql`: the value read into a 1024-byte buffer, or `NULL`. -/
def pgraftKvGetSql (n : Node) : Option String → Call Node (Option String)
  | none => .ret none n
  | some key =>
    if key.length = 0 then .ret none n
    else
      ((pgraftKvGet n.kv key 1024).map (Option.map (·.1))).mapState fun kv => { n with kv := kv }

/-- `pgraft_kv_put_local_func`. -/
def pgraftKvPutLocalFunc (n : Node) (key value : String) (now : Int) : Call Node Bool :=
  ((pgraftKvPutLocal n.kv key value now).map (· == 0)).mapState fun kv => { n with kv := kv }

/-- `pgraft_kv_delete_local_func`. -/
def pgraftKvDeleteLocalFunc (n : Node) (key : String) (now : Int) : Call Node Bool :=
  ((pgraftKvDeleteLocal n.kv key now).map (· == 0)).mapState fun kv => { n with kv := kv }

/-- `pgraft_record_applied_index_func`: the `int64` argument cast to `uint64`. -/
def pgraftRecordAppliedIndexFunc (n : Node) (index : Int) : Node :=
  n.recordApplied (index % 2 ^ 64).toNat

/-! ## SPI -/

/-- `SPI_OK_SELECT`, the code of a `SELECT`. -/
def spiOkSelect : Int := 5

/-- `SPI_ERROR_TRANSACTION`, the code `SPI_execute` gives a transaction-control statement. -/
def spiErrorTransaction : Int := -8

/-- One statement of an SQL text, as it acts on the node. The extension's functions that write
the store or the applied index, called from a `SELECT`, are statements of their own. Any other
statement is `other`: plain SQL, a transaction-control statement, or a call of another function
of the extension, such as `pgraft_get_applied_index_func` or a client put that queues a command.
Its code or its `ERROR` may depend on the node, and it may change the worker state, but neither
the store nor the applied index: that is what those functions do (`NodeEvent.step_frame`). -/
inductive SpiStatement
  | kvPutLocalFunc (key value : String)
  | kvDeleteLocalFunc (key : String)
  | recordAppliedIndexFunc (index : Int)
  | kvGetSql (key : Option String)
  | kvCompactSql
  | kvResetSql
  | other (run : Node → Call Node Int)
      (frame : ∀ n, (run n).state.kv = n.kv ∧
        (run n).state.worker.lastAppliedIndex = n.worker.lastAppliedIndex)

/-- A statement that leaves the node: `SPI_execute` records `result`'s code, or the statement
raises its `ERROR`. -/
def SpiStatement.query (result : Node → Except String Int) : SpiStatement :=
  .other (fun n => match result n with
      | .ok r => .ret r n
      | .error m => .raise m n)
    (fun n => by dsimp only; split <;> exact ⟨rfl, rfl⟩)

/-- `COMMIT`, `ROLLBACK` and the other transaction-control statements, refused under SPI. -/
def SpiStatement.transaction : SpiStatement := .query fun _ => .ok spiErrorTransaction

/-- One statement run on the node: the code `SPI_execute` records for it, or its `ERROR`. -/
def SpiStatement.run (now : Int) : SpiStatement → Node → Call Node Int
  | .kvPutLocalFunc k v, n => (pgraftKvPutLocalFunc n k v now).map fun _ => spiOkSelect
  | .kvDeleteLocalFunc k, n => (pgraftKvDeleteLocalFunc n k now).map fun _ => spiOkSelect
  | .recordAppliedIndexFunc i, n => .ret spiOkSelect (pgraftRecordAppliedIndexFunc n i)
  | .kvGetSql k, n => (pgraftKvGetSql n k).map fun _ => spiOkSelect
  | .kvCompactSql, n => .ret spiOkSelect { n with kv := pgraftKvCompact n.kv }
  | .kvResetSql, n => .ret spiOkSelect { n with kv := pgraftKvReset n.kv }
  | .other run _, n => run n

/-- `SPI_execute(sql, false, 0)` on the statements of `sql`, with `res` the code so far (`0`
before the first): each statement's code replaces it, and an `ERROR` or a negative code ends
the call with what the earlier statements did kept. -/
def spiExecute (now : Int) (res : Int) : List SpiStatement → Node → Call Node Int
  | [], n => .ret res n
  | s :: ss, n => (s.run now n).bind fun r m => if r < 0 then .ret r m else spiExecute now r ss m

/-- The host's SPI as the apply path uses it: whether `SPI_connect` succeeds, and the
statements the parser makes of a text. -/
structure Spi where
  connectOk : Bool
  statements : String → List SpiStatement

/-! ## Entries -/

/-- `PgRaftLogEntry`. -/
structure PgRaftLogEntry where
  index : Nat
  term : Nat
  op : Int
  database : String
  schema : String
  sql : String
deriving DecidableEq, Repr

/-- The digits of a number after `strtoull`'s or `atoi`'s optional blanks and sign. -/
def leadingDigits (cs : List Char) : Bool × Nat :=
  let cs := cs.dropWhile (fun c => c = ' ' || c = '\t' || c = '\n')
  let (neg, cs) := match cs with
    | '-' :: r => (true, r)
    | '+' :: r => (false, r)
    | r => (false, r)
  (neg, (Json.parseDigits 0 cs).1)

/-- `strtoull(token, NULL, 10)`: a magnitude past `ULLONG_MAX` saturates there, and a negated
one wraps around. -/
def strtoull (s : String) : Nat :=
  let r := leadingDigits s.data
  if 2 ^ 64 ≤ r.2 then 2 ^ 64 - 1
  else if r.1 then (2 ^ 64 - r.2) % 2 ^ 64 else r.2

/-- `atoi(token)`. -/
def atoi (s : String) : Int :=
  let r := leadingDigits s.data
  if r.1 then -(r.2 : Int) else r.2

/-- `strtok_r` with the delimiter `|` run over a C string: its maximal runs without `|`. -/
def pipeTokens (s : String) : List String :=
  ((s.data.splitOn '|').filter (· ≠ [])).map String.mk

/-- `pgraft_parse_log_entry` on an entry that does not start with `{`: six `|`-separated
fields, each string copied into its fixed-size field. -/
def pgraftParseLogEntry (data : List Char) : Option PgRaftLogEntry :=
  if data = [] then none
  else
    match pipeTokens (cStr ⟨data⟩) with
    | i :: t :: o :: d :: sc :: q :: _ =>
      some ⟨strtoull i, strtoull t, atoi o, strncpyField 64 d, strncpyField 64 sc,
        strncpyField 4096 q⟩
    | _ => none

/-- The text `snprintf` formats for `pgraft_serialize_log_entry` from `"%lu|%lu|%d|%s|%s|%s"`;
each `%s` stops at its field's NUL. -/
def logEntryText (e : PgRaftLogEntry) : List Char :=
  (toString e.index ++ "|" ++ toString e.term ++ "|" ++ toString e.op ++ "|" ++
    cStr e.database ++ "|" ++ cStr e.schema ++ "|" ++ cStr e.sql).data

/-- `pgraft_serialize_log_entry`: the 8192-byte buffer holds the text cut to 8191 bytes, and
`*out_len` is what `snprintf` returns, the length of the whole text. -/
def pgraftSerializeLogEntry (e : PgRaftLogEntry) : List Char × Nat :=
  ((logEntryText e).take 8191, (logEntryText e).length)

/-- `pgraft_apply_kv_operation`. A parse failure is an `ERROR` of the parser; a put or delete
that does not return `0` is turned into an `ERROR` here. The raft index is only logged. -/
def pgraftApplyKvOperation (n : Node) (_raftIndex : Nat) (jsonData : String) (now : Int) :
    Call Node Int :=
  match pgraftJsonParseKvOperation jsonData with
  | .error m => .raise m n
  | .ok (.put key value) =>
    match pgraftKvPutLocal n.kv key value now with
    | .ret 0 kv => .ret 0 { n with kv := kv }
    | .ret r kv =>
      .raise ("pgraft: failed to apply KV PUT operation: key=\x27" ++ key ++ "\x27, value=\x27" ++
        value ++ "\x27, error=" ++ toString r) { n with kv := kv }
    | .raise m kv => .raise m { n with kv := kv }
  | .ok (.delete key) =>
    match pgraftKvDeleteLocal n.kv key now with
    | .ret 0 kv => .ret 0 { n with kv := kv }
    | .ret r kv =>
      .raise ("pgraft: failed to apply KV DELETE operation: key=\x27" ++ key ++ "\x27, error=" ++
        toString r) { n with kv := kv }
    | .raise m kv => .raise m { n with kv := kv }

/-- `pgraft_apply_entry_to_postgres` on the `len` bytes `data`. -/
def pgraftApplyEntryToPostgres (spi : Spi) (n : Node) (raftIndex : Nat) (data : List Char)
    (now : Int) : Call Node Int :=
  if data.head? = some '{' then
    (pgraftApplyKvOperation n raftIndex (cStr ⟨data⟩) now).bind fun r n' =>
      .ret r (if r = 0 then n'.recordApplied raftIndex else n')
  else
    match pgraftParseLogEntry data with
    | none => .ret (-1) n
    | some e =>
      if !spi.connectOk then .ret (-1) n
      else
        (spiExecute now 0 (spi.statements e.sql) n).bind fun r n' =>
          if r < 0 then .ret (-1) n' else .ret 0 (n'.recordApplied raftIndex)

/-- `pgraft_go_apply_callback`. -/
def pgraftGoApplyCallback (spi : Spi) (n : Node) (raftIndex : Nat) (data : List Char)
    (now : Int) : Call Node Int :=
  pgraftApplyEntryToPostgres spi n raftIndex data now

end Pgraft
