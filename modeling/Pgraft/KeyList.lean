import Pgraft.JsonSound
import Pgraft.KvMap

/-!
# Listing the keys

`pgraft_kv_list_keys_sql` lists the keys into an 8192-byte buffer through
`pgraft_kv_list_keys`, which writes nothing into a buffer under 3 bytes and otherwise calls
`pgraft_json_create_key_list`: a json-c array of the keys of the slots in use that are not
deleted, in slot order, copied out when its text fits. When the text does not fit, that
function raises an `ERROR` before it could return `-1`, so the fallback to `[]` after a `-1`
is never reached and the call fails. The store is read without its spinlock, as it stands.

On a reachable store a listing is an array that json-c reads back as the keys of the live
map, each once and in slot order, or a failed call (`list_keys_complete_or_fails`).
-/

namespace Pgraft

/-- `pgraft_json_create_key_list` into a buffer of `bufferSize` bytes: the printed array of
the keys of the slots in use that are not deleted, or the `ERROR` raised when the text does
not fit. Its other failures are json-c allocation failures, left out. -/
def pgraftJsonCreateKeyList (store : KvStore) (bufferSize : Nat) : Except String String :=
  let jsonArray := Json.arr ((store.active.filter (!·.deleted)).map fun e => .str e.key)
  let jsonString := jsonArray.render
  if jsonString.length ≥ bufferSize then .error "pgraft_json: JSON array too long for buffer"
  else .ok jsonString

/-- `pgraft_kv_list_keys` into `keys_json` of `jsonSize` bytes: the text it writes, `none` when
it writes nothing, or the `ERROR` that ends the call. -/
def pgraftKvListKeys (store : KvStore) (jsonSize : Nat) : Except String (Option String) :=
  if jsonSize < 3 then .ok none
  else (pgraftJsonCreateKeyList store jsonSize).map some

/-- `pgraft_kv_list_keys_sql`: the listing into its 8192-byte buffer. -/
def pgraftKvListKeysSql (store : KvStore) : Except String (Option String) :=
  pgraftKvListKeys store 8192

/-- The keys of the slots in use that are not deleted, in slot order. -/
def liveKeys (s : KvStore) : List String := (s.active.filter (!·.deleted)).map (·.key)

theorem keyList_json (s : KvStore) :
    Json.arr ((s.active.filter (!·.deleted)).map fun e => .str e.key) =
      .arr ((liveKeys s).map .str) := by
  simp [liveKeys, Function.comp_def]

theorem tokenerParse_keyList (s : KvStore) :
    Json.tokenerParse (Json.arr ((liveKeys s).map .str)).render =
      some (.arr ((liveKeys s).map .str)) :=
  Json.tokenerParse_render_arr fun x hx => by
    obtain ⟨k, -, rfl⟩ := List.mem_map.mp hx
    rfl

/-- A key is listed exactly when the live map holds it. -/
theorem mem_liveKeys {s : KvStore} {k : String} : k ∈ liveKeys s ↔ (s.view k).isSome := by
  simp only [liveKeys, List.mem_map, List.mem_filter, Bool.not_eq_true', KvStore.view,
    Option.isSome_map', List.find?_isSome, KvEntry.liveWith_iff]
  exact exists_congr fun e => by tauto

/-- At most one live slot per key lists each key once. -/
theorem liveKeys_nodup {s : KvStore} (hs : s.Inv) : (liveKeys s).Nodup := by
  rw [List.nodup_iff_count_le_one]
  intro k
  rw [liveKeys, List.count_eq_countP, List.countP_map, List.countP_filter]
  convert hs.unique k using 2
  funext e
  simp [KvEntry.liveWith, Bool.and_comm]

/-- On a reachable store, with a buffer of at least 3 bytes: the listing writes an array that
json-c reads back as the live keys in slot order, or the call fails. Each live key is listed
once, and the listed keys are those of the live map. -/
theorem list_keys_complete_or_fails {s : KvStore} (hs : KvReachable s) {jsonSize : Nat}
    (hj : 3 ≤ jsonSize) :
    ((∃ text, pgraftKvListKeys s jsonSize = .ok (some text) ∧
        Json.tokenerParse text = some (.arr ((liveKeys s).map .str))) ∨
      ∃ msg, pgraftKvListKeys s jsonSize = .error msg) ∧
    (liveKeys s).Nodup ∧ ∀ k, k ∈ liveKeys s ↔ (s.view k).isSome := by
  refine ⟨?_, liveKeys_nodup hs.inv, fun _ => mem_liveKeys⟩
  rw [pgraftKvListKeys, if_neg (by omega), pgraftJsonCreateKeyList, keyList_json]
  split
  · exact .inr ⟨_, rfl⟩
  · exact .inl ⟨_, rfl, tokenerParse_keyList s⟩

/-- Two puts and a delete, listed by the SQL function: the array holds the one live key. -/
theorem list_keys_after_delete :
    let s := (KvOp.delete "a" 3 0).apply ((KvOp.put "b" "2" 2 0).apply
      ((KvOp.put "a" "1" 1 0).apply KvStore.empty))
    (KvReachable s ∧ 3 ≤ 8192) ∧
      (((∃ text, pgraftKvListKeys s 8192 = .ok (some text) ∧
          Json.tokenerParse text = some (.arr ((liveKeys s).map .str))) ∨
        ∃ msg, pgraftKvListKeys s 8192 = .error msg) ∧
      (liveKeys s).Nodup ∧ ∀ k, k ∈ liveKeys s ↔ (s.view k).isSome) ∧
      pgraftKvListKeysSql s = .ok (some "[ \"b\" ]") := by
  intro s
  have hs : KvReachable s := .step _ (.step _ (.step _ .empty))
  exact ⟨⟨hs, by decide⟩, list_keys_complete_or_fails hs (by decide), by decide⟩

end Pgraft
