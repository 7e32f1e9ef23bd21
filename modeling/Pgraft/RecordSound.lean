import Pgraft.Digits
import Mathlib.Data.Nat.Digits

/-!
# The positional record, written and read back

`pgraft_serialize_log_entry` prints an entry as `index|term|op|database|schema|sql`, and
`pgraft_parse_log_entry` cuts the text with `strtok_r` at every `|`, skipping empty tokens, and
keeps the first six. The numbers and the two names come back as they were printed. The SQL
field comes back as the first `|`-free piece of the SQL text, which is the whole text only when
it holds no `|`.
-/

namespace Pgraft

/-! ## `strtok_r` at `|` -/

section Tokens
variable {α : Type} {p : α → Bool}

/-- A separator cuts a list into the pieces of its two sides. -/
theorem splitOnP_append_cons {c : α} (hc : p c = true) : ∀ (x y : List α),
    (x ++ c :: y).splitOnP p = x.splitOnP p ++ y.splitOnP p
  | [], y => by simp [hc]
  | a :: x, y => by
    rw [List.cons_append, List.splitOnP_cons, List.splitOnP_cons, splitOnP_append_cons hc x y]
    split
    · rfl
    · obtain ⟨r, rs, hr⟩ := List.exists_cons_of_ne_nil (List.splitOnP_ne_nil p x)
      rw [hr]; rfl

theorem length_le_of_mem_splitOnP : ∀ {l q : List α}, q ∈ l.splitOnP p → q.length ≤ l.length
  | [], q, h => by simp_all
  | a :: l, q, h => by
    rw [List.splitOnP_cons] at h
    split at h
    · rcases List.mem_cons.mp h with rfl | h
      · simp
      · exact (length_le_of_mem_splitOnP h).trans (Nat.le_succ _)
    · obtain ⟨r, rs, hr⟩ := List.exists_cons_of_ne_nil (List.splitOnP_ne_nil p l)
      rw [hr, List.modifyHead_cons] at h
      rcases List.mem_cons.mp h with rfl | h
      · simpa using length_le_of_mem_splitOnP (hr ▸ List.mem_cons_self r rs)
      · exact (length_le_of_mem_splitOnP (hr ▸ List.mem_cons_of_mem r h)).trans (Nat.le_succ _)

end Tokens

theorem pipeTokens_append_pipe (x y : String) :
    pipeTokens (x ++ ("|" ++ y)) = pipeTokens x ++ pipeTokens y := by
  have hsplit := splitOnP_append_cons (p := (· == '|')) (beq_self_eq_true '|') x.data y.data
  simp only [pipeTokens, List.splitOn, String.data_append]
  rw [List.singleton_append, hsplit, List.filter_append, List.map_append]

theorem pipeTokens_of_no_pipe {s : String} (hne : s ≠ "") (h : '|' ∉ s.data) :
    pipeTokens s = [s] := by
  have hs : s.data ≠ [] := fun hs => hne (String.ext hs)
  simp only [pipeTokens, List.splitOn]
  rw [List.splitOnP_eq_single _ _ fun c hc => by simpa using ne_of_mem_of_not_mem hc h]
  simp [hs]

theorem length_le_of_mem_pipeTokens {s q : String} (h : q ∈ pipeTokens s) : q.length ≤ s.length := by
  simp only [pipeTokens, List.mem_map, List.mem_filter] at h
  obtain ⟨q, ⟨hq, -⟩, rfl⟩ := h
  exact length_le_of_mem_splitOnP hq

/-! ## Numerals inside the record -/

/-- The characters of a printed number: digits and a leading minus. -/
theorem toString_int_chars (i : Int) :
    toString i ≠ "" ∧ ∀ c ∈ (toString i).data, c.isDigit = true ∨ c = '-' := by
  cases i with
  | ofNat m =>
    obtain ⟨c, cs, h⟩ := toString_nat_cons m
    refine ⟨fun he => ?_, fun c hc => .inl (isDigit_of_mem_toString (n := m) hc)⟩
    have : (toString m).data = [] := congrArg String.data he
    simp [h] at this
  | negSucc m =>
    refine ⟨fun he => List.cons_ne_nil '-' (toString (m + 1)).data (congrArg String.data he),
      fun c hc => ?_⟩
    rcases List.mem_cons.mp hc with rfl | hc
    · exact .inr rfl
    · exact .inl (isDigit_of_mem_toString hc)

theorem numeral_field {s : String} (hs : ∀ c ∈ s.data, c.isDigit = true ∨ c = '-') :
    '|' ∉ s.data ∧ '\x00' ∉ s.data :=
  ⟨fun h => by simpa using hs _ h, fun h => by simpa using hs _ h⟩

theorem length_toString_nat {n e : Nat} (h : n < 10 ^ e) (he : 0 < e) : (toString n).length ≤ e :=
  Nat.repr_length n e he h

theorem length_toString_int {i : Int} (h : -2 ^ 31 ≤ i ∧ i < 2 ^ 31) : (toString i).length ≤ 11 := by
  cases i with
  | ofNat m =>
    simp only [Int.ofNat_eq_coe] at h
    exact (length_toString_nat (e := 10) (by omega) (by decide)).trans (by decide)
  | negSucc m =>
    have : m + 1 < 10 ^ 10 := by rw [Int.negSucc_eq] at h; omega
    have hm := length_toString_nat this (by decide)
    show (toString (m + 1)).data.length + 1 ≤ 11
    exact Nat.succ_le_succ hm

/-! ## The record -/

/-- An entry as C holds it and as a positional record carries it: 64-bit index and term, an
`int` op, NUL-free strings that fit their arrays, and a database and schema that are non-empty
and free of `|`. -/
structure PgRaftLogEntry.WellFormed (e : PgRaftLogEntry) : Prop where
  index : e.index < 2 ^ 64
  term : e.term < 2 ^ 64
  op : -2 ^ 31 ≤ e.op ∧ e.op < 2 ^ 31
  database : e.database ≠ "" ∧ e.database.length < 64 ∧ '|' ∉ e.database.data ∧
    '\x00' ∉ e.database.data
  schema : e.schema ≠ "" ∧ e.schema.length < 64 ∧ '|' ∉ e.schema.data ∧ '\x00' ∉ e.schema.data
  sql : e.sql.length < 4096 ∧ '\x00' ∉ e.sql.data

section Record
variable {e : PgRaftLogEntry} (he : e.WellFormed)
include he

theorem logEntryText_eq :
    String.mk (logEntryText e) = toString e.index ++ ("|" ++ (toString e.term ++ ("|" ++
      (toString e.op ++ ("|" ++ (e.database ++ ("|" ++ (e.schema ++ ("|" ++ e.sql))))))))) := by
  rw [logEntryText, cStr_of_not_mem he.database.2.2.2, cStr_of_not_mem he.schema.2.2.2,
    cStr_of_not_mem he.sql.2]
  simp only [String.append_assoc]

/-- The text has no NUL, so the parser's C string is all of it. -/
theorem cStr_logEntryText : cStr ⟨logEntryText e⟩ = ⟨logEntryText e⟩ := by
  apply cStr_of_not_mem
  rw [logEntryText_eq he]
  have hi := (numeral_field (toString_int_chars e.index).2).2
  have ht := (numeral_field (toString_int_chars e.term).2).2
  have ho := (numeral_field (toString_int_chars e.op).2).2
  simp only [String.data_append, List.mem_append, not_or]
  exact ⟨hi, by decide, ht, by decide, ho, by decide, he.database.2.2.2, by decide,
    he.schema.2.2.2, by decide, he.sql.2⟩

theorem pipeTokens_logEntryText :
    pipeTokens (cStr ⟨logEntryText e⟩) =
      [toString e.index, toString e.term, toString e.op, e.database, e.schema] ++ pipeTokens e.sql := by
  have num (i : Int) : pipeTokens (toString i) = [toString i] :=
    pipeTokens_of_no_pipe (toString_int_chars i).1 (numeral_field (toString_int_chars i).2).1
  rw [cStr_logEntryText he, logEntryText_eq he]
  simp only [pipeTokens_append_pipe, num, pipeTokens_of_no_pipe he.database.1 he.database.2.2.1,
    pipeTokens_of_no_pipe he.schema.1 he.schema.2.2.1]
  have hi : toString ((e.index : Nat) : Int) = toString e.index := rfl
  have ht : toString ((e.term : Nat) : Int) = toString e.term := rfl
  rw [← hi, ← ht, num, num]
  rfl

/-- Within the C domain the text fits the 8192-byte buffer, so nothing is cut. -/
theorem length_logEntryText : (logEntryText e).length ≤ 8191 := by
  have hi := length_toString_nat (e := 20) (he.index.trans (by decide)) (by decide)
  have ht := length_toString_nat (e := 20) (he.term.trans (by decide)) (by decide)
  have ho := length_toString_int he.op
  have hd := he.database.2.1
  have hs := he.schema.2.1
  have hq := he.sql.1
  have hlen := congrArg String.length (logEntryText_eq he)
  simp only [String.length_append, String.length_mk] at hlen
  simp only [String.length, List.length_singleton] at hi ht ho hd hs hq hlen ⊢
  omega

theorem pgraftSerializeLogEntry_eq :
    pgraftSerializeLogEntry e = (logEntryText e, (logEntryText e).length) := by
  rw [pgraftSerializeLogEntry, List.take_of_length_le (length_logEntryText he)]

theorem logEntryText_cons : ∃ c cs, logEntryText e = c :: cs ∧ c.isDigit = true := by
  obtain ⟨c, cs, h⟩ := toString_nat_cons e.index
  have htext := congrArg String.data (logEntryText_eq he)
  simp only [String.data_append, h, List.cons_append] at htext
  exact ⟨c, _, htext, isDigit_of_mem_toString (n := e.index) (h ▸ List.mem_cons_self c cs)⟩

/-- What `pgraft_parse_log_entry` makes of the text: every field as it was printed, except the
SQL text, which is cut to its first `|`-free piece, and lost when it has none. -/
theorem parseLogEntry_logEntryText :
    pgraftParseLogEntry (logEntryText e) =
      (pipeTokens e.sql).head?.map fun q => { e with sql := q } := by
  obtain ⟨c, cs, htext, -⟩ := logEntryText_cons he
  rw [pgraftParseLogEntry, if_neg (by simp [htext]), pipeTokens_logEntryText he]
  cases h : pipeTokens e.sql with
  | nil => rfl
  | cons q qs =>
    have hq : q.length < 4096 :=
      (length_le_of_mem_pipeTokens (h ▸ List.mem_cons_self q qs)).trans_lt he.sql.1
    simp [strtoull_toString he.index, strtoull_toString he.term, atoi_toString,
      strncpyField_of_lt he.database.2.1, strncpyField_of_lt he.schema.2.1, strncpyField_of_lt hq]

/-- The serialized record takes `pgraft_apply_entry_to_postgres`'s positional path (it does not
start with `{`), and the statement that path executes is the SQL text's first `|`-free piece. -/
theorem serialized_record_runs_first_sql_piece :
    (pgraftSerializeLogEntry e).1.head? ≠ some '{' ∧
      pgraftParseLogEntry (pgraftSerializeLogEntry e).1 =
        (pipeTokens e.sql).head?.map fun q => { e with sql := q } := by
  obtain ⟨c, cs, htext, hc⟩ := logEntryText_cons he
  rw [pgraftSerializeLogEntry_eq he]
  exact ⟨by simpa [htext] using ne_of_isDigit (d := '{') hc rfl, parseLogEntry_logEntryText he⟩

/-- A record whose SQL text is non-empty and has no `|` comes back whole. -/
theorem serialized_record_round_trip (hq : e.sql ≠ "") (hp : '|' ∉ e.sql.data) :
    pgraftParseLogEntry (pgraftSerializeLogEntry e).1 = some e := by
  rw [pgraftSerializeLogEntry_eq he, parseLogEntry_logEntryText he, pipeTokens_of_no_pipe hq hp]
  rfl

end Record

theorem serialized_concat_query_runs_prefix :
    PgRaftLogEntry.WellFormed ⟨1, 1, 1, "postgres", "public", "SELECT \x27a\x27 || \x27b\x27"⟩ ∧
      pgraftParseLogEntry
        (pgraftSerializeLogEntry ⟨1, 1, 1, "postgres", "public", "SELECT \x27a\x27 || \x27b\x27"⟩).1 =
        some ⟨1, 1, 1, "postgres", "public", "SELECT \x27a\x27 "⟩ :=
  have wf : PgRaftLogEntry.WellFormed
      ⟨1, 1, 1, "postgres", "public", "SELECT \x27a\x27 || \x27b\x27"⟩ :=
    ⟨by decide, by decide, by decide, by decide, by decide, by decide⟩
  ⟨wf, (serialized_record_runs_first_sql_piece wf).2.trans rfl⟩

/-- With an SPI that knows only the intended statement, the record's apply fails. -/
example (n : Node) :
    pgraftApplyEntryToPostgres
      ⟨true, fun q => if q = "SELECT \x27a\x27 || \x27b\x27" then [.query fun _ => .ok spiOkSelect]
        else [.query fun _ => .error "syntax error"]⟩
      n 1 (pgraftSerializeLogEntry ⟨1, 1, 1, "postgres", "public", "SELECT \x27a\x27 || \x27b\x27"⟩).1 0 =
      .raise "syntax error" n := by
  rfl

end Pgraft
