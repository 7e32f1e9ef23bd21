import Pgraft.ClusterSound
import Pgraft.SnapshotLayout
import Pgraft.RecordSound
import Mathlib.Data.List.Infix

/-!
# The cluster state file

`pgraft_write_state_to_file_with_nodes` and `pgraft_write_state_to_file` print the leader, the
term and the node id into `cluster_state.json`, one line each, through a temporary file and a
rename; the first also prints the Go library's nodes text on a line of its own.
`pgraft_read_state_from_file` reads the file back in `fgets` pieces of at most 255
characters, tries three `sscanf` patterns on each piece, and counts the pieces that match.

A pattern matches a piece only where its quoted name and a colon stand at the piece's start
after white space, and every piece stands at some position of the file. A nodes text that
holds none of the three quoted names therefore adds no match, wherever `fgets` cuts it, while
the three short number lines match once each: the reader gets back exactly what was written
(`state_file_round_trip`). The file `pgraft_update_shared_memory_from_go` writes after a
refresh therefore reads back as the leader and the term the descriptor took, and as its node
id when the reported one is positive (`refresh_file_matches_descriptor`).
-/

namespace Pgraft

/-! ## The writers -/

/-- `fprintf(fp, "  \"<name>\": %lld,\n", v)`, the format of the three number lines. -/
def fieldLine (name : String) (v : Int) : String := "  \"" ++ name ++ "\": " ++ toString v ++ ",\n"

/-- The text both writers print, with the nodes line when there are nodes; `updatedAt` is
`time(NULL)`. A `%s` prints its string up to the first NUL. -/
def stateFileText (leaderId term nodeId : Int) (nodes : Option String) (updatedAt : Int) :
    String :=
  "\x7b\n" ++ fieldLine "leader_id" leaderId ++ fieldLine "term" term ++
    fieldLine "node_id" nodeId ++
    (match nodes with
      | some n => "  \"nodes\": " ++ cStr n ++ ",\n"
      | none => "") ++
    "  \"updated_at\": " ++ toString updatedAt ++ "\n" ++ "\x7d\n"

/-- `pgraft_write_state_to_file_with_nodes`: the file afterwards. When the temporary file does
not open, or the rename fails, the old file stays. -/
def pgraftWriteStateToFileWithNodes (opened renamed : Bool) (old : Option String)
    (leaderId term nodeId : Int) (nodesJson : String) (now : Int) : Option String :=
  if opened && renamed then some (stateFileText leaderId term nodeId (some nodesJson) now) else old

/-- `pgraft_write_state_to_file`: the same without the nodes line. -/
def pgraftWriteStateToFile (opened renamed : Bool) (old : Option String)
    (leaderId term nodeId now : Int) : Option String :=
  if opened && renamed then some (stateFileText leaderId term nodeId none now) else old

/-! ## The reader -/

/-- `isspace` in the C locale. -/
def isspace (c : Char) : Bool :=
  c = ' ' || c = '\t' || c = '\n' || c = '\x0b' || c = '\x0c' || c = '\r'

/-- `fgets(line, 256, fp)` until it returns `NULL`: pieces of at most 255 characters, each
ending after a newline, after its 255th character, or at the end of the file. `cur` holds the
piece being read, reversed. -/
def fgetsPieces (cur : List Char) : List Char → List (List Char)
  | [] => if cur = [] then [] else [cur.reverse]
  | c :: cs =>
    if c = '\n' ∨ cur.length + 1 = 255 then (c :: cur).reverse :: fgetsPieces [] cs
    else fgetsPieces (c :: cur) cs

/-- At least one decimal digit, and their value. -/
def scanDigits : List Char → Option Int
  | c :: cs => if c.isDigit then some (Json.parseDigits 0 (c :: cs)).1 else none
  | [] => none

/-- The numeral of a `%d` or `%lld` conversion after its white space: an optional sign, then
digits. -/
def scanDecimal : List Char → Option Int
  | [] => none
  | c :: cs =>
    if c = '-' then (scanDigits cs).map fun v => -v
    else if c = '+' then scanDigits cs
    else scanDigits (c :: cs)

/-- The literal part of a reader pattern: the quoted name and a colon. -/
def fieldLiteral (name : String) : List Char := ("\"" ++ name ++ "\":").data

/-- `sscanf(line, "  \"<name>\": %lld,", &v) == 1`: white space, the literal, white space and a
numeral; `conv` is what the conversion stores of the numeral. -/
def sscanfField (name : String) (conv : Int → Int) (line : List Char) : Option Int :=
  match (fieldLiteral name).isPrefixOf? (line.dropWhile isspace) with
  | some rest => (scanDecimal (rest.dropWhile isspace)).map conv
  | none => none

/-- What `%d` stores: the numeral read as a `long`, then cut to an `int`. -/
def scanInt (v : Int) : Int := (int64Sat v).bmod (2 ^ 32)

/-- The values `pgraft_read_state_from_file` stores through its three pointers. -/
structure StateValues where
  leaderId : Int
  term : Int
  nodeId : Int
deriving DecidableEq, Repr

/-- One turn of the reader's loop: the first of the three patterns that the piece matches
stores its value and counts. `%lld` stores as `strtoll` reads. -/
def readStateLine (acc : StateValues × Nat) (line : List Char) : StateValues × Nat :=
  match sscanfField "leader_id" int64Sat line with
  | some v => ({ acc.1 with leaderId := v }, acc.2 + 1)
  | none =>
    match sscanfField "term" scanInt line with
    | some v => ({ acc.1 with term := v }, acc.2 + 1)
    | none =>
      match sscanfField "node_id" int64Sat line with
      | some v => ({ acc.1 with nodeId := v }, acc.2 + 1)
      | none => acc

/-- `pgraft_read_state_from_file`, its pointers holding `init` on entry; `none` is a file that
does not open. It returns `0` when at least three pieces matched. -/
def pgraftReadStateFromFile (init : StateValues) (file : Option String) : Int × StateValues :=
  match file with
  | none => (-1, init)
  | some text =>
    let r := (fgetsPieces [] text.data).foldl readStateLine (init, 0)
    (if r.2 ≥ 3 then 0 else -1, r.1)

/-! ## Pieces -/

/-- A line shorter than a piece, newline included, is one piece. -/
theorem fgetsPieces_line : ∀ {cur xs : List Char} (rest : List Char), '\n' ∉ xs →
    cur.length + xs.length < 255 →
    fgetsPieces cur (xs ++ '\n' :: rest) = (cur.reverse ++ xs ++ ['\n']) :: fgetsPieces [] rest
  | cur, [], rest, _, _ => by simp [fgetsPieces]
  | cur, x :: xs, rest, hx, hl => by
    have hx' : x ≠ '\n' := fun h => hx (h ▸ List.mem_cons_self _ _)
    have hne : cur.length + 1 ≠ 255 := by simp only [List.length_cons] at hl; omega
    rw [List.cons_append, fgetsPieces, if_neg (by tauto),
      fgetsPieces_line rest (fun h => hx (List.mem_cons_of_mem _ h))
        (by simp only [List.length_cons] at hl ⊢; omega)]
    simp

/-- Every piece stands at some position of what is left to read, followed by the rest. -/
theorem fgetsPieces_drop : ∀ {cur T c : List Char}, c ∈ fgetsPieces cur T →
    ∃ i r, (cur.reverse ++ T).drop i = c ++ r
  | cur, [], c, h => by
    simp only [fgetsPieces] at h
    split at h
    · simp at h
    · exact ⟨0, [], by simp [List.mem_singleton.mp h]⟩
  | cur, a :: T, c, h => by
    simp only [fgetsPieces] at h
    split at h
    · rcases List.mem_cons.mp h with rfl | h
      · exact ⟨0, T, by simp⟩
      · obtain ⟨i, r, hi⟩ := fgetsPieces_drop h
        refine ⟨(cur.reverse ++ [a]).length + i, r, ?_⟩
        rw [show cur.reverse ++ a :: T = (cur.reverse ++ [a]) ++ T by simp, List.drop_append]
        simpa using hi
    · obtain ⟨i, r, hi⟩ := fgetsPieces_drop h
      exact ⟨i, r, by simpa using hi⟩

/-! ## Where a pattern can match -/

/-- The literal of pattern `name` stands at the start of `S` after white space. -/
def KeyAt (name : String) (S : List Char) : Prop := fieldLiteral name <+: S.dropWhile isspace

/-- No position of `T` starts with the literal of pattern `name`. -/
def NoKeyIn (name : String) (T : List Char) : Prop := ∀ i, ¬ KeyAt name (T.drop i)

/-- Two lists neither of which starts the other. -/
def Disagree (l u : List Char) : Prop := ¬ l <+: u ∧ ¬ u <+: l

/-- Every position of `X`, past white space, reaches the end of `X` or disagrees with the
literal of pattern `name`. -/
def ClosedFor (name : String) (X : List Char) : Prop :=
  ∀ i < X.length, (X.drop i).dropWhile isspace = [] ∨
    Disagree (fieldLiteral name) ((X.drop i).dropWhile isspace)

instance (l u : List Char) : Decidable (Disagree l u) :=
  inferInstanceAs (Decidable (¬ l <+: u ∧ ¬ u <+: l))

instance (name : String) (X : List Char) : Decidable (ClosedFor name X) :=
  inferInstanceAs (Decidable (∀ i < X.length, (X.drop i).dropWhile isspace = [] ∨
    Disagree (fieldLiteral name) ((X.drop i).dropWhile isspace)))

theorem fieldLiteral_eq (name : String) : fieldLiteral name = '"' :: (name.data ++ ['"', ':']) :=
  rfl

theorem not_keyAt_nil (name : String) : ¬ KeyAt name [] := fun h => by
  simpa [fieldLiteral_eq] using List.prefix_nil.mp h

theorem prefix_of_isPrefixOf? : ∀ {l₁ l₂ t : List Char}, l₁.isPrefixOf? l₂ = some t → l₁ <+: l₂
  | [], _, _, _ => List.nil_prefix
  | _ :: _, [], _, h => by simp [List.isPrefixOf?] at h
  | a :: l₁, b :: l₂, t, h => by
    simp only [List.isPrefixOf?, beq_iff_eq] at h
    split at h
    · next hab => exact List.cons_prefix_cons.mpr ⟨hab, prefix_of_isPrefixOf? h⟩
    · cases h

theorem isPrefixOf?_append : ∀ (l t : List Char), l.isPrefixOf? (l ++ t) = some t
  | [], t => by cases t <;> rfl
  | a :: l, t => by simp [List.isPrefixOf?, isPrefixOf?_append l t]

theorem keyAt_of_sscanfField {name : String} {conv : Int → Int} {line : List Char} {v : Int}
    (h : sscanfField name conv line = some v) : KeyAt name line := by
  unfold sscanfField at h
  split at h
  · next hp => exact prefix_of_isPrefixOf? hp
  · cases h

theorem sscanfField_eq_none {name : String} {conv : Int → Int} {line : List Char}
    (h : ¬ KeyAt name line) : sscanfField name conv line = none := by
  cases hv : sscanfField name conv line with
  | none => rfl
  | some v => exact absurd (keyAt_of_sscanfField hv) h

theorem KeyAt.append {name : String} {c : List Char} (h : KeyAt name c) (r : List Char) :
    KeyAt name (c ++ r) := by
  have hne : c.dropWhile isspace ≠ [] := fun he => not_keyAt_nil name (by
    unfold KeyAt at h ⊢; rw [he] at h; exact h)
  unfold KeyAt
  rw [List.dropWhile_append, if_neg (by simpa using hne)]
  exact h.trans (List.prefix_append _ _)

/-- No piece `fgets` cuts from a text without the literal matches the pattern. -/
theorem sscanfField_of_noKeyIn {name : String} (conv : Int → Int) {T c : List Char}
    (hT : NoKeyIn name T) (hc : c ∈ fgetsPieces [] T) : sscanfField name conv c = none := by
  obtain ⟨i, r, hi⟩ := fgetsPieces_drop hc
  refine sscanfField_eq_none fun h => hT i ?_
  rw [List.reverse_nil, List.nil_append] at hi
  rw [hi]
  exact h.append r

theorem not_prefix_append_of_disagree {l u : List Char} (h : Disagree l u) (Y : List Char) :
    ¬ l <+: u ++ Y :=
  fun hl => (List.prefix_or_prefix_of_prefix hl (List.prefix_append u Y)).elim h.1 h.2

/-- In front of a text without the literal, a text each of whose positions, past white space,
reaches its end or disagrees with the literal. -/
theorem ClosedFor.append_head {name : String} {X Y : List Char} (hX : ClosedFor name X)
    (hY : NoKeyIn name Y) : NoKeyIn name (X ++ Y) := by
  intro i
  rw [List.drop_append_eq_append_drop]
  by_cases hi : i < X.length
  · rw [Nat.sub_eq_zero_of_le hi.le, List.drop_zero]
    unfold KeyAt
    rw [List.dropWhile_append]
    rcases hX i hi with he | hd
    · simpa [he] using hY 0
    · have hne : (X.drop i).dropWhile isspace ≠ [] := fun he => hd.2 (he ▸ List.nil_prefix)
      rw [if_neg (by simpa using hne)]
      exact not_prefix_append_of_disagree hd Y
  · rw [List.drop_eq_nil_of_le (by omega), List.nil_append]
    exact hY _

/-- In front of a text without the literal that opens with a character the literal does not
hold, a text without the quoted name. -/
theorem NoKeyIn.append_text {name : String} {N Y : List Char}
    (hN : ¬ ("\"" ++ name ++ "\"").data <:+: N) (hY : NoKeyIn name Y)
    (hc : ∀ c ∈ Y.head?, c ∉ fieldLiteral name) : NoKeyIn name (N ++ Y) := by
  have hq : ("\"" ++ name ++ "\"").data <+: fieldLiteral name := ⟨[':'], by simp [fieldLiteral_eq]⟩
  intro j
  rw [List.drop_append_eq_append_drop]
  by_cases hj : j < N.length
  · rw [Nat.sub_eq_zero_of_le hj.le, List.drop_zero]
    unfold KeyAt
    rw [List.dropWhile_append]
    split
    · simpa using hY 0
    · intro hk
      have hu : (N.drop j).dropWhile isspace <:+: N :=
        ((List.dropWhile_suffix _).trans (List.drop_suffix _ _)).isInfix
      rcases List.prefix_or_prefix_of_prefix hk (List.prefix_append _ Y) with hl | ⟨w, hw⟩
      · exact hN ((hq.trans hl).isInfix.trans hu)
      · rw [← hw, List.prefix_append_right_inj] at hk
        cases w with
        | nil => exact hN ((hq.trans (by rw [← hw, List.append_nil])).isInfix.trans hu)
        | cons c w =>
          obtain ⟨t, ht⟩ := hk
          exact hc c (by rw [← ht]; rfl) (by rw [← hw]; simp)
  · rw [List.drop_eq_nil_of_le (by omega), List.nil_append]
    exact hY _

/-! ## Numbers -/

theorem isDigit_ne_quote {c : Char} (h : c.isDigit = true ∨ c = '-') : c ≠ '"' := by
  rintro rfl; revert h; decide

theorem isspace_of_isDigit {c : Char} (h : c.isDigit = true ∨ c = '-') : isspace c = false := by
  cases hs : isspace c
  · rfl
  · simp only [isspace, Bool.or_eq_true, decide_eq_true_eq] at hs
    rcases hs with ((((rfl | rfl) | rfl) | rfl) | rfl) | rfl <;> revert h <;> decide

/-- Every position of a printed number starts with a digit or a minus sign, where the literal
starts with a quote. -/
theorem toString_closedFor (name : String) (v : Int) : ClosedFor name (toString v).data := by
  intro i hi
  have hc := (toString_int_chars v).2 _ (List.getElem_mem hi)
  right
  rw [List.drop_eq_getElem_cons hi, List.dropWhile_cons_of_neg (by simp [isspace_of_isDigit hc]),
    fieldLiteral_eq]
  have hq := isDigit_ne_quote hc
  exact ⟨fun h => hq (List.cons_prefix_cons.mp h).1.symm,
    fun h => hq (List.cons_prefix_cons.mp h).1⟩

theorem scanDigits_toString (n : Nat) {rest : List Char}
    (hr : ∀ c ∈ rest.head?, c.isDigit = false) :
    scanDigits ((toString n).data ++ rest) = some (n : Int) := by
  obtain ⟨c, cs, h⟩ := toString_nat_cons n
  have hc : c.isDigit = true := isDigit_of_mem_toString (h ▸ List.mem_cons_self c cs)
  have hd := parseDigits_toString n rest
  rw [parseDigits_stop _ hr] at hd
  rw [h, List.cons_append, scanDigits, if_pos hc, ← List.cons_append, ← h, hd]

/-- A printed integer reads back as itself, whatever follows that is not a digit. -/
theorem scanDecimal_toString (i : Int) {rest : List Char}
    (hr : ∀ c ∈ rest.head?, c.isDigit = false) : scanDecimal ((toString i).data ++ rest) = some i := by
  cases i with
  | ofNat m =>
    have hm : (toString (Int.ofNat m)).data = (toString m).data := rfl
    obtain ⟨c, cs, h⟩ := toString_nat_cons m
    have hc : c.isDigit = true := isDigit_of_mem_toString (h ▸ List.mem_cons_self c cs)
    have h1 : c ≠ '-' := fun he => by rw [he] at hc; exact absurd hc (by decide)
    have h2 : c ≠ '+' := fun he => by rw [he] at hc; exact absurd hc (by decide)
    rw [hm, h, List.cons_append, scanDecimal, if_neg h1, if_neg h2, ← List.cons_append, ← h,
      scanDigits_toString m hr]
    rfl
  | negSucc m =>
    have hm : (toString (Int.negSucc m)).data = '-' :: (toString (m + 1)).data := rfl
    rw [hm, List.cons_append, scanDecimal, if_pos rfl, scanDigits_toString (m + 1) hr]
    simp [Int.negSucc_eq]

theorem length_toString_int64 {i : Int} (h : IsInt64 i) : (toString i).length ≤ 20 := by
  cases i with
  | ofNat m =>
    simp only [Int.ofNat_eq_coe, IsInt64] at h
    exact (length_toString_nat (e := 19) (by omega) (by decide)).trans (by decide)
  | negSucc m =>
    have : m + 1 < 10 ^ 19 := by unfold IsInt64 at h; rw [Int.negSucc_eq] at h; omega
    show (toString (m + 1)).data.length + 1 ≤ 20
    exact Nat.succ_le_succ (length_toString_nat this (by decide))

/-! ## The lines the writer prints -/

theorem fieldLine_data (name : String) (v : Int) :
    (fieldLine name v).data =
      [' ', ' '] ++ fieldLiteral name ++ ' ' :: ((toString v).data ++ [',', '\n']) := by
  simp only [fieldLine, fieldLiteral, String.data_append, List.append_assoc]
  rfl

/-- The text after the three number lines. -/
def stateFileTail (nodes : Option String) (u : Int) : List Char :=
  (match nodes with
    | some x => "  \"nodes\": ".data ++ ((cStr x).data ++ [',', '\n'])
    | none => []) ++
  ("  \"updated_at\": ".data ++ ((toString u).data ++ ['\n', '\x7d', '\n']))

theorem stateFileText_data (l t n : Int) (nodes : Option String) (u : Int) :
    (stateFileText l t n nodes u).data = ['\x7b', '\n'] ++ ((fieldLine "leader_id" l).data ++
      ((fieldLine "term" t).data ++ ((fieldLine "node_id" n).data ++ stateFileTail nodes u))) := by
  cases nodes <;> simp only [stateFileText, stateFileTail, String.data_append, List.append_assoc] <;>
    rfl

/-- A number line of a name without newlines is one piece. -/
theorem fgetsPieces_fieldLine {name : String} (hn : '\n' ∉ name.data) (hlen : name.length < 200)
    {v : Int} (hv : IsInt64 v) (rest : List Char) :
    fgetsPieces [] ((fieldLine name v).data ++ rest) = (fieldLine name v).data :: fgetsPieces [] rest := by
  have hD := length_toString_int64 hv
  have hdig : '\n' ∉ (toString v).data := fun h => by
    rcases (toString_int_chars v).2 _ h with h | h <;> revert h <;> decide
  have hsplit : (fieldLine name v).data =
      ([' ', ' '] ++ fieldLiteral name ++ ' ' :: ((toString v).data ++ [','])) ++ ['\n'] := by
    simp [fieldLine_data]
  rw [hsplit, List.append_assoc, List.singleton_append, fgetsPieces_line rest _ _]
  · simp
  · simp [fieldLiteral_eq, hn, hdig]
  · have hD' : (toString v).data.length ≤ 20 := hD
    have hlen' : name.data.length < 200 := hlen
    simp only [fieldLiteral_eq, List.length_append, List.length_cons, List.length_nil]
    omega

theorem dropWhile_fieldLine (name : String) (v : Int) :
    (fieldLine name v).data.dropWhile isspace =
      fieldLiteral name ++ ' ' :: ((toString v).data ++ [',', '\n']) := by
  rw [fieldLine_data, List.append_assoc, List.dropWhile_append_of_pos (by decide), fieldLiteral_eq,
    List.cons_append, List.dropWhile_cons_of_neg (by decide)]

/-- A number line, read by its own pattern. -/
theorem sscanfField_fieldLine (name : String) (conv : Int → Int) (v : Int) :
    sscanfField name conv (fieldLine name v).data = some (conv v) := by
  obtain ⟨c, cs, hc⟩ : ∃ c cs, (toString v).data = c :: cs := by
    cases h : (toString v).data with
    | nil => exact absurd (String.ext h) (toString_int_chars v).1
    | cons c cs => exact ⟨c, cs, rfl⟩
  have hsp : isspace c = false :=
    isspace_of_isDigit ((toString_int_chars v).2 c (by rw [hc]; exact List.mem_cons_self _ _))
  rw [sscanfField, dropWhile_fieldLine, isPrefixOf?_append]
  simp only
  rw [List.dropWhile_cons_of_pos (by decide), hc, List.cons_append,
    List.dropWhile_cons_of_neg (by simp [hsp]), ← List.cons_append, ← hc,
    scanDecimal_toString v (by decide)]
  rfl

/-- A number line, read by a pattern whose literal disagrees with its own. -/
theorem sscanfField_fieldLine_other {name name' : String} (conv : Int → Int) (v : Int)
    (h : Disagree (fieldLiteral name') (fieldLiteral name)) :
    sscanfField name' conv (fieldLine name v).data = none := by
  refine sscanfField_eq_none ?_
  unfold KeyAt
  rw [dropWhile_fieldLine]
  exact not_prefix_append_of_disagree h _

/-! ## The text after the number lines -/

/-- A nodes text that holds none of the reader's three quoted names. -/
def NoStateKey (text : String) : Prop :=
  ∀ name ∈ ["leader_id", "term", "node_id"], ¬ ("\"" ++ name ++ "\"").data <:+: text.data

/-- The fixed parts of the text after the number lines, for each of the three patterns. -/
theorem closedFor_fixed : ∀ name ∈ ["leader_id", "term", "node_id"],
    ClosedFor name "  \"nodes\": ".data ∧ ClosedFor name [',', '\n'] ∧
      ClosedFor name "  \"updated_at\": ".data ∧ ClosedFor name ['\n', '\x7d', '\n'] ∧
      ',' ∉ fieldLiteral name := by
  decide

/-- No piece after the number lines holds the literal of a pattern, wherever `fgets` cuts the
nodes text. -/
theorem noKeyIn_tail {name : String} (hname : name ∈ ["leader_id", "term", "node_id"])
    {nodes : Option String} (hN : ∀ x ∈ nodes, NoStateKey x) (u : Int) :
    NoKeyIn name (stateFileTail nodes u) := by
  obtain ⟨hA, hB, hU, hE, hc⟩ := closedFor_fixed name hname
  have hnil : NoKeyIn name [] := fun i => by rw [List.drop_nil]; exact not_keyAt_nil name
  have hR := hU.append_head ((toString_closedFor name u).append_head
    (by simpa using hE.append_head hnil))
  cases nodes with
  | none => simpa [stateFileTail] using hR
  | some x =>
    have hx : ¬ ("\"" ++ name ++ "\"").data <:+: (cStr x).data := fun h =>
      hN x rfl name hname (h.trans (List.takeWhile_prefix _).isInfix)
    rw [stateFileTail, List.append_assoc, List.append_assoc]
    exact hA.append_head (NoKeyIn.append_text hx (hB.append_head hR) (by simpa using hc))

/-! ## Reading the text back -/

theorem readStateLine_of_none {acc : StateValues × Nat} {c : List Char}
    (h1 : sscanfField "leader_id" int64Sat c = none) (h2 : sscanfField "term" scanInt c = none)
    (h3 : sscanfField "node_id" int64Sat c = none) : readStateLine acc c = acc := by
  simp only [readStateLine, h1, h2, h3]

theorem foldl_readStateLine_of_fixed : ∀ (cs : List (List Char)) (acc : StateValues × Nat),
    (∀ c ∈ cs, ∀ acc, readStateLine acc c = acc) → cs.foldl readStateLine acc = acc
  | [], _, _ => rfl
  | c :: cs, acc, h => by
    rw [List.foldl_cons, h c (List.mem_cons_self _ _),
      foldl_readStateLine_of_fixed cs acc fun c hc => h c (List.mem_cons_of_mem _ hc)]

theorem foldl_readStateLine_of_noKeyIn {T : List Char}
    (hT : ∀ name ∈ ["leader_id", "term", "node_id"], NoKeyIn name T) (acc : StateValues × Nat) :
    (fgetsPieces [] T).foldl readStateLine acc = acc :=
  foldl_readStateLine_of_fixed _ acc fun _ hc _ =>
    readStateLine_of_none (sscanfField_of_noKeyIn _ (hT _ (by simp)) hc)
      (sscanfField_of_noKeyIn _ (hT _ (by simp)) hc) (sscanfField_of_noKeyIn _ (hT _ (by simp)) hc)

theorem int64Sat_of_isInt64 {v : Int} (h : IsInt64 v) : int64Sat v = v := by
  obtain ⟨h₁, h₂⟩ := h
  unfold int64Sat; omega

theorem scanInt_of_int32 {v : Int} (h : -2 ^ 31 ≤ v ∧ v < 2 ^ 31) : scanInt v = v := by
  rw [scanInt, int64Sat_of_isInt64 ⟨by omega, by omega⟩]
  unfold Int.bmod; dsimp only; split <;> omega

/-- The text either writer prints reads back as its three numbers, when they fit their C types
and the nodes text holds none of the three quoted names. -/
theorem read_stateFileText (init : StateValues) {l t n : Int} (hl : IsInt64 l)
    (ht : -2 ^ 31 ≤ t ∧ t < 2 ^ 31) (hn : IsInt64 n) {nodes : Option String}
    (hN : ∀ x ∈ nodes, NoStateKey x) (u : Int) :
    pgraftReadStateFromFile init (some (stateFileText l t n nodes u)) = (0, ⟨l, t, n⟩) := by
  have ht' : IsInt64 t := ⟨by omega, by omega⟩
  have hT := fun name (h : name ∈ ["leader_id", "term", "node_id"]) => noKeyIn_tail h hN u
  have hd : Disagree (fieldLiteral "leader_id") (fieldLiteral "term") ∧
      Disagree (fieldLiteral "leader_id") (fieldLiteral "node_id") ∧
      Disagree (fieldLiteral "term") (fieldLiteral "node_id") := by decide
  have hfold : (fgetsPieces [] (stateFileText l t n nodes u).data).foldl readStateLine (init, 0) =
      (⟨l, t, n⟩, 3) := by
    rw [stateFileText_data, List.cons_append, List.cons_append, List.nil_append,
      show fgetsPieces [] ('\x7b' :: '\n' :: _) = ['\x7b', '\n'] :: _ from rfl,
      fgetsPieces_fieldLine (by decide) (by decide) hl,
      fgetsPieces_fieldLine (by decide) (by decide) ht',
      fgetsPieces_fieldLine (by decide) (by decide) hn, List.foldl_cons, List.foldl_cons,
      List.foldl_cons, List.foldl_cons, foldl_readStateLine_of_noKeyIn hT]
    simp only [readStateLine, show sscanfField "leader_id" int64Sat ['\x7b', '\n'] = none from rfl,
      show sscanfField "term" scanInt ['\x7b', '\n'] = none from rfl,
      show sscanfField "node_id" int64Sat ['\x7b', '\n'] = none from rfl, sscanfField_fieldLine,
      sscanfField_fieldLine_other _ _ hd.1, sscanfField_fieldLine_other _ _ hd.2.1,
      sscanfField_fieldLine_other _ _ hd.2.2, int64Sat_of_isInt64 hl, int64Sat_of_isInt64 hn,
      scanInt_of_int32 ht]
  simp only [pgraftReadStateFromFile, hfold]
  rfl

/-- After either writer has written its file, the reader returns `0` with the leader, the term
and the node id it wrote, for every 64-bit leader and node id, 32-bit term and time, and every
nodes text that holds none of the three quoted names. -/
theorem state_file_round_trip (init : StateValues) (old : Option String)
    {leaderId term nodeId : Int} (hl : IsInt64 leaderId) (ht : -2 ^ 31 ≤ term ∧ term < 2 ^ 31)
    (hn : IsInt64 nodeId) (now : Int) :
    pgraftReadStateFromFile init (pgraftWriteStateToFile true true old leaderId term nodeId now) =
        (0, ⟨leaderId, term, nodeId⟩) ∧
      ∀ nodesJson, NoStateKey nodesJson →
        pgraftReadStateFromFile init (pgraftWriteStateToFileWithNodes true true old leaderId term
          nodeId nodesJson now) = (0, ⟨leaderId, term, nodeId⟩) :=
  ⟨read_stateFileText init hl ht hn (by simp) now,
    fun _ hx => read_stateFileText init hl ht hn (by simpa using hx) now⟩

/-- The extreme values, and a nodes text over two lines. -/
theorem state_file_round_trip_extremes :
    let nodes := "[\n  \x7b\"id\": 1, \"address\": \"10.0.0.1:5432\"\x7d\n]"
    (IsInt64 (-2 ^ 63) ∧ (-2 ^ 31 ≤ (2 ^ 31 - 1 : Int) ∧ (2 ^ 31 - 1 : Int) < 2 ^ 31) ∧
        IsInt64 (2 ^ 63 - 1)) ∧
      NoStateKey nodes ∧
      (pgraftReadStateFromFile ⟨0, 0, 0⟩
            (pgraftWriteStateToFile true true none (-2 ^ 63) (2 ^ 31 - 1) (2 ^ 63 - 1) 1700000000) =
          (0, ⟨-2 ^ 63, 2 ^ 31 - 1, 2 ^ 63 - 1⟩) ∧
        ∀ nodesJson, NoStateKey nodesJson →
          pgraftReadStateFromFile ⟨0, 0, 0⟩ (pgraftWriteStateToFileWithNodes true true none
            (-2 ^ 63) (2 ^ 31 - 1) (2 ^ 63 - 1) nodesJson 1700000000) =
            (0, ⟨-2 ^ 63, 2 ^ 31 - 1, 2 ^ 63 - 1⟩)) := by
  intro nodes
  have h64 : IsInt64 (-2 ^ 63) ∧ IsInt64 (2 ^ 63 - 1) := by unfold IsInt64; decide
  have h32 : -2 ^ 31 ≤ (2 ^ 31 - 1 : Int) ∧ (2 ^ 31 - 1 : Int) < 2 ^ 31 := by decide
  exact ⟨⟨h64.1, h32, h64.2⟩, by unfold NoStateKey; decide,
    state_file_round_trip ⟨0, 0, 0⟩ none h64.1 h32 h64.2 1700000000⟩

/-! ## The refresh's write -/

/-- The state file after `pgraft_update_shared_memory_from_go`: written with the nodes text when
the Go library gave one other than `[]`, without it otherwise; with no report (the library or a
getter missing) the function returns before writing. -/
def pgraftUpdateSharedMemoryFromGoFile (g : Option GoReport) (opened renamed : Bool)
    (old : Option String) (now : Int) : Option String :=
  match g with
  | none => old
  | some g =>
    match g.nodesJson with
    | some js =>
      if js = "[]" then pgraftWriteStateToFile opened renamed old g.leader g.term g.nodeId now
      else pgraftWriteStateToFileWithNodes opened renamed old g.leader g.term g.nodeId js now
    | none => pgraftWriteStateToFile opened renamed old g.leader g.term g.nodeId now

/-- The file a refresh writes reads back as the report, when its numbers fit their C types and
its nodes text holds none of the three quoted names. -/
theorem read_refresh_file (init : StateValues) (old : Option String) {g : GoReport}
    (hl : IsInt64 g.leader) (ht : -2 ^ 31 ≤ g.term ∧ g.term < 2 ^ 31) (hn : IsInt64 g.nodeId)
    (hN : ∀ x ∈ g.nodesJson, NoStateKey x) (now : Int) :
    pgraftReadStateFromFile init (pgraftUpdateSharedMemoryFromGoFile (some g) true true old now) =
      (0, ⟨g.leader, g.term, g.nodeId⟩) := by
  simp only [pgraftUpdateSharedMemoryFromGoFile]
  split
  · next js hjs =>
    split
    · exact read_stateFileText init hl ht hn (by simp) now
    · exact read_stateFileText init hl ht hn (hjs ▸ hN) now
  · exact read_stateFileText init hl ht hn (by simp) now

/-- A process that reads the file after a refresh sees the leader and the term the descriptor
holds, and its node id when the reported one is positive. A report of a node id `≤ 0` goes into
the file while the descriptor keeps its own. -/
theorem refresh_file_matches_descriptor (cs : ClusterSizes) (s : Shared) (init : StateValues)
    (old : Option String) {g : GoReport} (hl : IsInt64 g.leader)
    (ht : -2 ^ 31 ≤ g.term ∧ g.term < 2 ^ 31) (hn : IsInt64 g.nodeId)
    (hN : ∀ x ∈ g.nodesJson, NoStateKey x) (now : Int) :
    let c := (pgraftUpdateSharedMemoryFromGo cs (some g) s).cluster
    let r := pgraftReadStateFromFile init
      (pgraftUpdateSharedMemoryFromGoFile (some g) true true old now)
    r.1 = 0 ∧ r.2.leaderId = c.leaderId ∧ r.2.term = c.currentTerm ∧
      (0 < g.nodeId → r.2.nodeId = c.nodeId) := by
  obtain ⟨hL, hT, hI⟩ := @refresh_descriptor_ids cs s g
  simp only [read_refresh_file init old hl ht hn hN now, hL, hT, true_and]
  exact fun h => (hI h).symm

end Pgraft
