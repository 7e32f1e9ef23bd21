import Pgraft.Digits

/-!
# json-c's text, read back

The JSON a replicated key/value operation travels as is printed by `Json.render` and read by
`Json.tokenerParse`. Reading is a character loop with fuel, so the round trip goes one layer at
a time: an escaped string body reads back as the string (`parseStr_body`), a printed integer
as the integer (`parseInt_toString`), one `"key": value` member as that member
(`parseFields_member`), and a flat object of strings and integers as the object
(`tokenerParse_render_obj`). Every step is stated for whatever text follows, which is what lets
the next step start there.

For `pgraft_json_create_kv_operation` this gives the whole contract (`kv_encoding`): the text
fits the caller's buffer exactly when its escaped length does, and what it writes decodes to the
operation it encodes.
-/

namespace Pgraft
namespace Json

/-! ## Strings -/

theorem hexVal_hexDigit {n : Nat} (h : n < 16) : hexVal (hexDigit n) = some n := by
  interval_cases n <;> rfl

theorem parseStr_u (acc : List Char) (a b c d : Char) (cs : List Char) :
    parseStr acc ('\\' :: 'u' :: a :: b :: c :: d :: cs) =
      match hexVal a, hexVal b, hexVal c, hexVal d with
      | some va, some vb, some vc, some vd =>
        let v := ((va * 16 + vb) * 16 + vc) * 16 + vd
        if v < 128 then parseStr (Char.ofNat v :: acc) cs else none
      | _, _, _, _ => none := rfl

theorem parseStr_plain {c : Char} (h1 : c ≠ '"') (h2 : c ≠ '\\') (acc rest : List Char) :
    parseStr acc (c :: rest) = parseStr (c :: acc) rest := by
  conv_lhs => unfold parseStr
  split
  all_goals rename_i heq
  all_goals first
    | exact absurd (List.cons.inj heq).1 h1
    | exact absurd (List.cons.inj heq).1 h2
    | (obtain ⟨rfl, rfl⟩ := List.cons.inj heq; rfl)
    | exact absurd heq (List.cons_ne_nil _ _)

/-- Reading one escaped character back gives the character. -/
theorem parseStr_escapeChar (c : Char) (acc rest : List Char) :
    parseStr acc (escapeChar c ++ rest) = parseStr (c :: acc) rest := by
  by_cases h1 : c = '\x08'
  · subst h1; rfl
  by_cases h2 : c = '\n'
  · subst h2; rfl
  by_cases h3 : c = '\r'
  · subst h3; rfl
  by_cases h4 : c = '\t'
  · subst h4; rfl
  by_cases h5 : c = '\x0c'
  · subst h5; rfl
  by_cases h6 : c = '"'
  · subst h6; rfl
  by_cases h7 : c = '\\'
  · subst h7; rfl
  by_cases h8 : c = '/'
  · subst h8; rfl
  rw [escapeChar, if_neg h1, if_neg h2, if_neg h3, if_neg h4, if_neg h5, if_neg h6, if_neg h7,
    if_neg h8]
  split
  · have hc : c.toNat / 16 < 16 := by omega
    have hd : c.toNat % 16 < 16 := Nat.mod_lt _ (by decide)
    have hv : ((0 * 16 + 0) * 16 + c.toNat / 16) * 16 + c.toNat % 16 = c.toNat := by omega
    rw [List.cons_append, List.cons_append, List.cons_append, List.cons_append, List.cons_append,
      List.cons_append, List.nil_append, parseStr_u, hexVal_hexDigit hc, hexVal_hexDigit hd]
    simp only [show hexVal '0' = some 0 from rfl]
    rw [hv, if_pos (by omega), Char.ofNat_toNat]
  · exact parseStr_plain h6 h7 acc rest

/-- A string's escaped body and closing quote read back as the string, whatever follows. -/
theorem parseStr_body : ∀ (cs acc rest : List Char),
    parseStr acc (cs.flatMap escapeChar ++ '"' :: rest) = some (⟨acc.reverse ++ cs⟩, rest)
  | [], acc, rest => by rw [List.append_nil]; rfl
  | c :: cs, acc, rest => by
    rw [List.flatMap_cons, List.append_assoc, parseStr_escapeChar, parseStr_body cs]
    simp

theorem quote_data (s : String) : (quote s).data = '"' :: (s.data.flatMap escapeChar ++ ['"']) := rfl

/-! ## One step of the reader

Each of these is one unfolding of the reader at a known first character, true by computation.
-/

theorem parseValue_space (n : Nat) (cs : List Char) : parseValue n (' ' :: cs) = parseValue n cs := by
  cases n <;> rfl

theorem parseFields_space (n : Nat) (cs : List Char) (acc : List (String × Json)) :
    parseFields n (' ' :: cs) acc = parseFields n cs acc := by
  cases n <;> rfl

theorem parseValue_quote_cons (n : Nat) (cs : List Char) :
    parseValue (n + 1) ('"' :: cs) = (parseStr [] cs).map fun r => (.str r.1, r.2) := rfl

theorem parseValue_brace_cons (n : Nat) (cs : List Char) :
    parseValue (n + 1) ('\x7b' :: cs) =
      match cs.dropWhile isWs with
      | '\x7d' :: rest => some (.obj [], rest)
      | rest => parseFields n rest [] := rfl

theorem parseValue_object_cons (n : Nat) (cs : List Char) :
    parseValue (n + 1) ('\x7b' :: ' ' :: '"' :: cs) = parseFields n ('"' :: cs) [] := rfl

theorem parseFields_quote_cons (n : Nat) (cs : List Char) (acc : List (String × Json)) :
    parseFields (n + 1) ('"' :: cs) acc =
      match parseStr [] cs with
      | some (k, r) =>
        match r.dropWhile isWs with
        | ':' :: r' =>
          match parseValue n r' with
          | some (v, r'') =>
            match r''.dropWhile isWs with
            | ',' :: r3 => parseFields n r3 ((k, v) :: acc)
            | '\x7d' :: r3 => some (.obj ((k, v) :: acc).reverse, r3)
            | _ => none
          | none => none
        | _ => none
      | none => none := rfl

/-! ## Strings and integers -/

theorem parseValue_str (n : Nat) (s : String) (rest : List Char) :
    parseValue (n + 1) ((quote s).data ++ rest) = some (.str s, rest) := by
  rw [quote_data, List.cons_append, parseValue_quote_cons, List.append_assoc, List.singleton_append,
    parseStr_body]
  rfl

theorem parseDigits_first {c : Char} (hc : c.isDigit = true) (cs : List Char) :
    parseDigits (c.toNat - 48) cs = parseDigits 0 (c :: cs) := by
  simp [parseDigits, hc]

/-- A printed integer opens with a digit or a minus sign. -/
theorem toString_int_cons (i : Int) :
    ∃ c cs, (toString i).data = c :: cs ∧ ((∃ d < 10, c = Nat.digitChar d) ∨ c = '-') := by
  cases i with
  | ofNat m =>
    obtain ⟨c, cs, h⟩ := toString_nat_cons m
    exact ⟨c, cs, h, .inl (digitChar_of_mem_toString (h ▸ List.mem_cons_self c cs))⟩
  | negSucc m => exact ⟨'-', _, rfl, .inr rfl⟩

theorem parseInt_toString (i : Int) {rest : List Char} (hr : ∀ c ∈ rest.head?, c.isDigit = false) :
    parseInt ((toString i).data ++ rest) = some (i, rest) := by
  cases i with
  | ofNat m =>
    obtain ⟨c, cs, h⟩ := toString_nat_cons m
    have hc : c.isDigit = true := isDigit_of_mem_toString (h ▸ List.mem_cons_self c cs)
    have hd := parseDigits_toString m rest
    rw [parseDigits_stop _ hr, h, List.cons_append, ← parseDigits_first hc] at hd
    have hm : (toString (Int.ofNat m)).data = c :: cs := h
    rw [hm, List.cons_append, parseInt, if_pos hc, hd]
    · rfl
    · intro _ _ he; rw [he] at hc; exact absurd hc (by decide)
  | negSucc m =>
    obtain ⟨c, cs, h⟩ := toString_nat_cons (m + 1)
    have hc : c.isDigit = true := isDigit_of_mem_toString (h ▸ List.mem_cons_self c cs)
    have hd := parseDigits_toString (m + 1) rest
    rw [parseDigits_stop _ hr, h, List.cons_append, ← parseDigits_first hc] at hd
    have hm : (toString (Int.negSucc m)).data = '-' :: c :: cs := by
      rw [← h]; rfl
    rw [hm, List.cons_append, List.cons_append, parseInt, if_pos hc, hd]
    simp [Int.negSucc_eq]

theorem parseValue_int (n : Nat) (i : Int) {rest : List Char}
    (hr : ∀ c ∈ rest.head?, c.isDigit = false) :
    parseValue (n + 1) ((toString i).data ++ rest) = some (.int i, rest) := by
  obtain ⟨c, cs, h, hc⟩ := toString_int_cons i
  have hp := parseInt_toString i hr
  rw [h, List.cons_append] at hp ⊢
  have hstep : parseValue (n + 1) (c :: (cs ++ rest)) =
      (parseInt (c :: (cs ++ rest))).map fun r => (.int r.1, r.2) := by
    rcases hc with ⟨d, hd, rfl⟩ | rfl
    · interval_cases d <;> rfl
    · rfl
  rw [hstep, hp]
  rfl

/-- A value json-c prints as one token: a string or an integer. -/
def isScalar : Json → Bool
  | .str _ | .int _ => true
  | _ => false

theorem parseValue_scalar (n : Nat) {v : Json} (hv : v.isScalar) {rest : List Char}
    (hr : ∀ c ∈ rest.head?, c.isDigit = false) :
    parseValue (n + 1) ((render v).data ++ rest) = some (v, rest) := by
  cases v with
  | int i => exact parseValue_int n i hr
  | str s => exact parseValue_str n s rest
  | _ => exact absurd hv (by simp [isScalar])

/-! ## Flat objects -/

theorem intercalate_go_append (s : String) : ∀ (a b : String) (l : List String),
    String.intercalate.go (a ++ b) s l = a ++ String.intercalate.go b s l
  | a, b, [] => rfl
  | a, b, x :: l => by
    simp only [String.intercalate.go]
    rw [String.append_assoc a b s, String.append_assoc a (b ++ s) x, intercalate_go_append s a _ l]

theorem intercalate_cons (s x : String) {l : List String} (hl : l ≠ []) :
    s.intercalate (x :: l) = x ++ s ++ s.intercalate l := by
  obtain ⟨y, l, rfl⟩ := List.exists_cons_of_ne_nil hl
  exact intercalate_go_append s (x ++ s) y l

theorem renderFields_cons (k : String) (v : Json) (fs : List (String × Json)) :
    renderFields ((k, v) :: fs) = (quote k ++ ": " ++ render v) :: renderFields fs := rfl

theorem intercalate_singleton (s x : String) : s.intercalate [x] = x := rfl

theorem render_str (s : String) : render (.str s) = quote s := rfl

theorem render_int (n : Int) : render (.int n) = toString n := rfl

theorem renderFields_nil : renderFields [] = [] := rfl

theorem render_obj_cons (f : String × Json) (fs : List (String × Json)) :
    render (.obj (f :: fs)) = "\x7b " ++ ", ".intercalate (renderFields (f :: fs)) ++ " \x7d" := rfl

theorem member_data (k : String) (v : Json) (rest : List Char) :
    (quote k ++ ": " ++ render v).data ++ rest =
      '"' :: (k.data.flatMap escapeChar ++ '"' :: ':' :: ' ' :: ((render v).data ++ rest)) := by
  simp [quote_data]

/-- One member `"k": v` of an object, read by the member loop. -/
theorem parseFields_member {v : Json} (hv : v.isScalar) (m : Nat) (k : String)
    {rest : List Char} (hr : ∀ c ∈ rest.head?, c.isDigit = false) (acc : List (String × Json)) :
    parseFields (m + 2) ((quote k ++ ": " ++ render v).data ++ rest) acc =
      match rest.dropWhile isWs with
      | ',' :: r3 => parseFields (m + 1) r3 ((k, v) :: acc)
      | '\x7d' :: r3 => some (.obj ((k, v) :: acc).reverse, r3)
      | _ => none := by
  rw [member_data, parseFields_quote_cons, parseStr_body]
  simp only [List.dropWhile_cons_of_neg (show ¬ isWs ':' = true by decide), parseValue_space,
    parseValue_scalar _ hv hr]
  rfl

/-- The members json-c prints for a flat object read back as those members. -/
theorem parseFields_renderFields : ∀ (fs acc : List (String × Json)) (m : Nat) (tail : List Char),
    fs ≠ [] → (∀ f ∈ fs, f.2.isScalar) → fs.length ≤ m →
    parseFields (m + 1) ((", ".intercalate (renderFields fs)).data ++ ' ' :: '\x7d' :: tail) acc =
      some (.obj (acc.reverse ++ fs), tail)
  | [], _, _, _, hne, _, _ => absurd rfl hne
  | [(k, v)], acc, m, tail, _, hs, hm => by
    obtain ⟨m, rfl⟩ : ∃ m', m = m' + 1 := ⟨m - 1, by simp at hm; omega⟩
    rw [show ", ".intercalate (renderFields [(k, v)]) = quote k ++ ": " ++ render v from rfl,
      parseFields_member (hs _ (List.mem_singleton_self _)) m k (by simp) acc]
    simp only [List.dropWhile_cons_of_pos (show isWs ' ' = true by decide),
      List.dropWhile_cons_of_neg (show ¬ isWs '\x7d' = true by decide)]
    simp
  | (k, v) :: (k', v') :: fs, acc, m, tail, _, hs, hm => by
    obtain ⟨m, rfl⟩ : ∃ m', m = m' + 1 := ⟨m - 1, by simp at hm; omega⟩
    have ih := parseFields_renderFields ((k', v') :: fs) ((k, v) :: acc) m tail (List.cons_ne_nil _ _)
      (fun f hf => hs f (List.mem_cons_of_mem _ hf)) (by simp at hm ⊢; omega)
    rw [renderFields_cons, intercalate_cons _ _
      (show renderFields ((k', v') :: fs) ≠ [] from List.cons_ne_nil _ _), String.append_assoc, String.data_append, List.append_assoc,
      parseFields_member (hs _ (List.mem_cons_self _ _)) m k (by simp) acc]
    simp only [String.data_append, show ", ".data = [',', ' '] from rfl, List.cons_append,
      List.nil_append, List.dropWhile_cons_of_neg (show ¬ isWs ',' = true by decide),
      parseFields_space]
    rw [ih]
    simp

theorem intercalate_renderFields_cons (k : String) (v : Json) (fs : List (String × Json)) :
    ∃ X, (", ".intercalate (renderFields ((k, v) :: fs))).data = '"' :: X ∧
      fs.length < (", ".intercalate (renderFields ((k, v) :: fs))).length := by
  induction fs generalizing k v with
  | nil =>
    have h := (List.append_nil _).symm.trans (member_data k v [])
    rw [show ", ".intercalate (renderFields [(k, v)]) = quote k ++ ": " ++ render v from rfl]
    refine ⟨_, h, ?_⟩
    show 0 < (quote k ++ ": " ++ render v).data.length
    rw [h]; exact Nat.succ_pos _
  | cons f fs ih =>
    obtain ⟨k', v'⟩ := f
    obtain ⟨-, -, hlen⟩ := ih k' v'
    rw [renderFields_cons, intercalate_cons _ _
      (show renderFields ((k', v') :: fs) ≠ [] from List.cons_ne_nil _ _), String.data_append,
      String.data_append, member_data]
    refine ⟨_, rfl, ?_⟩
    have hsep : ", ".length = 2 := rfl
    simp only [String.length_append, List.length_cons] at hlen ⊢
    omega

/-- json-c reads the text it printed for a flat object back as that object. -/
theorem tokenerParse_render_obj {fs : List (String × Json)} (hne : fs ≠ [])
    (hs : ∀ f ∈ fs, f.2.isScalar) : tokenerParse (render (.obj fs)) = some (.obj fs) := by
  obtain ⟨⟨k, v⟩, fs', rfl⟩ := List.exists_cons_of_ne_nil hne
  obtain ⟨X, hX, hlen⟩ := intercalate_renderFields_cons k v fs'
  have hdata : (render (.obj ((k, v) :: fs'))).data =
      '\x7b' :: ' ' :: ((", ".intercalate (renderFields ((k, v) :: fs'))).data ++ [' ', '\x7d']) := rfl
  have hfields := parseFields_renderFields ((k, v) :: fs') []
    ((render (.obj ((k, v) :: fs'))).length - 1) [] hne hs (by
      simp only [String.length, hdata, List.length_cons, List.length_append] at hlen ⊢; omega)
  have hpos : 0 < (render (.obj ((k, v) :: fs'))).length := by
    simp only [String.length, hdata, List.length_cons]; omega
  rw [Nat.sub_add_cancel hpos] at hfields
  rw [tokenerParse, hdata, hX, List.cons_append, parseValue_object_cons, ← List.cons_append, ← hX,
    hfields]
  rfl

/-! ## Flat arrays -/

theorem renderAll_cons (x : Json) (xs : List Json) : renderAll (x :: xs) = render x :: renderAll xs :=
  rfl

theorem parseValue_bracket_cons (n : Nat) (cs : List Char) :
    parseValue (n + 1) ('[' :: cs) =
      match cs.dropWhile isWs with
      | ']' :: rest => some (.arr [], rest)
      | rest => parseElems n rest [] := rfl

theorem parseElems_succ (n : Nat) (cs : List Char) (acc : List Json) :
    parseElems (n + 1) cs acc =
      match parseValue n cs with
      | some (v, r) =>
        match r.dropWhile isWs with
        | ',' :: r' => parseElems n r' (v :: acc)
        | ']' :: r' => some (.arr (v :: acc).reverse, r')
        | _ => none
      | none => none := rfl

theorem parseElems_space (n : Nat) (cs : List Char) (acc : List Json) :
    parseElems n (' ' :: cs) acc = parseElems n cs acc := by
  cases n with
  | zero => rfl
  | succ n => rw [parseElems_succ, parseElems_succ, parseValue_space]

/-- A printed string or integer opens with a character that is neither white space nor `]`. -/
theorem render_scalar_cons {v : Json} (hv : v.isScalar) :
    ∃ c cs, (render v).data = c :: cs ∧ isWs c = false ∧ c ≠ ']' := by
  cases v with
  | str s => exact ⟨'"', _, quote_data s, rfl, by decide⟩
  | int i =>
    obtain ⟨c, cs, h, hc⟩ := toString_int_cons i
    refine ⟨c, cs, h, ?_⟩
    rcases hc with ⟨d, hd, rfl⟩ | rfl
    · interval_cases d <;> decide
    · decide
  | _ => exact absurd hv (by simp [isScalar])

/-- The elements json-c prints for a flat array read back as those elements. -/
theorem parseElems_renderAll : ∀ (xs acc : List Json) (m : Nat) (tail : List Char),
    xs ≠ [] → (∀ x ∈ xs, x.isScalar) → xs.length ≤ m →
    parseElems (m + 1) ((", ".intercalate (renderAll xs)).data ++ ' ' :: ']' :: tail) acc =
      some (.arr (acc.reverse ++ xs), tail)
  | [], _, _, _, hne, _, _ => absurd rfl hne
  | [x], acc, m, tail, _, hs, hm => by
    obtain ⟨m, rfl⟩ : ∃ m', m = m' + 1 := ⟨m - 1, by simp at hm; omega⟩
    rw [show ", ".intercalate (renderAll [x]) = render x from rfl, parseElems_succ,
      parseValue_scalar m (hs x (List.mem_singleton_self _)) (by simp)]
    simp only [List.dropWhile_cons_of_pos (show isWs ' ' = true by decide),
      List.dropWhile_cons_of_neg (show ¬ isWs ']' = true by decide)]
    simp
  | x :: x' :: xs, acc, m, tail, _, hs, hm => by
    obtain ⟨m, rfl⟩ : ∃ m', m = m' + 1 := ⟨m - 1, by simp at hm; omega⟩
    have ih := parseElems_renderAll (x' :: xs) (x :: acc) m tail (List.cons_ne_nil _ _)
      (fun y hy => hs y (List.mem_cons_of_mem _ hy)) (by simp at hm ⊢; omega)
    rw [renderAll_cons, intercalate_cons _ _
      (show renderAll (x' :: xs) ≠ [] from List.cons_ne_nil _ _), String.data_append,
      String.data_append, List.append_assoc, List.append_assoc, parseElems_succ,
      parseValue_scalar m (hs x (List.mem_cons_self _ _)) (by simp)]
    simp only [show ", ".data = [',', ' '] from rfl, List.cons_append, List.nil_append,
      List.dropWhile_cons_of_neg (show ¬ isWs ',' = true by decide), parseElems_space]
    rw [ih]
    simp

theorem intercalate_renderAll_cons {x : Json} (xs : List Json) (hs : ∀ y ∈ x :: xs, y.isScalar) :
    ∃ r, (", ".intercalate (renderAll (x :: xs))).data = (render x).data ++ r ∧
      xs.length < (", ".intercalate (renderAll (x :: xs))).length := by
  induction xs generalizing x with
  | nil =>
    obtain ⟨c, cs, h, -⟩ := render_scalar_cons (hs x (List.mem_singleton_self _))
    refine ⟨[], (List.append_nil _).symm, ?_⟩
    show 0 < (render x).data.length
    rw [h]; exact Nat.succ_pos _
  | cons y ys ih =>
    obtain ⟨_, -, hlen⟩ := ih (fun z hz => hs z (List.mem_cons_of_mem _ hz))
    rw [renderAll_cons, intercalate_cons _ _
      (show renderAll (y :: ys) ≠ [] from List.cons_ne_nil _ _), String.append_assoc,
      String.data_append]
    refine ⟨_, rfl, ?_⟩
    have hsep : ", ".length = 2 := rfl
    simp only [String.length_append, List.length_cons] at hlen ⊢
    omega

/-- json-c reads the text it printed for a flat array back as that array. -/
theorem tokenerParse_render_arr {xs : List Json} (hs : ∀ x ∈ xs, x.isScalar) :
    tokenerParse (render (.arr xs)) = some (.arr xs) := by
  cases xs with
  | nil => rfl
  | cons x xs =>
    obtain ⟨c, cs, hc, hws, hbr⟩ := render_scalar_cons (hs x (List.mem_cons_self _ _))
    obtain ⟨r, hX, hlen⟩ := intercalate_renderAll_cons xs hs
    have hdata : (render (.arr (x :: xs))).data =
        '[' :: ' ' :: ((", ".intercalate (renderAll (x :: xs))).data ++ [' ', ']']) := rfl
    have helems := parseElems_renderAll (x :: xs) [] ((render (.arr (x :: xs))).length - 1) []
      (List.cons_ne_nil _ _) hs (by
        simp only [String.length, hdata, List.length_cons, List.length_append] at hlen ⊢; omega)
    have hpos : 0 < (render (.arr (x :: xs))).length := by
      simp only [String.length, hdata, List.length_cons]; omega
    rw [Nat.sub_add_cancel hpos] at helems
    rw [tokenerParse, hdata, parseValue_bracket_cons,
      List.dropWhile_cons_of_pos (show isWs ' ' = true by decide), hX, hc, List.cons_append,
      List.cons_append, List.dropWhile_cons_of_neg (by simp [hws])]
    split
    · next heq => exact absurd (List.cons.inj heq).1 hbr
    · rw [← List.cons_append, ← List.cons_append, ← hc, ← hX, helems]
      rfl

end Json

/-! ## `pgraft_json_create_kv_operation`, read back -/

section KvOperation
variable (key : String) (value : Option String) (now : Int) (clientId : String)

theorem tokenerParse_kvOperationJson (t : String) :
    Json.tokenerParse (kvOperationJson t key value now clientId).render =
      some (kvOperationJson t key value now clientId) := by
  refine Json.tokenerParse_render_obj (List.cons_ne_nil _ _) fun f hf => ?_
  -- every member is a string or an integer
  rcases value with _ | v
  · simp only [List.mem_append, List.mem_cons, List.not_mem_nil, or_false, List.nil_append,
      or_assoc] at hf
    rcases hf with rfl | rfl | rfl | rfl <;> rfl
  · by_cases h : t = "kv_put" <;>
    simp only [h, if_true, if_false, List.mem_append, List.mem_cons, List.not_mem_nil, or_false,
      List.nil_append, or_assoc] at hf <;>
    rcases hf with rfl | rfl | rfl | rfl | rfl <;> rfl

theorem parseKvOperation_put {value : String} (hk : '\x00' ∉ key.data) (hv : '\x00' ∉ value.data) :
    pgraftJsonParseKvOperation (kvOperationJson "kv_put" key (some value) now clientId).render =
      .ok (.put key value) := by
  rw [pgraftJsonParseKvOperation, tokenerParse_kvOperationJson]
  have hput : cStr "kv_put" = "kv_put" := cStr_of_not_mem (by decide)
  simp [kvOperationJson, Json.getEx, Json.getString, cStr_of_not_mem hk, cStr_of_not_mem hv, hput]

theorem parseKvOperation_delete (hk : '\x00' ∉ key.data) :
    pgraftJsonParseKvOperation (kvOperationJson "kv_delete" key value now clientId).render =
      .ok (.delete key) := by
  rw [pgraftJsonParseKvOperation, tokenerParse_kvOperationJson]
  have hdel : cStr "kv_delete" = "kv_delete" := cStr_of_not_mem (by decide)
  rcases value with _ | v <;>
    simp [kvOperationJson, Json.getEx, Json.getString, cStr_of_not_mem hk, hdel]

/-- The lengths of the fixed parts of the object `pgraft_json_create_kv_operation` prints. -/
theorem kvOperation_frame_lengths :
    "\x7b ".length = 2 ∧ " \x7d".length = 2 ∧ ": ".length = 2 ∧ ", ".length = 2 ∧
      (Json.quote "type").length = 6 ∧ (Json.quote "key").length = 5 ∧
      (Json.quote "value").length = 7 ∧ (Json.quote "timestamp").length = 11 ∧
      (Json.quote "client_id").length = 11 ∧ (Json.quote "kv_put").length = 8 ∧
      (Json.quote "kv_delete").length = 11 := by
  decide

theorem length_render_put {value : String} :
    (kvOperationJson "kv_put" key (some value) now clientId).render.length =
      70 + (Json.quote key).length + (Json.quote value).length + (Json.quote clientId).length +
        (toString now).length := by
  obtain ⟨h1, h2, h3, h4, h5, h6, h7, h8, h9, h10, -⟩ := kvOperation_frame_lengths
  simp only [kvOperationJson, if_pos, List.cons_append, List.singleton_append, List.nil_append,
    Json.render_obj_cons, Json.renderFields_cons, Json.renderFields_nil, Json.render_str,
    Json.render_int, ne_eq, reduceCtorEq, not_false_eq_true, Json.intercalate_cons,
    Json.intercalate_singleton, String.length_append]
  omega

example : (kvOperationJson "kv_put" "a" (some "1") 7 "pg_1").render =
    "\x7b \"type\": \"kv_put\", \"key\": \"a\", \"value\": \"1\", \"timestamp\": 7, \"client_id\": \"pg_1\" \x7d" := by
  rfl

theorem length_render_delete :
    (kvOperationJson "kv_delete" key value now clientId).render.length =
      62 + (Json.quote key).length + (Json.quote clientId).length + (toString now).length := by
  obtain ⟨h1, h2, h3, h4, h5, h6, -, h8, h9, -, h11⟩ := kvOperation_frame_lengths
  rcases value with _ | v <;>
  simp only [kvOperationJson, if_neg (show "kv_delete" ≠ "kv_put" by decide), List.cons_append,
    List.singleton_append, List.nil_append, List.append_nil,
    Json.render_obj_cons, Json.renderFields_cons, Json.renderFields_nil, Json.render_str,
    Json.render_int, ne_eq, reduceCtorEq, not_false_eq_true, Json.intercalate_cons,
    Json.intercalate_singleton, String.length_append] <;>
  omega

theorem render_kvOperationJson_head (t : String) :
    (kvOperationJson t key value now clientId).render.data.head? = some '\x7b' := rfl

theorem pgraftJsonCreateKvOperation_put {value : String} {bufferSize : Nat} {text : String} :
    pgraftJsonCreateKvOperation 1 key (some value) clientId now bufferSize = .ok text ↔
      text = (kvOperationJson "kv_put" key (some value) now clientId).render ∧
        (kvOperationJson "kv_put" key (some value) now clientId).render.length < bufferSize := by
  simp only [pgraftJsonCreateKvOperation, if_pos]
  split <;> simp_all [eq_comm]

theorem pgraftJsonCreateKvOperation_delete {bufferSize : Nat} {text : String} :
    pgraftJsonCreateKvOperation 2 key value clientId now bufferSize = .ok text ↔
      text = (kvOperationJson "kv_delete" key value now clientId).render ∧
        (kvOperationJson "kv_delete" key value now clientId).render.length < bufferSize := by
  simp only [pgraftJsonCreateKvOperation, if_neg (show (2 : Int) ≠ 1 by decide), if_pos]
  split <;> simp_all [eq_comm]

theorem length_quote (s : String) :
    (Json.quote s).length = (s.data.flatMap Json.escapeChar).length + 2 := by
  simp [String.length, Json.quote_data]

theorem length_quote_slashes (n : Nat) :
    (Json.quote ⟨List.replicate n '/'⟩).length = 2 * n + 2 := by
  rw [length_quote]
  induction n with
  | zero => rfl
  | succ n ih =>
    have h : (Json.escapeChar '/').length = 2 := rfl
    simp only [List.replicate_succ, List.flatMap_cons, List.length_append] at ih ⊢
    omega

end KvOperation

/-- What `pgraft_json_create_kv_operation` does with a put and a delete of `key`: it succeeds
exactly when json-c's text, with every string escaped, fits the buffer with its NUL; and the
text it writes starts with `\x7b`, so the apply path reads it as JSON, and decodes to the same
operation. -/
structure KvEncoding (key value clientId : String) (now : Int) (bufferSize : Nat) : Prop where
  put_accepted :
    (∃ text, pgraftJsonCreateKvOperation 1 key (some value) clientId now bufferSize = .ok text) ↔
      70 + (Json.quote key).length + (Json.quote value).length + (Json.quote clientId).length +
        (toString now).length < bufferSize
  put_decodes : ∀ text,
    pgraftJsonCreateKvOperation 1 key (some value) clientId now bufferSize = .ok text →
      text.data.head? = some '\x7b' ∧ pgraftJsonParseKvOperation text = .ok (.put key value)
  delete_accepted :
    (∃ text, pgraftJsonCreateKvOperation 2 key none clientId now bufferSize = .ok text) ↔
      62 + (Json.quote key).length + (Json.quote clientId).length + (toString now).length < bufferSize
  delete_decodes : ∀ text,
    pgraftJsonCreateKvOperation 2 key none clientId now bufferSize = .ok text →
      text.data.head? = some '\x7b' ∧ pgraftJsonParseKvOperation text = .ok (.delete key)

theorem kv_encoding {key value clientId : String} {now : Int} {bufferSize : Nat}
    (hk : '\x00' ∉ key.data) (hv : '\x00' ∉ value.data) :
    KvEncoding key value clientId now bufferSize where
  put_accepted := by
    simp only [pgraftJsonCreateKvOperation_put, exists_eq_left, length_render_put]
  put_decodes text h := by
    obtain ⟨rfl, -⟩ := (pgraftJsonCreateKvOperation_put key now clientId).mp h
    exact ⟨render_kvOperationJson_head key _ now clientId _, parseKvOperation_put key now clientId hk hv⟩
  delete_accepted := by
    simp only [pgraftJsonCreateKvOperation_delete, exists_eq_left, length_render_delete]
  delete_decodes text h := by
    obtain ⟨rfl, -⟩ := (pgraftJsonCreateKvOperation_delete key none now clientId).mp h
    exact ⟨render_kvOperationJson_head key _ now clientId _, parseKvOperation_delete key none now clientId hk⟩

theorem kv_encoding_rejects_slash_value :
    (⟨List.replicate 1023 '/'⟩ : String).length < 1024 ∧
      KvEncoding "k" ⟨List.replicate 1023 '/'⟩ "pg_1" 0 2048 ∧
      ¬ ∃ text, pgraftJsonCreateKvOperation 1 "k" (some ⟨List.replicate 1023 '/'⟩) "pg_1" 0 2048 =
        .ok text := by
  have h := @kv_encoding "k" ⟨List.replicate 1023 '/'⟩ "pg_1" 0 2048 (by decide)
    fun hm => absurd (List.eq_of_mem_replicate hm) (by decide)
  refine ⟨by rw [String.length_mk, List.length_replicate]; decide, h, fun hex => ?_⟩
  have := h.put_accepted.mp hex
  rw [length_quote_slashes] at this
  exact absurd this (by decide)

end Pgraft
