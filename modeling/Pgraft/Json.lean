import Pgraft.Basic

/-!
# JSON payloads

A replicated key/value operation travels through the consensus log as a JSON text, built by
`pgraft_json_create_kv_operation` and read back by `pgraft_json_parse_kv_operation`, both
through json-c. json-c is a library outside the extension: `Json.render` is
`json_object_to_json_string` in its default spaced format, and `Json.tokenerParse` is
`json_tokener_parse` on the JSON that printer writes: objects, arrays, strings with the
escapes the printer emits, integers, `true` and `false`. A json-c `null` and fractional
numbers are left out; the parser refuses them. The functions of `pgraft_json.c` are then
written over these two.
-/

namespace Pgraft

/-- A json-c value. -/
inductive Json
  | bool (b : Bool)
  | int (n : Int)
  | str (s : String)
  | arr (xs : List Json)
  | obj (fields : List (String × Json))
deriving Repr, Inhabited

namespace Json

/-! ## Printing -/

/-- A hexadecimal digit, as json-c prints them. -/
def hexDigit (n : Nat) : Char := if n < 10 then Char.ofNat (48 + n) else Char.ofNat (87 + n)

/-- `json_escape_str`: one character of a string's body. -/
def escapeChar (c : Char) : List Char :=
  if c = '\x08' then ['\\', 'b']
  else if c = '\n' then ['\\', 'n']
  else if c = '\r' then ['\\', 'r']
  else if c = '\t' then ['\\', 't']
  else if c = '\x0c' then ['\\', 'f']
  else if c = '"' then ['\\', '"']
  else if c = '\\' then ['\\', '\\']
  else if c = '/' then ['\\', '/']
  else if c.toNat < 32 then ['\\', 'u', '0', '0', hexDigit (c.toNat / 16), hexDigit (c.toNat % 16)]
  else [c]

/-- A string literal. -/
def quote (s : String) : String := ⟨'"' :: (s.data.flatMap escapeChar ++ ['"'])⟩

mutual

/-- `json_object_to_json_string`, spaced: `{ "k": v, ... }` and `[ v, ... ]`. -/
def render : Json → String
  | .bool b => if b then "true" else "false"
  | .int n => toString n
  | .str s => quote s
  | .arr [] => "[ ]"
  | .arr xs => "[ " ++ ", ".intercalate (renderAll xs) ++ " ]"
  | .obj [] => "\x7b \x7d"
  | .obj fs => "\x7b " ++ ", ".intercalate (renderFields fs) ++ " \x7d"

def renderAll : List Json → List String
  | [] => []
  | x :: xs => render x :: renderAll xs

def renderFields : List (String × Json) → List String
  | [] => []
  | (k, v) :: fs => (quote k ++ ": " ++ render v) :: renderFields fs

end

/-! ## Reading back -/

/-- JSON white space. -/
def isWs (c : Char) : Bool := c = ' ' || c = '\t' || c = '\n' || c = '\r'

/-- The value of a hexadecimal digit. -/
def hexVal (c : Char) : Option Nat :=
  if c.isDigit then some (c.toNat - 48)
  else if 'a' ≤ c ∧ c ≤ 'f' then some (c.toNat - 87)
  else if 'A' ≤ c ∧ c ≤ 'F' then some (c.toNat - 55)
  else none

/-- The character a one-letter escape stands for. -/
def unescape : Char → Option Char
  | 'b' => some '\x08'
  | 'n' => some '\n'
  | 'r' => some '\r'
  | 't' => some '\t'
  | 'f' => some '\x0c'
  | '"' => some '"'
  | '\\' => some '\\'
  | '/' => some '/'
  | _ => none

/-- A string's body after its opening quote, `acc` holding what was read, reversed; a
`\u` escape is read for the code points below 128 that fit one byte. -/
def parseStr : List Char → List Char → Option (String × List Char)
  | acc, '"' :: cs => some (⟨acc.reverse⟩, cs)
  | acc, '\\' :: 'u' :: a :: b :: c :: d :: cs =>
    match hexVal a, hexVal b, hexVal c, hexVal d with
    | some va, some vb, some vc, some vd =>
      let v := ((va * 16 + vb) * 16 + vc) * 16 + vd
      if v < 128 then parseStr (Char.ofNat v :: acc) cs else none
    | _, _, _, _ => none
  | acc, '\\' :: e :: cs =>
    match unescape e with
    | some c => parseStr (c :: acc) cs
    | none => none
  | acc, c :: cs => parseStr (c :: acc) cs
  | _, [] => none

/-- Decimal digits, most significant first, onto `acc`. -/
def parseDigits : Nat → List Char → Nat × List Char
  | acc, c :: cs => if c.isDigit then parseDigits (acc * 10 + (c.toNat - 48)) cs else (acc, c :: cs)
  | acc, [] => (acc, [])

/-- An integer: an optional minus sign and at least one digit. -/
def parseInt : List Char → Option (Int × List Char)
  | '-' :: c :: cs =>
    if c.isDigit then
      let r := parseDigits (c.toNat - 48) cs
      some (-(r.1 : Int), r.2)
    else none
  | c :: cs =>
    if c.isDigit then
      let r := parseDigits (c.toNat - 48) cs
      some ((r.1 : Int), r.2)
    else none
  | [] => none

mutual

/-- One value after optional white space; `fuel` bounds the nesting. -/
def parseValue : Nat → List Char → Option (Json × List Char)
  | 0, _ => none
  | n + 1, cs =>
    match cs.dropWhile isWs with
    | '{' :: rest =>
      match rest.dropWhile isWs with
      | '}' :: rest' => some (.obj [], rest')
      | rest' => parseFields n rest' []
    | '[' :: rest =>
      match rest.dropWhile isWs with
      | ']' :: rest' => some (.arr [], rest')
      | rest' => parseElems n rest' []
    | '"' :: rest => (parseStr [] rest).map fun r => (.str r.1, r.2)
    | 't' :: 'r' :: 'u' :: 'e' :: rest => some (.bool true, rest)
    | 'f' :: 'a' :: 'l' :: 's' :: 'e' :: rest => some (.bool false, rest)
    | rest => (parseInt rest).map fun r => (.int r.1, r.2)

/-- The members of an object after its `{`, `acc` holding those read, reversed. -/
def parseFields : Nat → List Char → List (String × Json) → Option (Json × List Char)
  | 0, _, _ => none
  | n + 1, cs, acc =>
    match cs.dropWhile isWs with
    | '"' :: rest =>
      match parseStr [] rest with
      | some (k, r) =>
        match r.dropWhile isWs with
        | ':' :: r' =>
          match parseValue n r' with
          | some (v, r'') =>
            match r''.dropWhile isWs with
            | ',' :: r3 => parseFields n r3 ((k, v) :: acc)
            | '}' :: r3 => some (.obj ((k, v) :: acc).reverse, r3)
            | _ => none
          | none => none
        | _ => none
      | none => none
    | _ => none

/-- The elements of an array after its `[`, `acc` holding those read, reversed. -/
def parseElems : Nat → List Char → List Json → Option (Json × List Char)
  | 0, _, _ => none
  | n + 1, cs, acc =>
    match parseValue n cs with
    | some (v, r) =>
      match r.dropWhile isWs with
      | ',' :: r' => parseElems n r' (v :: acc)
      | ']' :: r' => some (.arr (v :: acc).reverse, r')
      | _ => none
    | none => none

end

/-- `json_tokener_parse`: the first value of the text; what follows it is not read. Every
nesting level reads at least one character, so the text's length is enough fuel. -/
def tokenerParse (s : String) : Option Json := (parseValue (s.length + 1) s.data).map (·.1)

/-! ## Reading fields -/

/-- `json_object_object_get_ex`: a field of an object; json-c keeps the last value added
under a key. -/
def getEx : Json → String → Option Json
  | .obj fs, k => (fs.reverse.find? (·.1 == k)).map (·.2)
  | _, _ => none

/-- `json_object_get_string`: a string's contents, or the printed form of any other value. -/
def getString : Json → String
  | .str s => s
  | j => render j

end Json

/-! ## `pgraft_json.c` -/

/-- The key/value operation a replicated entry carries. -/
inductive KvRequest
  | put (key value : String)
  | delete (key : String)
deriving DecidableEq, Repr

/-- `pgraft_json_parse_kv_operation`: every failure is an `ERROR`, with the message the code
raises. The strings it copies out are C strings, cut at a NUL. -/
def pgraftJsonParseKvOperation (jsonData : String) : Except String KvRequest :=
  match Json.tokenerParse jsonData with
  | none => .error "pgraft_json: failed to parse JSON"
  | some j =>
    match j.getEx "type" with
    | none => .error "pgraft_json: missing \x27type\x27 field in JSON"
    | some t =>
      match j.getEx "key" with
      | none => .error "pgraft_json: missing \x27key\x27 field in JSON"
      | some k =>
        if cStr t.getString = "kv_put" then
          match j.getEx "value" with
          | none => .error "pgraft_json: missing \x27value\x27 field in PUT operation"
          | some v => .ok (.put (cStr k.getString) (cStr v.getString))
        else if cStr t.getString = "kv_delete" then .ok (.delete (cStr k.getString))
        else .error ("pgraft_json: unknown operation type: " ++ cStr t.getString)

/-- The object `pgraft_json_create_kv_operation` builds: a value only for a put that has one. -/
def kvOperationJson (opType : String) (key : String) (value : Option String) (now : Int)
    (clientId : String) : Json :=
  .obj ([("type", .str opType), ("key", .str key)] ++
    (match value with
      | some v => if opType = "kv_put" then [("value", .str v)] else []
      | none => []) ++
    [("timestamp", .int now), ("client_id", .str clientId)])

/-- `pgraft_json_create_kv_operation` for `PGRAFT_KV_PUT` (`1`) and `PGRAFT_KV_DELETE` (`2`),
into a buffer of `bufferSize` bytes. -/
def pgraftJsonCreateKvOperation (opType : Int) (key : String) (value : Option String)
    (clientId : String) (now : Int) (bufferSize : Nat) : Except String String :=
  let typeName := if opType = 1 then some "kv_put" else if opType = 2 then some "kv_delete" else none
  match typeName with
  | none => .error ("pgraft_json: unknown KV operation type: " ++ toString opType)
  | some t =>
    let text := (kvOperationJson t key value now clientId).render
    if text.length ≥ bufferSize then
      .error ("pgraft_json: KV operation JSON string too long for buffer (len=" ++
        toString text.length ++ ", max=" ++ toString (bufferSize - 1) ++ ")")
    else .ok text

end Pgraft
