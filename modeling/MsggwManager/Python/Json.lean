import MsggwManager.Python.Int

/-!
# Decoded JSON, and what the script does with it

`resp.json()` yields `None`, a `bool`, an `int`, a `str`, a `list` or a `dict`: a `JVal`. A JSON
number with a fraction or an exponent decodes to a `float`, which is not modelled. The script
reads such values in five ways, each a function here: `d.get(key, default)` (`JVal.get`), truth
tests (`JVal.truthy`), `==` against an `int` or a `str` (`JVal.eqInt`, `JVal.eqStr`), `for x in v`
(`JVal.iter`), and `str(v)` (`JVal.toStr`, through `repr` for what is inside a list or a dict).

The tables the script prints also take `len(v)`, `v > 0`, `v[:n]` and `format(v, "<w")` of values
the gateway sent, and each raises on some of them. The printed text is not modelled; whether
printing raises is (`JVal.len`, `JVal.gtZero`, `JVal.slice`, `JVal.formatAligned`).

`repr` of a string follows CPython's `unicode_repr`: the quote it picks, the escapes of `\`, the
quote, `\t`, `\n`, `\r` and the other ASCII control characters, and `\xhh`, `\uhhhh` or
`\Uhhhhhhhh` for every character above ASCII that `str.isprintable` rejects
(`nonPrintableRanges`). The text matters: `add_numbers_to_client` looks for `already exists` in
`str(body)` (`alreadyExists`).

A `JVal` string is a Lean `String`, a sequence of Unicode scalar values, so the model's gateway
answers only such strings. `json.loads` also decodes an escape of a lone surrogate (`"\ud800"`) to
a one-character `str`, which `print` cannot encode: a gateway answer holding one is outside the
model.
-/

namespace MsggwManager

/-- The exceptions the modelled code raises. All but the last are Python's. -/
inductive Exc
  /-- `input()` or `getpass()` at end of input, or on Ctrl+D. -/
  | eofError
  /-- Ctrl+C at a prompt. -/
  | keyboardInterrupt
  /-- `sys.exit(code)`. -/
  | systemExit (code : Nat)
  /-- `int()` of a string that is not an integer literal. -/
  | valueError
  /-- `resp.json()` on a body that is not JSON (a `ValueError` too). -/
  | jsonDecodeError
  /-- `str.encode("latin1")` of a character above `U+00FF` (a `ValueError` too). -/
  | unicodeEncodeError
  /-- `.get` on a value that is not a dict. -/
  | attributeError
  /-- `for x in v` on a value that cannot be iterated. -/
  | typeError
  /-- Not Python's: the world's supply of random draws ran out inside `generate_password`,
  whose real source never does. -/
  | entropyExhausted
  deriving Repr, DecidableEq

/-- A decoded JSON value. A dict's fields are in document order, keys distinct. -/
inductive JVal where
  | null
  | bool (b : Bool)
  | num (n : Int)
  | str (s : String)
  | arr (items : List JVal)
  | obj (fields : List (String × JVal))
  deriving Repr, Inhabited

namespace JVal

/-- `d.get(key, default)`. -/
def get (v : JVal) (key : String) (default : JVal) : Except Exc JVal :=
  match v with
  | .obj fields => .ok ((fields.lookup key).getD default)
  | _ => .error .attributeError

/-- Python's truth value. -/
def truthy : JVal → Bool
  | .null => false
  | .bool b => b
  | .num n => n != 0
  | .str s => !s.isEmpty
  | .arr items => !items.isEmpty
  | .obj fields => !fields.isEmpty

/-- `v == i` for an `int` `i` (`True == 1`). -/
def eqInt : JVal → Int → Bool
  | .num n, i => n == i
  | .bool b, i => (if b then 1 else 0) == i
  | _, _ => false

/-- `v == s` for a `str` `s`. -/
def eqStr : JVal → String → Bool
  | .str t, s => t == s
  | _, _ => false

/-- `for x in v`: a list's items, a dict's keys, a string's characters. -/
def iter : JVal → Except Exc (List JVal)
  | .arr items => .ok items
  | .obj fields => .ok (fields.map fun kv => .str kv.1)
  | .str s => .ok (s.toList.map fun c => .str (String.singleton c))
  | _ => .error .typeError

/-- `v or d`. -/
def or (v d : JVal) : JVal := if v.truthy then v else d

/-- `len(v)`. -/
def len : JVal → Except Exc Nat
  | .str s => .ok s.length
  | .arr items => .ok items.length
  | .obj fields => .ok fields.length
  | _ => .error .typeError

/-- `v > 0`: an int or a bool compares with `0`; anything else raises `TypeError`. -/
def gtZero : JVal → Except Exc Bool
  | .num n => .ok (0 < n)
  | .bool b => .ok b
  | _ => .error .typeError

/-- `v[:n]`: a prefix of a string or a list. -/
def slice (v : JVal) (n : Nat) : Except Exc JVal :=
  match v with
  | .str s => .ok (.str (s.take n))
  | .arr items => .ok (.arr (items.take n))
  | _ => .error .typeError

/-- `f"{v:<w}"`: a string, an int or a bool takes an alignment; `None`, a list or a dict raises
`TypeError`. -/
def formatAligned : JVal → Except Exc Unit
  | .str _ | .num _ | .bool _ => .ok ()
  | _ => .error .typeError

end JVal

/-- The last `k` hex digits of `n`, lowercase. -/
def hexDigits (k n : Nat) : String :=
  String.mk ((List.range k).reverse.map fun i => Nat.digitChar (n / 16 ^ i % 16))

/-- The escape `repr` writes for code point `n`: `\xhh`, `\uhhhh` or `\Uhhhhhhhh`. -/
def hexEscape (n : Nat) : String :=
  if n ≤ 0xFF then "\\x" ++ hexDigits 2 n
  else if n ≤ 0xFFFF then "\\u" ++ hexDigits 4 n
  else "\\U" ++ hexDigits 8 n

/-- One character of a string's `repr` inside the quote `q`. -/
def reprChar (q c : Char) : String :=
  if c = '\\' then "\\\\"
  else if c = q then String.mk ['\\', q]
  else if c = '\t' then "\\t"
  else if c = '\n' then "\\n"
  else if c = '\r' then "\\r"
  else if c.toNat < 0x20 || c.toNat = 0x7F then hexEscape c.toNat
  else if c.toNat < 0x7F then String.singleton c
  else if inRanges nonPrintableRanges c then hexEscape c.toNat
  else String.singleton c

/-- `repr(s)` of a string: single quotes unless it holds `'` and no `"`. -/
def reprStr (s : String) : String :=
  let q := if s.toList.contains '\'' && !s.toList.contains '"' then '"' else '\''
  String.singleton q ++ String.join (s.toList.map (reprChar q)) ++ String.singleton q

mutual

/-- `repr(v)`. -/
def JVal.repr : JVal → String
  | .null => "None"
  | .bool b => if b then "True" else "False"
  | .num n => toString n
  | .str s => reprStr s
  | .arr items => "[" ++ JVal.reprItems items ++ "]"
  | .obj fields => "\x7b" ++ JVal.reprFields fields ++ "\x7d"

/-- The items of a list, `repr`ed and joined by `", "`. -/
def JVal.reprItems : List JVal → String
  | [] => ""
  | [v] => v.repr
  | v :: rest => v.repr ++ ", " ++ JVal.reprItems rest

/-- The fields of a dict, as `'key': value` joined by `", "`. -/
def JVal.reprFields : List (String × JVal) → String
  | [] => ""
  | [(k, v)] => reprStr k ++ ": " ++ v.repr
  | (k, v) :: rest => reprStr k ++ ": " ++ v.repr ++ ", " ++ JVal.reprFields rest

end

/-- `str(v)`: a string is itself, anything else its `repr`. -/
def JVal.toStr : JVal → String
  | .str s => s
  | v => v.repr

example : (JVal.obj [("error", .arr [.num 1, .null, .str "it's"])]).toStr =
    "\x7b'error': [1, None, \"it's\"]\x7d" := by decide

example : (JVal.obj [("msg", .str "\x8alert\u00ad")]).toStr =
    "\x7b'msg': '\\x8alert\\xad'\x7d" := by decide

end MsggwManager
