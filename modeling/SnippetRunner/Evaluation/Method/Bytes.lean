import SnippetRunner.Evaluation.Method.Text

/-!
# Methods of byte strings

A byte string is searched, cut and joined like the text that it is taken for.
-/

namespace SnippetRunner.Evaluation

/-- The complaint about a value that is no byte string. -/
def noBytes {α : Type} (v : Value) : Native α := do
  Native.typeError s!"a bytes-like object is required, not '{(← Native.heap).typeName v}'"

/-- An argument that has to be a byte string, as a text. -/
def bytesArgument (v : Value) : Native Value := do
  match ← bytes? v with
  | some bs => return .text (byteText bs)
  | none => noBytes v

/-- What is looked for in a byte string: another one, or a byte as an integer. -/
def soughtBytes (v : Value) : Native Value := do
  match ← bytes? v, ((← Native.heap).core v).int? with
  | some bs, _ => return .text (byteText bs)
  | none, some n =>
    if 0 ≤ n ∧ n < 256 then return .text (byteText [n.toNat.toUInt8])
    else Native.valueError "byte must be in range(0, 256)"
  | none, none =>
    Native.typeError
      ("argument should be integer or bytes-like object, not "
        ++ s!"'{(← Native.heap).typeName v}'")

/-- What a byte string may start or end with. -/
def metBytes (name : String) (v : Value) : Native Value := do
  match ← bytes? v, v with
  | some bs, _ => return .text (byteText bs)
  | none, .tuple parts => return .tuple (← parts.mapM bytesArgument)
  | none, _ =>
    Native.typeError
      (s!"{name} first arg must be bytes or a tuple of bytes, not "
        ++ (← Native.heap).typeName v)

/-- The arguments of a method as those of the same method of texts. -/
def bytesArguments (name : String) (args : List Value) : Native (List Value) := do
  match name, args with
  | "find", v :: rest | "rfind", v :: rest | "index", v :: rest | "rindex", v :: rest
  | "count", v :: rest => return (← soughtBytes v) :: rest
  | "startswith", v :: rest | "endswith", v :: rest => return (← metBytes name v) :: rest
  | "replace", old :: new :: rest =>
    return [← bytesArgument old, ← bytesArgument new] ++ rest
  | "ljust", [width, fill] | "rjust", [width, fill] | "center", [width, fill] =>
    match ← bytes? fill with
    | some [b] => return [width, .text (byteText [b])]
    | _ =>
      Native.typeError (s!"{name}() argument 2 must be a byte string of length 1, not "
        ++ (← Native.heap).typeName fill)
  | "strip", v :: rest | "lstrip", v :: rest | "rstrip", v :: rest | "split", v :: rest
  | "rsplit", v :: rest =>
    match v with
    | .none => return args
    | _ => return (← bytesArgument v) :: rest
  | "partition", [v] | "rpartition", [v] | "removeprefix", [v] | "removesuffix", [v] =>
    return [← bytesArgument v]
  | "join", [v] =>
    if ! (← Native.heap).isIterable v then Native.typeError "can only join an iterable"
    let parts ← (← itemsOf v).zipIdx.mapM fun (item, i) => do
      match ← bytes? item with
      | some bs => return Value.text (byteText bs)
      | none =>
        Native.typeError (s!"sequence item {i}: expected a bytes-like object, "
          ++ s!"{(← Native.heap).typeName item} found")
    return [.tuple parts]
  | _, _ => return args

/-- What a method of texts gave, for a byte string. -/
def bytesAnswer (self v : Value) : Native Value := do
  let back : Value → Native Value
    | .text s => bytesLike self (textBytes s)
    | v => return v
  match v, (← Native.heap).list? v with
  | _, some items => newList (← items.toList.mapM back)
  | .tuple items, none => return .tuple (← items.mapM back)
  | _, none => back v

/-- The lines of a byte string, which end with a newline, a carriage return or both. -/
def byteLines (keep : Bool) (line : List UInt8) : List UInt8 → List (List UInt8)
  | [] => if line.isEmpty then [] else [line.reverse]
  | 13 :: 10 :: rest =>
    (if keep then 10 :: 13 :: line else line).reverse :: byteLines keep [] rest
  | b :: rest =>
    if b == 10 || b == 13 then
      (if keep then b :: line else line).reverse :: byteLines keep [] rest
    else byteLines keep (b :: line) rest

/-- Bytes in hexadecimal digits. With a separator it stands between groups of so many bytes, which
are counted from the end, or from the start if their number is negative. -/
def hexOf (bs : List UInt8) (separator : String) (group : Int) : String :=
  let digits := bs.map fun b => Text.hexPadded 2 b.toNat
  let n := group.natAbs
  let n := if n = 0 then bs.length else n
  let place (i : Nat) : Nat := if 0 < group then bs.length - i else i
  String.join (digits.zipIdx.map fun (d, i) =>
    if i = 0 || n = 0 || place i % n ≠ 0 then d else separator ++ d)

/-- The bytes that hexadecimal digits write; or the place of what is none. -/
def bytesOfHex (place : Nat) : List Char → Except Nat (List UInt8)
  | [] => .ok []
  | [c] => if Text.isAsciiBlank c then .ok [] else
      .error (if (Text.hexDigit? c).isSome then place + 1 else place)
  | c :: d :: rest =>
    if Text.isAsciiBlank c then bytesOfHex (place + 1) (d :: rest)
    else match Text.hexDigit? c, Text.hexDigit? d with
      | some high, some low =>
        (bytesOfHex (place + 2) rest).map ((16 * high + low).toUInt8 :: ·)
      | some _, none => .error (place + 1)
      | none, _ => .error place

/-- The bytes that the argument of `fromhex` writes. -/
def bytesFromHex (v : Value) : Native Value := do
  match (← Native.heap).text? v with
  | none =>
    Native.typeError s!"fromhex() argument must be str, not {← argumentType v}"
  | some s =>
    match bytesOfHex 0 s.toList with
    | .ok bs => return .bytes bs
    | .error place =>
      Native.valueError
        s!"non-hexadecimal number found in fromhex() arg at position {place}"

/-- A table for `translate`: what each byte becomes. -/
def byteTable (source target : Value) : Native Value := do
  let given (v : Value) : Native (List UInt8) := do
    match ← bytes? v with
    | some bs => return bs
    | none => noBytes v
  let source ← given source
  let target ← given target
  if source.length ≠ target.length then
    Native.valueError "maketrans arguments must have same length"
  let changes := (source.zip target).reverse
  return .bytes ((List.range 256).map fun (i : Nat) =>
    (changes.lookup i.toUInt8).getD i.toUInt8)

/-- The bytes that a table makes of bytes, without those that are left out. -/
def translatedBytes (bs : List UInt8) (table deleted : Value) : Native (List UInt8) := do
  let removed ← match deleted, ← bytes? deleted with
    | .none, _ => pure []
    | _, some removed => pure removed
    | v, none => noBytes v
  let kept := bs.filter fun b => ! removed.contains b
  match table, ← bytes? table with
  | .none, _ => return kept
  | _, some table =>
    if table.length ≠ 256 then
      Native.valueError "translation table must be 256 characters long"
    else return kept.map fun b => (table[b.toNat]?).getD b
  | v, none => noBytes v

/-- A method of a byte string. -/
def bytesMethod (self : Value) (bs : List UInt8) (name : String) (args : List Value) :
    Native Value := do
  match name, args with
  | "translate", table :: rest => bytesLike self (← translatedBytes bs table (rest.headD .none))
  | "decode", _ =>
    let (codec, errors) ← codecArguments "decode" args
    return .text (← decoded bs codec errors)
  | "hex", _ =>
    let separator ← match args with
      | [] => pure ""
      | v :: _ =>
        match (← Native.heap).text? v with
        | some s =>
          if s.length = 1 then pure s else Native.valueError "sep must be length 1."
        | none => Native.typeError "sep must be str or bytes."
    return .text (hexOf bs separator (← wordArgument ((args[1]?).getD (.int 1))))
  | "isascii", _ => return .bool (bs.all fun b => b.toNat < 128)
  | "splitlines", _ =>
    let keep ← wordArgument (args.headD (.int 0))
    newList (← (byteLines (keep != 0) [] bs).mapM (bytesLike self))
  | _, _ =>
    try bytesAnswer self (← textMethod (byteText bs) name (← bytesArguments name args) []) catch
      | .fail error fresh => do
        let missing := ((← Native.heap).error? error).any fun e =>
          match e.args with
          | [.text "substring not found"] => true
          | _ => false
        if missing then Native.valueError "subsection not found" else throw (.fail error fresh)
      | halt => throw halt

/-! ## Byte strings that can be changed -/

/-- Takes a byte out of a byte string that can be changed. -/
def popByte (address : Nat) (bs : List UInt8) (args : List Value) : Native Value := do
  let n ← sizeArgument (args.headD (.int (-1)))
  if bs.isEmpty then Native.fail "IndexError" "pop from empty bytearray"
  match placeOf? n bs.length with
  | some i =>
    setBuffer address (bs.eraseIdx i)
    return .int ((bs[i]?).getD 0).toNat
  | none => Native.fail "IndexError" "pop index out of range"

/-- The bytes that another byte string or an iterable of bytes adds. -/
def addedBytes (more : Value) : Native (List UInt8) := do
  let h ← Native.heap
  if (h.text? more).isSome then
    Native.typeError s!"expected iterable of integers; got: '{h.typeName more}'"
  else if ! h.isIterable more then
    Native.typeError s!"can't extend bytearray with {h.typeName more}"
  else bytesIn more

/-- A method of the byte string at an address, which can be changed; `self` is the value that it
belongs to. -/
def bufferMethod (self : Value) (address : Nat) (bs : List UInt8) (name : String)
    (args : List Value) : Native Value := do
  let change (bs : List UInt8) : Native Value := do
    setBuffer address bs
    return .none
  match name, args with
  | "append", [v] => change (bs ++ [← byteOf v])
  | "extend", [more] => change (bs ++ (← addedBytes more))
  | "insert", [place, v] =>
    let n ← sizeArgument place
    let b ← byteOf v
    let i := (if n < 0 then max 0 (n + bs.length) else min n bs.length).toNat
    change (bs.take i ++ b :: bs.drop i)
  | "pop", _ => popByte address bs args
  | "remove", [v] =>
    match bs.findIdx? (· == (← byteOf v)) with
    | some i => change (bs.eraseIdx i)
    | none => Native.valueError "value not found in bytearray"
  | "reverse", _ => change bs.reverse
  | "clear", _ => change []
  | "copy", _ => Native.allocate (.buffer bs)
  | _, _ => bytesMethod self bs name args

end SnippetRunner.Evaluation
