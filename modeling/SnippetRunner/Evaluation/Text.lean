import SnippetRunner.Evaluation.Kind

/-!
# Texts of values

How a value is written inside a list, and how it is printed. A class of the snippet may say so
itself. A container inside itself is shown by dots.
-/

namespace SnippetRunner.Evaluation

/-- The number of an address. -/
def addressNumber (address : Nat) : Nat := 0x7f0000000000 + address * 64

/-- An address as it is shown. -/
def addressText (address : Nat) : String := "0x" ++ Text.hexText (addressNumber address)

/-- The name of a known type with the place it is from. -/
def fullTypeName (name : String) : String :=
  if name == "_CaptureLog" then "snipbox.sandbox.context._CaptureLog" else Fault.displayName name

/-- The name of a class with the program it is from. -/
def Heap.fullKindName (h : Heap) (kind : Value) : String :=
  match h.class? kind with
  | none => fullTypeName (h.kindName kind)
  | some c =>
    match c.attributes.get? "__module__" with
    | some (.text module) => module ++ "." ++ c.qualname
    | _ => c.qualname

/-- An object of which nothing but its type is shown. -/
def Heap.plainText (h : Heap) (v : Value) : String :=
  let address := match v with
    | .ref address => address
    | _ => 0
  s!"<{h.fullKindName (h.typeOf v)} object at {addressText address}>"

/-- A text that a method of the snippet gave. -/
def textAnswer (method : String) (v : Value) : Native String := do
  match v with
  | .text s => return s
  | _ =>
    let h ← Native.heap
    Native.typeError s!"{method} returned non-string (type {h.typeName v})"

/-- The log as it is written inside a list. -/
def logText : String := s!"<snipbox.sandbox.context._CaptureLog object at {addressText 3}>"

/-- An own binding as it is written inside a list. -/
def OwnBinding.text : OwnBinding → String
  | .print => s!"<function _make_print.<locals>.capture_print at {addressText 1}>"
  | .importer _ => s!"<function _make_import.<locals>.guarded_import at {addressText 2}>"
  | .log => logText
  | .logLevel name => s!"<bound method _CaptureLog.{name} of {logText}>"
  | .logWrite =>
    s!"<function SandboxContextBuilder.build.<locals>.<lambda> at {addressText 8}>"
  | .callLater => timerText "call_later"
  | .callEvery => timerText "call_every"
  | .cancelCall => timerText "cancel_call"
  | .cancelEvery => timerText "cancel_every"
where
  /-- A method of the timer queue. -/
  timerText (name : String) : String :=
    let owner := s!"<snipbox.sandbox.timers.TimerQueue object at {addressText 4}>"
    s!"<bound method TimerQueue.{name} of {owner}>"

/-- An integer in decimal digits. -/
def decimalOf (n : Int) : Native String :=
  match Number.decimal? n with
  | some digits => return digits
  | none => Native.valueError (Number.lengthComplaint "")

/-- A complex number as it is written inside a list. -/
def complexText (re im : Float) : String :=
  let part (x : Float) : String :=
    let shown := Number.floatText x
    if shown.endsWith ".0" then String.ofList (shown.toList.dropLast.dropLast) else shown
  let signed (x : Float) : String :=
    let shown := part x
    if shown.startsWith "-" then shown else "+" ++ shown
  if re == 0.0 && ! Number.isNegative re then part im ++ "j"
  else "(" ++ part re ++ signed im ++ "j)"

/-- A known function as it is written inside a list. -/
def builtinText (name : String) : String :=
  match Text.parts '.' name with
  | [owner, member] =>
    if owner == "math" || owner == "json" then s!"<built-in function {member}>"
    else if (KnownType.slotFields owner).contains member then
      s!"<member '{member}' of '{owner}' objects>"
    else if KnownType.isField name then
      s!"<attribute '{member}' of '{owner}' objects>"
    else if member == "__new__" then
      s!"<built-in method __new__ of type object at {addressText 6}>"
    else if member.startsWith "__" then s!"<slot wrapper '{member}' of '{owner}' objects>"
    else s!"<method '{member}' of '{owner}' objects>"
  | _ => s!"<built-in function {name}>"

/-- What a container shows in place of itself. -/
def repeatedText (h : Heap) (address : Nat) : String :=
  match h.get? address with
  | some (.list _) => "[...]"
  | some (.set _ _) => h.typeName (.ref address) ++ "(...)"
  | some (.view aspect _) => aspect.typeName ++ "(...)"
  | _ => "\x7b...\x7d"

/-- A byte string that can be changed, with the name of its type before it. -/
def bufferText (h : Heap) (v : Value) (bs : List UInt8) : String :=
  h.typeName v ++ "(" ++ Text.quotedBytes bs ++ ")"

/-- A set from the texts of its items; `kind` is the name of its type. -/
def setText (kind : String) (texts : List String) : String :=
  let shown := "\x7b" ++ String.intercalate ", " texts ++ "\x7d"
  if texts.isEmpty then kind ++ "()" else if kind == "set" then shown else s!"{kind}({shown})"

/-- An error as it is written inside a list, from the texts of its arguments. -/
def errorShape (h : Heap) (e : Error) (args : List String) : String :=
  h.kindName e.kind ++ "(" ++ String.intercalate ", " args ++ ")"

/-- A value as it is written inside a list; `seen` are the containers around it, and `fuel` bounds
the depth. -/
def inspectIn : Nat → List Nat → Value → Native String
  | 0, _, _ => Native.tooDeep " while getting the repr of an object"
  | fuel + 1, seen, v => do
    let h ← Native.heap
    match v with
    | .none => return "None"
    | .notImplemented => return "NotImplemented"
    | .ellipsis => return "Ellipsis"
    | .bool b => return Data.boolText b
    | .int n => decimalOf n
    | .float x => return Number.floatText x
    | .nan _ => return Number.floatText Value.notNumber
    | .complex re im => return complexText re im
    | .text s => return Text.quoted s
    | .bytes bs => return Text.quotedBytes bs
    | .tuple items => return Data.tupleText (← items.mapM (inspectIn fuel seen))
    | .range start stop step =>
      if step = 1 then return s!"range({start}, {stop})"
      else return s!"range({start}, {stop}, {step})"
    | .slice lower upper step =>
      let parts ← [lower, upper, step].mapM (inspectIn fuel seen)
      return "slice" ++ Data.tupleText parts
    | .type name => return s!"<class '{fullTypeName name}'>"
    | .builtin name => return builtinText name
    | .method self name =>
      let address := addressText 5
      if name.startsWith "__" then
        return s!"<method-wrapper '{name}' of {h.typeName self} object at {address}>"
      else return s!"<built-in method {name} of {h.typeName self} object at {address}>"
    | .bound self function =>
      let name := match function with
        | .ref address =>
          match h.get? address with
          | some (.function f) => f.qualname
          | _ => "?"
        | _ => "?"
      return s!"<bound method {name} of {← inspectIn fuel seen self}>"
    | .own binding => return binding.text
    | .ref address =>
      if seen.contains address then return repeatedText h address
      else
        let inner := inspectIn fuel (address :: seen)
        match h.get? address with
        | some (.list items) => return Data.listText (← items.toList.mapM inner)
        | some (.mapping entries) =>
          return Data.mappingText
            (← entries.toList.mapM fun (k, w) => return (← inner k, ← inner w))
        | some (.names table) =>
          return Data.mappingText (← table.mapM fun (k, w) => return (Text.quoted k, ← inner w))
        | some (.members owner fixed) =>
          let shown := Data.mappingText
            (← (h.shownAttributes owner).mapM fun (k, w) => return (Text.quoted k, ← inner w))
          return if fixed then s!"mappingproxy({shown})" else shown
        | some (.set frozen keys) =>
          return setText (if frozen then "frozenset" else "set") (← keys.toList.mapM inner)
        | some (.view aspect mapping) =>
          let entries := (h.mapping? (.ref mapping)).getD {}
          let items := match aspect with
            | .keys => entries.keys
            | .values => entries.values
            | .items => entries.toList.map fun (k, w) => .tuple [k, w]
          return aspect.typeName ++ "(" ++ Data.listText (← items.mapM inner) ++ ")"
        | some (.function f) => return s!"<function {f.qualname} at {addressText address}>"
        | some (.class_ _) => return s!"<class '{h.fullKindName v}'>"
        | some (.union kinds) =>
          let texts ← kinds.mapM fun kind =>
            match kind with
            | .type "NoneType" => pure "None"
            | kind => if h.isKind kind then pure (h.fullKindName kind) else inner kind
          return String.intercalate " | " texts
        | some (.generic origin args) =>
          let texts ← args.mapM fun arg =>
            match arg with
            | .ellipsis => pure "..."
            | arg => if h.isKind arg then pure (h.fullKindName arg) else inner arg
          return h.fullKindName origin ++ "[" ++
            (if args.isEmpty then "()" else String.intercalate ", " texts) ++ "]"
        | some (.super start self) =>
          let owner := match self with
            | .none => "NULL"
            | _ => s!"<{h.kindName (if h.isKind self then self else h.typeOf self)} object>"
          return s!"<super: <class '{h.kindName start}'>, {owner}>"
        | some (.code function) =>
          match h.get? function with
          | some (.function f) =>
            let place := s!"file \"{f.file}\", line {f.line}"
            return s!"<code object {f.name} at {addressText address}, {place}>"
          | _ => return h.plainText v
        | some (.slot owner name) =>
          return s!"<member '{name}' of '{h.kindName (.ref owner)}' objects>"
        | some (.cell scope name) =>
          let shown := match h.get? scope with
            | some (.scope s) =>
              match s.table.get? name with
              | some w => s!"{h.typeName w} object at {addressText (address + 1)}"
              | none => "empty"
            | _ => "empty"
          return s!"<cell at {addressText address}: {shown}>"
        | some (.buffer bs) => return bufferText h v bs
        | some (.module name _) => return s!"<module '{name}' (built-in)>"
        | some (.generator kind name _) =>
          return s!"<{kind.typeName} object {name} at {addressText address}>"
        | some (.error e) =>
          match h.special? v "__repr__" with
          | some method => textAnswer "__repr__" (← askMethod v method [])
          | none => return errorShape h e (← e.args.mapM inner)
        | some (.instance_ _ _ content) =>
          match h.special? v "__repr__" with
          | some method => textAnswer "__repr__" (← askMethod v method [])
          | none =>
            match content, h.set? content, h.buffer? content with
            | .none, _, _ => return h.plainText v
            | _, some keys, _ => return setText (h.typeName v) (← keys.toList.mapM inner)
            | _, none, some (_, bs) => return bufferText h v bs
            | _, none, none => inner content
        | _ => return h.plainText v

/-- A value as it is written inside a list. -/
def inspect (v : Value) : Native String := do inspectIn (← Native.room) [] v

/-- What a codec says about the part of a text or of bytes that it has no place for. -/
def codecText? (args : List Value) : Option String :=
  let place (noun codec verb shown reason : String) (start stop : Int) : String :=
    let where_ := if stop = start + 1 then s!"{noun} {shown} in position {start}"
      else s!"{noun}s in position {start}-{stop - 1}"
    s!"'{codec}' codec can't {verb} {where_}: {reason}"
  match args with
  | [.text codec, .bytes bs, .int start, .int stop, .text reason] =>
    let shown := (bs[start.toNat]?).map fun b => "0x" ++ Text.hexPadded 2 b.toNat
    some (place "byte" codec "decode" (shown.getD "") reason start stop)
  | [.text codec, .text s, .int start, .int stop, .text reason] =>
    let shown := (s.toList[start.toNat]?).map fun c => s!"'{Text.numberEscape c}'"
    some (place "character" codec "encode" (shown.getD "") reason start stop)
  | _ => none

/-- The text of an error from its arguments. -/
def argumentsText (known : String) (args : List Value) (show_ : Value → Native String) :
    Native String :=
  match args with
  | [] => return ""
  | [single] => if Fault.isKindOf known "KeyError" then inspect single else show_ single
  | _ => inspect (.tuple args)

/-- The text of a group of errors. -/
def groupText? (e : Error) : Option String :=
  match e.details.get? "message", e.details.get? "exceptions" with
  | some (.text message), some (.tuple members) =>
    let plural := if members.length = 1 then "" else "s"
    some s!"{message} ({members.length} sub-exception{plural})"
  | _, _ => none

/-- The text of an error by the rules for known kinds. -/
def errorText (h : Heap) (e : Error) (show_ : Value → Native String) : Native String :=
  let known := h.knownErrorKind e.kind
  if let some text := groupText? e then return text
  else match Fault.isKindOf known "UnicodeError", codecText? e.args, e.details.get? "msg" with
  | true, some text, _ => return text
  | _, _, some (.text message) => return message
  | _, _, _ => argumentsText known e.args show_

/-- A value as it is printed; `fuel` bounds how many errors are shown inside each other. -/
def showIn : Nat → Value → Native String
  | 0, v => inspect v
  | fuel + 1, v => do
    let h ← Native.heap
    match v with
    | .text s => return s
    | .ref address =>
      match h.get? address with
      | some (.error e) =>
        match h.special? v "__str__" with
        | some method => textAnswer "__str__" (← askMethod v method [])
        | none => errorText h e (showIn fuel)
      | some (.instance_ _ _ content) =>
        match h.special? v "__str__", (h.special? v "__repr__").isSome, content with
        | some method, _, _ => textAnswer "__str__" (← askMethod v method [])
        | none, false, .text s => return s
        | none, _, _ => inspect v
      | _ => inspect v
    | _ => inspect v

/-- A value as it is printed. -/
def textOf (v : Value) : Native String := do showIn (← Native.room) v

/-- A value as it is written inside a list when its class is not asked. -/
def plainInspect (v : Value) : Native String := do
  let h ← Native.heap
  match v, h.content? v with
  | _, some content =>
    if let some (_, bs) := h.buffer? v then return bufferText h v bs
    match h.set? content with
    | some keys => return setText (h.typeName v) (← keys.toList.mapM inspect)
    | none => inspect content
  | .ref address, none =>
    match h.get? address with
    | some (.error e) => return errorShape h e (← e.args.mapM inspect)
    | some (.instance_ _ _ _) => return h.plainText v
    | _ => inspect v
  | _, none => inspect v

/-- A value as it is printed when its class is not asked. -/
def plainTextOf (v : Value) : Native String := do
  let h ← Native.heap
  match v, h.text? v with
  | _, some s => return s
  | .ref address, none =>
    match h.error? address with
    | some e => errorText h e textOf
    | none => inspect v
  | _, none => inspect v

end SnippetRunner.Evaluation
