import SnippetRunner.Data
import SnippetRunner.Number.Reading
import SnippetRunner.Timer.Agenda

/-!
# Delays and handles from plain data

A delay is a number, or a text or ASCII byte string that reads as one. A handle is looked up like
a key of a mapping: a number counts by its value, whatever its kind.
-/

namespace SnippetRunner.Timer

/-- A delay must be a number that compares with others. -/
def numberDelay (x : Float) : Except DelayFault Float :=
  if x.isNaN then .error .notANumber else .ok x

/-- The characters of an ASCII byte string. -/
def asciiText? (bs : List UInt8) : Option String :=
  if bs.all fun b => b.toNat < 128 then some (String.ofList (bs.map fun b => Char.ofNat b.toNat))
  else none

/-- The time span that a value gives as a delay. -/
def delayOfData (v : Data) : Except DelayFault Float :=
  match v with
  | .bool b => .ok (if b then 1.0 else 0.0)
  | .int n =>
    match Number.ofInt? n with
    | some x => .ok x
    | none => .error .tooLarge
  | .float x => numberDelay x
  | .text s =>
    match Number.readFloat? s with
    | some x => numberDelay x
    | none => .error (.unreadable v.quoted)
  | .bytes bs =>
    match (asciiText? bs).bind Number.readFloat? with
    | some x => numberDelay x
    | none => .error (.unreadable v.quoted)
  | _ => .error (.notNumeric v.typeName)

/-- A natural number as a handle. -/
def keyOfInt (n : Int) : Key := if 0 ≤ n then .handle n.toNat else .foreign

/-- The handle that a value stands for. -/
def keyOfData : Data → Key
  | .bool b => .handle (if b then 1 else 0)
  | .int n => keyOfInt n
  | .float x =>
    match Number.truncate? x with
    | some n => if Number.compareInt n x == some .eq then keyOfInt n else .foreign
    | none => .foreign
  | .list _ => .unhashable "list"
  | .mapping _ => .unhashable "dict"
  | .tuple items => tupleKey items
  | _ => .foreign
where
  /-- A tuple can be looked up when all its items can. -/
  tupleKey : List Data → Key
    | [] => .foreign
    | v :: rest =>
      match keyOfData v with
      | .unhashable typeName => .unhashable typeName
      | _ => tupleKey rest

/-- What a caller is told about a delay. -/
def DelayFault.problem : DelayFault → Problem
  | .unreadable quoted => ⟨"ValueError", "could not convert string to float: " ++ quoted⟩
  | .notNumeric typeName =>
    ⟨"TypeError", s!"float() argument must be a string or a real number, not '{typeName}'"⟩
  | .notANumber => ⟨"ValueError", "timer delay must be a number"⟩
  | .tooLarge => ⟨"OverflowError", "int too large to convert to float"⟩

/-- What a caller is told about a registration. -/
def Refusal.problem : Refusal → Problem
  | .closed => ⟨"RuntimeError", "timer queue is closed"⟩
  | .notCallable typeName =>
    ⟨"TypeError", "timer callback must be callable, not " ++ typeName⟩
  | .badDelay fault => fault.problem

/-- What a caller is told about a key that cannot be looked up. -/
def BadKey.problem (bad : BadKey) : Problem := ⟨"TypeError", s!"unhashable type: '{bad.typeName}'"⟩

end SnippetRunner.Timer
