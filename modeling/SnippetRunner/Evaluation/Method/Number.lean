import SnippetRunner.Evaluation.Conversion
import SnippetRunner.Evaluation.Operator
import SnippetRunner.Number.Hexadecimal

/-!
# Methods of numbers

Bits, fractions and bytes of numbers.
-/

namespace SnippetRunner.Evaluation

/-- How many binary digits of a number are one; `fuel` bounds how many there are. -/
def oneBits : Nat → Nat → Nat
  | 0, _ => 0
  | fuel + 1, n => if n = 0 then 0 else n % 2 + oneBits fuel (n / 2)

/-- The bytes of a number, the lowest first. -/
def lowestFirst (n : Nat) : Nat → List UInt8
  | 0 => []
  | count + 1 => (n % 256).toUInt8 :: lowestFirst (n / 256) count

/-- Whether the highest byte comes first, by its name. -/
def byteOrder (v : Value) : Native Bool := do
  match (← Native.heap).text? v with
  | some "big" => return true
  | some "little" => return false
  | _ => Native.valueError "byteorder must be either 'little' or 'big'"

/-- An integer as bytes. -/
def bytesOfInt (n : Int) (args : List Value) : Native Value := do
  let size ← sizeArgument (args.headD (.int 1))
  let bigFirst ← byteOrder ((args[1]?).getD (.text "big"))
  let signed ← truthOf ((args[2]?).getD (.bool false))
  if size < 0 then Native.valueError "length argument must be non-negative"
  checkRoom size.toNat
  let limit : Int := Number.twoTo (8 * size.toNat)
  if ! signed && n < 0 then
    Native.fail "OverflowError" "can't convert negative int to unsigned"
  else if (if signed then limit ≤ 2 * n ∨ 2 * n < -limit else limit ≤ n) then
    Native.fail "OverflowError" "int too big to convert"
  else
    let bytes := lowestFirst (n.emod limit).toNat size.toNat
    return .bytes (if bigFirst then bytes.reverse else bytes)

/-- The integer that bytes write. -/
def intOfBytes (args : List Value) : Native Value := do
  let v := args.headD .none
  let h ← Native.heap
  let bytes ← match h.core v with
    | .bytes bs => pure bs
    | _ =>
      if (h.text? v).isSome || ! h.isIterable v then
        Native.typeError s!"cannot convert '{h.typeName v}' object to bytes"
      let ns ← (← itemsOf v).mapM intArgument
      if ns.all fun n => 0 ≤ n ∧ n < 256 then pure (ns.map fun n => n.toNat.toUInt8)
      else Native.valueError "bytes must be in range(0, 256)"
  let bigFirst ← byteOrder ((args[1]?).getD (.text "big"))
  let signed ← truthOf ((args[2]?).getD (.bool false))
  let highFirst := if bigFirst then bytes else bytes.reverse
  let n : Int := highFirst.foldl (fun acc b => 256 * acc + b.toNat) 0
  let limit : Int := Number.twoTo (8 * bytes.length)
  return .int (if signed && limit ≤ 2 * n then n - limit else n)

/-- A method of an integer. -/
def intMethod (n : Int) (name : String) (args : List Value) : Native Value := do
  match name with
  | "bit_length" => return .int (if n = 0 then 0 else n.natAbs.log2 + 1)
  | "bit_count" => return .int (oneBits (n.natAbs.log2 + 1) n.natAbs)
  | "as_integer_ratio" => return .tuple [.int n, .int 1]
  | "conjugate" => return .int n
  | "to_bytes" => bytesOfInt n args
  | _ => Native.unavailable name

/-- A float as a fraction in lowest terms. -/
def fractionOf (x : Float) : Native Value := do
  match Number.Dyadic.ofFloat x with
  | .nan => Native.valueError "cannot convert NaN to integer ratio"
  | .infinite _ => Native.fail "OverflowError" "cannot convert Infinity to integer ratio"
  | .finite negative m q =>
    let (num, den) := Number.quotientOf m q
    let divisor := max 1 (num.gcd den)
    return .tuple [.int (Number.signed negative (num / divisor)), .int (den / divisor)]

/-- A method of a float. -/
def floatMethod (x : Float) (name : String) : Native Value := do
  match name with
  | "is_integer" =>
    return .bool ((Number.truncate? x).any fun n => Number.compareInt n x == some .eq)
  | "as_integer_ratio" => fractionOf x
  | "conjugate" => return .float x
  | "hex" => return .text (Number.hexText x)
  | _ => Native.unavailable name

/-- The float that a text writes in hexadecimal digits. -/
def floatFromHex (v : Value) : Native Value := do
  match (← Native.heap).text? v with
  | none => Native.typeError "bad argument type for built-in operation"
  | some s =>
    match Number.readHexFloat s with
    | .ok x => return .float x
    | .error .malformed => Native.valueError Number.HexFault.malformed.message
    | .error .tooLarge => Native.fail "OverflowError" Number.HexFault.tooLarge.message

end SnippetRunner.Evaluation
