/-!
# Decimal integers

An integer is written in decimal digits, unless it has too many of them: turning so many digits
into a number or back takes more time than it is worth.
-/

namespace SnippetRunner.Number

/-- The most digits that are read or written as one integer. -/
def digitLimit : Nat := 4300

/-- What is complained about an integer with too many digits; `found` tells how many there are,
where that is known. -/
def lengthComplaint (found : String) : String :=
  s!"Exceeds the limit ({digitLimit} digits) for integer string conversion{found}; " ++
    "use sys.set_int_max_str_digits() to increase the limit"

/-- An integer in decimal digits, unless it has too many of them. A number of more than four bits
a digit certainly does. -/
def decimal? (n : Int) : Option String :=
  if 4 * digitLimit < n.natAbs.log2 then none
  else
    let digits := toString n.natAbs
    if digitLimit < digits.length then none
    else some (if n < 0 then "-" ++ digits else digits)

/-- Whether an integer has too many digits to be written. -/
def isTooLong (n : Int) : Bool := (decimal? n).isNone

end SnippetRunner.Number
