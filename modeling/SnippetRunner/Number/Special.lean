import SnippetRunner.Number.Division

/-!
# Special functions

The gamma function and its logarithm, and the error function and its complement, each by quotients
of polynomials that are close to it.
-/

namespace SnippetRunner.Number

/-- The value of a polynomial, the highest coefficient last. -/
def polynomial (coefficients : List Float) (x : Float) : Float :=
  coefficients.foldr (fun c sum => sum * x + c) 0.0

/-- The sine of a number of half turns. -/
def sineOfTurns (x : Float) : Float :=
  let half := 3.141592653589793
  let y := Number.remainder x.abs 2.0
  let n := (2.0 * y).round
  let r :=
    if n == 0.0 then (half * y).sin
    else if n == 1.0 then (half * (y - 0.5)).cos
    else if n == 2.0 then (half * (1.0 - y)).sin
    else if n == 3.0 then -(half * (y - 1.5)).cos
    else (half * (y - 2.0)).sin
  if x < 0.0 then -r else r

/-! ## The gamma function -/

/-- Where the approximation of the gamma function is centred. -/
def gammaCentre : Float := 6.024680040776729583740234375

/-- The coefficients of the approximation, above and below. -/
def gammaAbove : List Float :=
  [23531376880.410759688572007674451636754734846804940,
    42919803642.649098768957899047001988850926355848959,
    35711959237.355668049440185451547166705960488635843,
    17921034426.037209699919755754458931112671403265390,
    6039542586.3520280050642916443072979210699388420708,
    1439720407.3117216736632230727949123939715485786372,
    248874557.86205415651146038641322942321632125127801,
    31426415.585400194380614231628318205362874684987640,
    2876370.6289353724412254090516208496135991145378768,
    186056.26539522349504029498971604569928220784236328,
    8071.6720023658162106380029022722506138218516325024,
    210.82427775157934587250973392071336271166969580291,
    2.5066282746310002701649081771338373386264310793408]

@[inherit_doc gammaAbove]
def gammaBelow : List Float :=
  [0.0, 39916800.0, 120543840.0, 150917976.0, 105258076.0, 45995730.0, 13339535.0, 2637558.0,
    357423.0, 32670.0, 1925.0, 66.0, 1.0]

/-- The sum in the approximation of the gamma function. -/
def gammaSum (x : Float) : Float :=
  if x < 5.0 then polynomial gammaAbove x / polynomial gammaBelow x
  else
    let fall (cs : List Float) : Float := cs.foldl (fun sum c => sum / x + c) 0.0
    fall gammaAbove / fall gammaBelow

/-- The gamma function of a positive integer, which is small. -/
def gammaOfInteger (n : Nat) : Float :=
  Float.ofNat ((List.range (n - 1)).foldl (fun product (i : Nat) => product * (i + 1)) 1)

/-- The gamma function. -/
def gamma (x : Float) : Float :=
  let size := x.abs
  let whole := x == x.floor
  if ! x.isFinite then (if x < 0.0 then 0.0 / 0.0 else x)
  else if x == 0.0 then 1.0 / x
  else if whole && x < 0.0 then 0.0 / 0.0
  else if whole && x ≤ 23.0 then gammaOfInteger x.toUInt64.toNat
  else if size < 1e-20 then 1.0 / x
  else if 200.0 < size then (if x < 0.0 then 0.0 / sineOfTurns x else 1.0 / 0.0)
  else
    let shift := gammaCentre - 0.5
    let y := size + shift
    let lost := if shift < size then (y - size) - shift else (y - shift) - size
    let z := lost * gammaCentre / y
    if x < 0.0 then
      let r := -3.141592653589793 / sineOfTurns size / size * y.exp / gammaSum size
      let r := r - z * r
      if size < 140.0 then r / y.pow (size - 0.5)
      else
        let root := y.pow (size / 2.0 - 0.25)
        r / root / root
    else
      let r := gammaSum size / y.exp
      let r := r + z * r
      if size < 140.0 then r * y.pow (size - 0.5)
      else
        let root := y.pow (size / 2.0 - 0.25)
        r * root * root

/-- The logarithm of the size of the gamma function. -/
def logGamma (x : Float) : Float :=
  let size := x.abs
  if x.isNaN then x
  else if x.isInf then size
  else if x == x.floor && x ≤ 2.0 then (if x ≤ 0.0 then 1.0 / 0.0 else 0.0)
  else if size < 1e-20 then -size.log
  else
    let r := (gammaSum size).log - gammaCentre
    let r := r + (size - 0.5) * ((size + gammaCentre - 0.5).log - 1.0)
    if x < 0.0 then
      1.144729885849400174143427351353058711647 - (sineOfTurns size).abs.log - size.log - r
    else r

/-! ## The error function -/

/-- The value of a polynomial, worked out in pairs of coefficients. -/
def pairedPolynomial (coefficients : List Float) (x : Float) : Float :=
  let square := x * x
  let rec sum (power total : Float) : List Float → Float
    | a :: b :: rest => sum (power * square) (total + power * (a + x * b)) rest
    | [a] => total + power * a
    | [] => total
  match coefficients with
  | a :: b :: rest => sum square (a + x * b) rest
  | rest => sum 1.0 0.0 rest

/-- A quotient of two polynomials. -/
def quotientOfPolynomials (above below : List Float) (x : Float) : Float :=
  pairedPolynomial above x / pairedPolynomial below x

/-- The correction of the error function of a number by its square, where that is small. -/
def errorNearZero (square : Float) : Float :=
  quotientOfPolynomials
    [1.28379167095512558561e-01, -3.25042107247001499370e-01, -2.84817495755985104766e-02,
      -5.77027029648944159157e-03, -2.37630166566501626084e-05]
    [1.0, 3.97917223959155352819e-01, 6.50222499887672944485e-02, 5.08130628187576562776e-03,
      1.32494738004321644526e-04, -3.96022827877536812320e-06] square

/-- The correction of the error function by the distance from one, where that is small. -/
def errorNearOne (distance : Float) : Float :=
  quotientOfPolynomials
    [-2.36211856075265944077e-03, 4.14856118683748331666e-01, -3.72207876035701323847e-01,
      3.18346619901161753674e-01, -1.10894694282396677476e-01, 3.54783043256182359371e-02,
      -2.16637559486879084300e-03]
    [1.0, 1.06420880400844228286e-01, 5.40397917702171048937e-01, 7.18286544141962662868e-02,
      1.26171219808761642112e-01, 1.36370839120290507362e-02, 1.19844998467991074170e-02]
    distance

/-- The error function at one, cut off. -/
def errorAtOne : Float := 8.45062911510467529297e-01

/-- The complement of the error function of a number that is not small. -/
def errorTail (x : Float) : Float :=
  let s := 1.0 / (x * x)
  let correction :=
    if x < 2.857142857142857 then
      quotientOfPolynomials
        [-9.86494403484714822705e-03, -6.93858572707181764372e-01, -1.05586262253232909814e+01,
          -6.23753324503260060396e+01, -1.62396669462573470355e+02, -1.84605092906711035994e+02,
          -8.12874355063065934246e+01, -9.81432934416914548592e+00]
        [1.0, 1.96512716674392571292e+01, 1.37657754143519042600e+02,
          4.34565877475229228821e+02, 6.45387271733267880336e+02, 4.29008140027567833386e+02,
          1.08635005541779435134e+02, 6.57024977031928170135e+00, -6.04244152148580987438e-02] s
    else
      quotientOfPolynomials
        [-9.86494292470009928597e-03, -7.99283237680523006574e-01, -1.77579549177547519889e+01,
          -1.60636384855821916062e+02, -6.37566443368389627722e+02, -1.02509513161107724954e+03,
          -4.83519191608651397019e+02]
        [1.0, 3.03380607434824582924e+01, 3.25792512996573918826e+02,
          1.53672958608443695994e+03, 3.19985821950859553908e+03, 2.55305040643316442583e+03,
          4.74528541206955367215e+02, -2.24409524465858183362e+01] s
  let cut := Float.ofBits (x.toBits &&& 0xffffffff00000000)
  (-cut * cut - 0.5625).exp * ((cut - x) * (cut + x) + correction).exp / x

/-- The error function. -/
def errorFunction (x : Float) : Float :=
  let size := x.abs
  let signed (y : Float) : Float := if x < 0.0 then -y else y
  if x.isNaN then x
  else if size < 0.84375 then
    if size < 3.7252902984e-09 then x + 1.28379167095512586316e-01 * x
    else x + x * errorNearZero (x * x)
  else if size < 1.25 then signed (errorAtOne + errorNearOne (size - 1.0))
  else if 6.0 ≤ size then signed 1.0
  else signed (1.0 - errorTail size)

/-- What the error function falls short of one. -/
def errorComplement (x : Float) : Float :=
  let size := x.abs
  if x.isNaN then x
  else if size < 0.84375 then
    if size < 1.3877787807814457e-17 then 1.0 - x
    else
      let y := errorNearZero (x * x)
      if x < 0.25 then 1.0 - (x + x * y) else 0.5 - (x - 0.5 + x * y)
  else if size < 1.25 then
    if 0.0 ≤ x then 1.0 - errorAtOne - errorNearOne (size - 1.0)
    else 1.0 + (errorAtOne + errorNearOne (size - 1.0))
  else if size < 28.0 then
    if x ≤ -6.0 then 2.0
    else if 0.0 < x then errorTail size
    else 2.0 - errorTail size
  else if 0.0 < x then 0.0 else 2.0

end SnippetRunner.Number
