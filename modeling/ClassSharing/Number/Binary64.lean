/-!
# Binary floating-point numbers

A number of 53 binary digits, as a sign, a mantissa and an exponent of two. Quotients of natural
numbers are rounded to the nearest such number, of two equally near ones to that with an even
mantissa. The text of a number has the fewest decimal digits that are read back to it.
-/

namespace ClassSharing

/-- A number of double precision. -/
inductive Binary64 where
  /-- The number `± mantissa * 2 ^ exponent`. -/
  | finite (negative : Bool) (mantissa : Nat) (exponent : Int)
  | infinite (negative : Bool)
  | nan
  deriving DecidableEq, Repr

namespace Binary64

/-- The least exponent. -/
def minExponent : Int := -1074

/-- The greatest exponent of a number with 53 binary digits. -/
def maxExponent : Int := 971

/-- The zero of a sign. -/
def zero (negative : Bool) : Binary64 := finite negative 0 minExponent

/-! ### Rounding -/

/-- A power of two. -/
def twoTo (n : Nat) : Nat := Nat.pow 2 n

/-- A power of ten. -/
def tenTo (n : Nat) : Nat := Nat.pow 10 n

/-- The natural number nearest to `num / den`; a half goes to the even neighbour. -/
def roundDiv (num den : Nat) : Nat :=
  let q := num / den
  let r := num % den
  if 2 * r < den then q
  else if den < 2 * r then q + 1
  else if q % 2 = 0 then q else q + 1

/-- `num * 2 ^ e` as a quotient of natural numbers. -/
def scale (num den : Nat) (e : Int) : Nat × Nat :=
  if 0 ≤ e then (num * twoTo e.toNat, den) else (num, den * twoTo (-e).toNat)

/-- The greatest exponent for which a positive quotient still has 53 binary digits. -/
def quotientExponent (num den : Nat) : Int :=
  let guess : Int := (Nat.log2 num : Int) - Nat.log2 den - 53
  let (n, d) := scale num den (-guess)
  let e := if n / d < twoTo 53 then guess else guess + 1
  max e minExponent

/-- The number nearest to `± num / den`. -/
def ofRatio (negative : Bool) (num den : Nat) : Binary64 :=
  if num = 0 then zero negative
  else
    let e := quotientExponent num den
    let (n, d) := scale num den (-e)
    let m := roundDiv n d
    let (m, e) := if m = twoTo 53 then (twoTo 52, e + 1) else (m, e)
    if maxExponent < e then infinite negative else finite negative m e

/-- The number nearest to `± digits * 10 ^ exponent`. Values far outside the range are decided by
their number of digits. -/
def ofDecimal (negative : Bool) (digits : Nat) (exponent : Int) : Binary64 :=
  let size : Int := (Nat.toDigits 10 digits).length + exponent
  if digits = 0 ∨ size < -400 then zero negative
  else if 400 < size then infinite negative
  else if 0 ≤ exponent then ofRatio negative (digits * tenTo exponent.toNat) 1
  else ofRatio negative digits (tenTo (-exponent).toNat)

/-- The number nearest to a natural number. -/
def ofNat (n : Nat) : Binary64 := ofRatio false n 1

/-! ### Arithmetic -/

/-- A finite number as a sign and a quotient; `none` for the others. -/
def toRatio? : Binary64 → Option (Bool × Nat × Nat)
  | finite s m e => some (s, scale m 1 e)
  | _ => none

/-- The number with the other sign. -/
def neg : Binary64 → Binary64
  | finite s m e => finite (!s) m e
  | infinite s => infinite (!s)
  | nan => nan

/-- The rounded sum. -/
def add (a b : Binary64) : Binary64 :=
  match a, b with
  | nan, _ | _, nan => nan
  | infinite s, infinite t => if s = t then infinite s else nan
  | infinite s, _ | _, infinite s => infinite s
  | finite s m e, finite t n f =>
    let (p, q) := scale m 1 e
    let (u, v) := scale n 1 f
    let x : Int := (if s then -1 else 1) * (p * v : Nat) + (if t then -1 else 1) * (u * q : Nat)
    if x = 0 then zero (s && t) else ofRatio (x < 0) x.natAbs (q * v)

/-- Whether a number is a zero. -/
def isZero : Binary64 → Bool
  | finite _ m _ => m == 0
  | _ => false

/-- Whether a number has the sign of negative ones. -/
def isNegative : Binary64 → Bool
  | finite s .. | infinite s => s
  | nan => false

/-- The rounded product. -/
def mul (a b : Binary64) : Binary64 :=
  match a, b with
  | nan, _ | _, nan => nan
  | finite s m e, finite t n f =>
    let (p, q) := scale m 1 e
    let (u, v) := scale n 1 f
    ofRatio (s != t) (p * u) (q * v)
  | x, y => if x.isZero || y.isZero then nan else infinite (x.isNegative != y.isNegative)

/-- The value of a finite number without a fraction. -/
def toInt? : Binary64 → Option Int
  | finite s m e =>
    let (p, q) := scale m 1 e
    if p % q = 0 then some ((if s then -1 else 1) * (p / q : Nat)) else none
  | _ => none

/-- Whether a number is neither infinite nor undefined. -/
def isFinite : Binary64 → Bool
  | finite .. => true
  | _ => false

/-! ### Decimal text -/

/-- A positive finite number and the ends of the interval that is rounded to it, as multiples of
`unit / den`; the ends belong to it if the mantissa is even. -/
structure Interval where
  low : Nat
  value : Nat
  high : Nat
  den : Nat
  closed : Bool

/-- The interval of the numbers that are rounded to `m * 2 ^ e`. -/
def interval (m : Nat) (e : Int) : Interval :=
  let below := if m = twoTo 52 ∧ minExponent < e then 1 else 2
  let (unit, den) := scale 1 1 (e - 2)
  ⟨(4 * m - below) * unit, 4 * m * unit, (4 * m + 2) * unit, den, m % 2 = 0⟩

/-- Whether `d * 10 ^ k` lies in an interval. -/
def Interval.holds (i : Interval) (d : Nat) (k : Int) : Bool :=
  let (x, y) : Nat × Nat :=
    if 0 ≤ k then (d * tenTo k.toNat, 1) else (d, tenTo (-k).toNat)
  let x := x * i.den
  if i.closed then i.low * y ≤ x && x ≤ i.high * y else i.low * y < x && x < i.high * y

/-- The number of decimal digits in front of the point: the least `k` with `value < 10 ^ k`. -/
def Interval.magnitude (i : Interval) : Int :=
  let whole := i.value / i.den
  if whole ≠ 0 then (Nat.toDigits 10 whole).length
  else
    let inverse := (i.den + i.value - 1) / i.value
    let k : Nat := (Nat.toDigits 10 inverse).length
    -- `10 ^ (k - 1) ≤ inverse`, so the value is at most `10 ^ (1 - k)` and above `10 ^ (-k)`
    if i.value * tenTo (k - 1) < i.den then 1 - k else 2 - k

/-- The best decimal with `n` digits, as its digits and its exponent, if one lies in the
interval: the nearer neighbour of the value on the grid of these decimals. -/
def Interval.decimal? (i : Interval) (n : Nat) : Option (Nat × Int) :=
  let k := i.magnitude - n
  let (x, y) : Nat × Nat :=
    if 0 ≤ k then (i.value, i.den * tenTo k.toNat) else (i.value * tenTo (-k).toNat, i.den)
  let near := roundDiv x y
  let other := if near = x / y then near + 1 else x / y
  if i.holds near k then some (near, k)
  else if i.holds other k then some (other, k)
  else none

/-- The fewest decimal digits that are read back to a positive number, and their exponent. -/
def Interval.shortest (i : Interval) : Nat × Int :=
  ((List.range 18).findSome? fun n => if n = 0 then none else i.decimal? n).getD (0, 0)

/-- The shape of a decimal text: numbers from `10 ^ (low - 1)` up to `10 ^ high` are written with a
point, all others with an exponent of at least two digits. -/
structure DecimalStyle where
  low : Int
  high : Int

/-- The usual shape: a point from `0.0001` up to sixteen digits. -/
def DecimalStyle.usual : DecimalStyle := ⟨-3, 16⟩

/-- Writes the digits `ds`, whose point stands behind the first `point` of them. -/
def DecimalStyle.write (style : DecimalStyle) (ds : List Char) (point : Int) : List Char :=
  if style.low ≤ point ∧ point ≤ style.high then
    if point ≤ 0 then '0' :: '.' :: List.replicate (-point).toNat '0' ++ ds
    else
      let k := point.toNat
      let whole := ds.take k ++ List.replicate (k - ds.length) '0'
      let fraction := ds.drop k
      whole ++ '.' :: (if fraction.isEmpty then ['0'] else fraction)
  else
    let e := point - 1
    let mantissa := match ds with
      | [] => []
      | [d] => [d]
      | d :: rest => d :: '.' :: rest
    let size := (toString e.natAbs).toList
    let size := if size.length < 2 then '0' :: size else size
    mantissa ++ 'e' :: (if e < 0 then '-' else '+') :: size

/-- Drops the zeros at the end of a decimal number. -/
def dropZeros (ds : List Char) : List Char :=
  match (ds.reverse.dropWhile (· == '0')).reverse with
  | [] => ['0']
  | kept => kept

/-- The text of a number. -/
def text : Binary64 → String
  | nan => "nan"
  | infinite false => "inf"
  | infinite true => "-inf"
  | finite s m e =>
    let body :=
      if m = 0 then ['0', '.', '0']
      else
        let (d, k) := (interval m e).shortest
        let ds := Nat.toDigits 10 d
        DecimalStyle.usual.write (dropZeros ds) (ds.length + k)
    String.ofList (if s then '-' :: body else body)

end Binary64

end ClassSharing
