import TreeDump.Decimal.Binary64
import TreeDump.Text.Basic

/-!
# Shortest decimals

The fewest decimal digits that read back as a given floating-point number, and of those the ones
nearest to it. For each count of digits the two neighbours of the number on that decimal grid are
tried, in exact arithmetic; the first count with a hit wins.
-/

namespace TreeDump

/-- The number `digits * 10 ^ power`. -/
structure Decimal where
  digits : Nat
  power : Int
  deriving DecidableEq, Repr

namespace Binary64

/-- Compare `a / b` with `c / d`. -/
private def isLess (x y : Nat × Nat) : Bool :=
  x.1 * y.2 < y.1 * x.2

/-- The distance of two fractions. -/
private def distance (x y : Nat × Nat) : Nat × Nat :=
  let a := x.1 * y.2
  let b := y.1 * x.2
  (if a < b then b - a else a - b, x.2 * y.2)

/-- The place of the first digit of a positive fraction: the least `k` with the fraction below
`10 ^ k`. -/
def firstPlace (n d : Nat) : Int :=
  if d ≤ n then (Nat.toDigits 10 (n / d)).length
  else
    match (List.range 400).find? fun j => d ≤ n * Nat.pow 10 (j + 1) with
    | some j => -j
    | none => -400

/-- Does the fraction read back as `mantissa * 2 ^ exponent`? The ends of the interval of such
fractions belong to it when the mantissa is even; below a power of two the interval is half as
wide. -/
def readsBack (mantissa : Nat) (exponent : Int) (x : Nat × Nat) : Bool :=
  let below := if mantissa = mantissaBound / 2 && minExponent < exponent then 1 else 2
  let low := scaled (4 * mantissa - below) 2 (exponent - 2)
  let high := scaled (4 * mantissa + 2) 2 (exponent - 2)
  if mantissa % 2 = 0 then !isLess x low && !isLess high x else isLess low x && isLess x high

/-- Of the two neighbours of the number on the grid of `10 ^ power`, the nearer one that reads
back. -/
def onGrid? (mantissa : Nat) (exponent power : Int) : Option Decimal :=
  let value := scaled mantissa 2 exponent
  let unit := scaled 1 10 power
  let floor := value.1 * unit.2 / (value.2 * unit.1)
  let candidates := [floor, floor + 1].filter fun c =>
    readsBack mantissa exponent (scaled c 10 power)
  match candidates with
  | [c] => some ⟨c, power⟩
  | [c, c'] =>
    let near := distance (scaled c 10 power) value
    let far := distance (scaled c' 10 power) value
    some ⟨if isLess far near || (!isLess near far && c % 2 == 1) then c' else c, power⟩
  | _ => none

/-- The shortest decimal that reads back as the positive number `mantissa * 2 ^ exponent`. -/
def shortest (mantissa : Nat) (exponent : Int) : Decimal :=
  let value := scaled mantissa 2 exponent
  let place := firstPlace value.1 value.2
  match (List.range 17).findSome? fun (k : Nat) => onGrid? mantissa exponent (place - (k + 1)) with
  | some decimal => decimal
  | none => ⟨0, 0⟩

end Binary64

/-- How a decimal is laid out: with a point in place as long as the first digit stands in one of
the places after `-lowest` up to `highest`, otherwise with an exponent. -/
structure DecimalLayout where
  lowest : Nat
  highest : Nat
  exponentDigits : Nat

/-- Lay out the digits of a positive decimal. A point stands between two digits at least when
there is no exponent. -/
def DecimalLayout.render (layout : DecimalLayout) (decimal : Decimal) : Text :=
  let all := Text.ofNat decimal.digits
  let place : Int := all.length + decimal.power
  let digits := Text.dropEndWhile (· == '0') all
  if -(layout.lowest : Int) < place && place ≤ layout.highest then
    if place ≤ 0 then "0.".toList ++ List.replicate (-place).toNat '0' ++ digits
    else
      let whole := place.toNat
      if digits.length ≤ whole then
        digits ++ List.replicate (whole - digits.length) '0' ++ ".0".toList
      else digits.take whole ++ '.' :: digits.drop whole
  else
    let exponent := place - 1
    let exponentText := Text.ofNat exponent.natAbs
    let lead := match digits with
      | d :: e :: r => d :: '.' :: e :: r
      | ds => ds
    lead ++ 'e' :: (if exponent < 0 then '-' else '+') ::
      List.replicate (layout.exponentDigits - exponentText.length) '0' ++ exponentText

/-- The text of a floating-point number under a layout. -/
def DecimalLayout.renderBinary64 (layout : DecimalLayout) : Binary64 → Text
  | .notANumber => "nan".toList
  | .infinite negative => if negative then "-inf".toList else "inf".toList
  | .finite negative mantissa exponent =>
    let magnitude :=
      if mantissa = 0 then "0.0".toList else layout.render (Binary64.shortest mantissa exponent)
    if negative then '-' :: magnitude else magnitude

end TreeDump
