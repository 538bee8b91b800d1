/-!
# Binary numbers of 64 bits

The floating-point numbers of 64 bits in exact integer arithmetic, and the one nearest to a
decimal. Magnitudes are pairs of a mantissa below 2^53 and a power of two.
-/

namespace TreeDump

/-- A floating-point number of 64 bits: `mantissa * 2 ^ exponent`, an infinity, or no number. -/
inductive Binary64
  | finite (negative : Bool) (mantissa : Nat) (exponent : Int)
  | infinite (negative : Bool)
  | notANumber
  deriving DecidableEq, Repr

namespace Binary64

/-- The least exponent. -/
def minExponent : Int := -1074

/-- The greatest exponent. -/
def maxExponent : Int := 971

/-- The bound of mantissas: they have 53 binary digits at most. -/
def mantissaBound : Nat := Nat.pow 2 53

/-- The numerator and the denominator of `n * b ^ e`. -/
def scaled (n b : Nat) (e : Int) : Nat × Nat :=
  (n * Nat.pow b e.toNat, Nat.pow b (-e).toNat)

/-- The quotient rounded to the nearest integer, a half to the even neighbour. -/
def roundDiv (n d : Nat) : Nat :=
  let q := n / d
  let twice := 2 * (n % d)
  if d < twice || (twice == d && q % 2 == 1) then q + 1 else q

/-- The number nearest to the positive fraction `n / d`. -/
def ofFraction (negative : Bool) (n d : Nat) : Binary64 :=
  let size : Int := n.log2 - d.log2
  let mantissaAt (e : Int) : Nat × Nat :=
    let (m, k) := scaled 1 2 (-e)
    (n * m, d * k)
  let low := max (size - 53) minExponent
  let (n₀, d₀) := mantissaAt low
  let e := if n₀ / d₀ < mantissaBound then low else low + 1
  let (n₁, d₁) := mantissaAt e
  let m := roundDiv n₁ d₁
  let (m, e) := if m = mantissaBound then (mantissaBound / 2, e + 1) else (m, e)
  if maxExponent < e then .infinite negative else .finite negative m e

/-- The number nearest to `digits * 10 ^ power`. Powers that are out of reach are decided without
computing them. -/
def ofDecimal (negative : Bool) (digits : Nat) (power : Int) : Binary64 :=
  if digits = 0 then .finite negative 0 minExponent
  else
    let reach := power + (Nat.toDigits 10 digits).length
    if 310 < reach then .infinite negative
    else if reach < -330 then .finite negative 0 minExponent
    else
      let (n, d) := scaled digits 10 power
      ofFraction negative n d

end Binary64

end TreeDump
