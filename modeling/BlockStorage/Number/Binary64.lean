/-!
Non-negative numbers of the format binary64, in exact arithmetic.

A value is a mantissa times a power of two. Rounding takes a quotient of natural numbers to the
nearest value, and of two nearest values to the one with the even mantissa. Values at or above
2^1024 have no place in the format.
-/

namespace BlockStorage

/-- The finite value `mantissa * 2 ^ exponent`. -/
structure Binary64 where
  mantissa : Nat
  exponent : Int
deriving DecidableEq, Repr

namespace Binary64

/-- The quotient rounded to the nearest integer, a half to the even neighbour. -/
def roundHalfEven (num den : Nat) : Nat :=
  let q := num / den
  let r := num % den
  if 2 * r < den then q
  else if den < 2 * r then q + 1
  else if q % 2 = 0 then q else q + 1

/-- The numerator and denominator of a quotient divided by a power of two. -/
def scaleDown (num den : Nat) : Int → Nat × Nat
  | .ofNat k => (num, den * Nat.pow 2 k)
  | .negSucc k => (num * Nat.pow 2 (k + 1), den)

/-- The integer part of the binary logarithm of a quotient of positive numbers. -/
def log2Quotient (num den : Nat) : Int :=
  let e : Int := (Nat.log2 num : Int) - (Nat.log2 den : Int)
  let (n, d) := scaleDown num den e
  if n < d then e - 1 else e

/-- The exponent of the last place at a quotient: 53 places, and none below 2^-1074. -/
def placeOf (num den : Nat) : Int := max (-1074) (log2Quotient num den - 52)

/-- The nearest value to `num / den`, or nothing when it lies at or above 2^1024. -/
def ofQuotient? (num den : Nat) : Option Binary64 :=
  if num = 0 then some ⟨0, 0⟩
  else
    let e := placeOf num den
    let (n, d) := scaleDown num den e
    let m := roundHalfEven n d
    if e > 971 || (e = 971 && m ≥ 9007199254740992) then none else some ⟨m, e⟩

/-- The value as a quotient of natural numbers. -/
def quotient (x : Binary64) : Nat × Nat := scaleDown x.mantissa 1 (-x.exponent)

/-- The nearest value to a natural number. -/
def ofNat? (n : Nat) : Option Binary64 := ofQuotient? n 1

/-- The nearest value to a product. -/
def mul? (x y : Binary64) : Option Binary64 :=
  let (a, b) := x.quotient
  let (c, d) := y.quotient
  ofQuotient? (a * c) (b * d)

/-- The integer part of a value. -/
def floor (x : Binary64) : Nat :=
  let (a, b) := x.quotient
  a / b

/-- The value in hundredths, rounded to the nearest and a half to the even neighbour. -/
def hundredths (x : Binary64) : Nat :=
  let (a, b) := x.quotient
  roundHalfEven (100 * a) b

end Binary64

end BlockStorage
