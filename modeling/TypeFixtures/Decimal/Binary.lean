import TypeFixtures.Decimal

/-!
# Binary fractions

Numbers with 53 binary digits and a bounded exponent.  A decimal numeral is read as the nearest such
number, ties going to the even one, and a number is written with the fewest decimal digits that read
back as it.
-/

namespace TypeFixtures

/-- The number `mantissa * 2 ^ exponent`. -/
structure Binary where
  mantissa : Nat
  exponent : Int
  deriving DecidableEq, Repr

namespace Binary

/-- The least exponent. -/
def least : Int := -1074

/-- The weight of the first of 53 binary digits. -/
def firstDigit : Nat := Nat.pow 2 52

/-- The quotient rounded to the nearest number, a half to the even one. -/
def roundHalfEven (num den : Nat) : Nat :=
  let q := num / den
  let r := num % den
  if den < 2 * r || (2 * r == den && q % 2 == 1) then q + 1 else q

/-- A fraction times a power of a base. -/
def scale (base : Nat) (e : Int) (fraction : Nat × Nat) : Nat × Nat :=
  if 0 ≤ e then (fraction.1 * Nat.pow base e.toNat, fraction.2)
  else (fraction.1, fraction.2 * Nat.pow base (-e).toNat)

/-- The nearest number to a positive fraction; nothing if it is too large. -/
def ofFraction? (fraction : Nat × Nat) : Option Binary :=
  let size : Int := (Nat.log2 fraction.1 : Int) - Nat.log2 fraction.2
  let wide := scale 2 (52 - size) fraction
  let exponent := max least (if wide.1 < firstDigit * wide.2 then size - 53 else size - 52)
  let units := scale 2 (-exponent) fraction
  let mantissa := roundHalfEven units.1 units.2
  let (mantissa, exponent) :=
    if mantissa = 2 * firstDigit then (firstDigit, exponent + 1) else (mantissa, exponent)
  if 971 < exponent then none else some ⟨mantissa, exponent⟩

/-- The nearest number to a numeral, without its sign; nothing if it is too large. -/
def ofDecimal? (d : Decimal) : Option Binary :=
  let size : Int := (Nat.toDigits 10 d.coefficient).length + d.exponent
  if d.coefficient = 0 || size < -330 then some ⟨0, least⟩
  else if 310 < size then none
  else ofFraction? (scale 10 d.exponent (d.coefficient, 1))

/-- The greatest `e` with `10 ^ e` not above a positive fraction. -/
def decimalOrder (fraction : Nat × Nat) : Int :=
  if fraction.2 ≤ fraction.1 then (Nat.toDigits 10 (fraction.1 / fraction.2)).length - 1
  else
    let zeros : Int := (Nat.toDigits 10 (fraction.2 / fraction.1)).length
    let top := scale 10 (zeros - 1) fraction
    if top.2 ≤ top.1 then 1 - zeros else -zeros

/-- The nearer of the two multiples of `10 ^ e` around a number that still reads back as it. -/
def onGrid? (b : Binary) (e : Int) : Option Nat :=
  let unit := scale 10 (-e) (scale 2 (b.exponent - 2) (1, 1))
  let value := 4 * b.mantissa * unit.1
  let below := (if b.mantissa = firstDigit && least < b.exponent then 1 else 2) * unit.1
  let above := 2 * unit.1
  let closed := b.mantissa % 2 == 0
  let down := value / unit.2
  let gapDown := value - down * unit.2
  let gapUp := (down + 1) * unit.2 - value
  let downFits := gapDown < below || (closed && gapDown == below)
  let upFits := gapUp < above || (closed && gapUp == above)
  if downFits && (!upFits || gapDown ≤ gapUp) then some down
  else if upFits then some (down + 1)
  else none

/-- The fewest decimal digits that read back as a number, and of those the nearest. -/
def shortest (negative : Bool) (b : Binary) : Decimal :=
  if b.mantissa = 0 then ⟨negative, 0, 0⟩
  else
    let order := decimalOrder (scale 2 b.exponent (b.mantissa, 1))
    let found := (List.range 17).findSome? fun (i : Nat) =>
      (onGrid? b (order - i)).map fun n => (⟨negative, n, order - i⟩ : Decimal)
    found.getD ⟨negative, 0, 0⟩

end Binary

end TypeFixtures
