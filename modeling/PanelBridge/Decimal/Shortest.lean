/-!
# Shortest decimals

The decimal with the fewest digits that reads back as a given binary fraction. All arithmetic is exact: the
fraction `m * 2 ^ q` stands for the reals that round to it, and a decimal is accepted when it is one of them.
-/

namespace PanelBridge.Decimal

/-- The value `significand * 2 ^ exponent`. `narrowBelow` says that the next smaller value is only half as far
away as the next larger one. -/
structure BinaryFraction where
  significand : Nat
  exponent : Int
  narrowBelow : Bool

/-- The size of the finite double with the given bits, whatever its sign. -/
def BinaryFraction.ofBits (bits : UInt64) : BinaryFraction :=
  let fraction : Nat := bits.toNat % Nat.pow 2 52
  let field : Nat := bits.toNat / Nat.pow 2 52 % Nat.pow 2 11
  if field = 0 then ⟨fraction, -1074, false⟩
  else ⟨Nat.pow 2 52 + fraction, (field : Int) - 1075, fraction = 0 && field > 1⟩

/-- The value `digits * 10 ^ exponent`. -/
structure Scientific where
  digits : Nat
  exponent : Int
deriving DecidableEq, Repr

/-- A value as a quotient, with the ends of the interval of reals that round to it, all over one denominator. -/
structure Interval where
  lower : Nat
  value : Nat
  upper : Nat
  denominator : Nat
  closed : Bool

/-- The reals that round to a binary fraction, counted in quarters of its last place. -/
def BinaryFraction.interval (b : BinaryFraction) : Interval :=
  let shift := b.exponent - 2
  let scale := Nat.pow 2 shift.toNat
  { lower := (4 * b.significand - if b.narrowBelow then 1 else 2) * scale
    value := 4 * b.significand * scale
    upper := (4 * b.significand + 2) * scale
    denominator := Nat.pow 2 (-shift).toNat
    closed := b.significand % 2 == 0 }

/-- Whether `d * 10 ^ e` lies in the interval. -/
def Interval.holds (i : Interval) (d : Nat) (e : Int) : Bool :=
  let point := d * Nat.pow 10 e.toNat * i.denominator
  let low := i.lower * Nat.pow 10 (-e).toNat
  let high := i.upper * Nat.pow 10 (-e).toNat
  if i.closed then low ≤ point && point ≤ high else low < point && point < high

/-- How far below one a quotient lies: the least `j ≤ limit` with `num * 10 ^ j ≥ den`. -/
def leadingZeros (num den : Nat) : (limit : Nat) → Nat
  | 0 => 0
  | limit + 1 => if num ≥ den then 0 else 1 + leadingZeros (num * 10) den limit

/-- The `k` with `10 ^ (k - 1) ≤ num / den < 10 ^ k`. -/
def magnitude (num den : Nat) : Int :=
  if num ≥ den then ((Nat.toDigits 10 (num / den)).length : Int)
  else 1 - (leadingZeros num den 400 : Int)

/-- The two neighbours of the value on the grid of multiples of `10 ^ e`, those that lie in the interval, nearest
first; of two equally near ones the even one is first. -/
def Interval.candidates (i : Interval) (e : Int) : List Nat :=
  let num := i.value * Nat.pow 10 (-e).toNat
  let den := i.denominator * Nat.pow 10 e.toNat
  let below := num / den
  let rest := num % den
  let above := below + 1
  let ordered :=
    if 2 * rest < den || (2 * rest == den && below % 2 == 0) then [below, above] else [above, below]
  ordered.filter fun d => d != 0 && i.holds d e

/-- The first hit among the grids with `count`, `count + 1`, … digits; `fuel` grids are tried. -/
def Interval.search (i : Interval) (k : Int) : (fuel count : Nat) → Option Scientific
  | 0, _ => none
  | fuel + 1, count =>
    match i.candidates (k - count) with
    | d :: _ => some ⟨d, k - count⟩
    | [] => i.search k fuel (count + 1)

/-- Moves the zeros at the end of the digits into the exponent. -/
def Scientific.strip (s : Scientific) : (fuel : Nat) → Scientific
  | 0 => s
  | fuel + 1 =>
    if s.digits % 10 = 0 && s.digits != 0 then
      Scientific.strip ⟨s.digits / 10, s.exponent + 1⟩ fuel
    else s

/-- The decimal with the fewest digits that reads back as the fraction, and of those the nearest. Seventeen
digits always suffice. -/
def shortest (b : BinaryFraction) : Scientific :=
  let i := b.interval
  match i.search (magnitude i.value i.denominator) 17 1 with
  | some s => s.strip 20
  | none => ⟨b.significand, b.exponent⟩

end PanelBridge.Decimal
