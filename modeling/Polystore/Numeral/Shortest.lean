/-!
# The shortest decimal of a float

Every finite float is the nearest float to a whole interval of real numbers.  Of
the decimals in that interval the shortest are those on the coarsest decimal
grid that has a point there, and the one nearest to the float is chosen.
-/

namespace Polystore.Numeral

/-- A positive real `mantissa * 2 ^ exponent`. -/
structure Dyadic where
  mantissa : Nat
  exponent : Int
deriving DecidableEq, Repr

/-- A decimal `significand * 10 ^ exponent`. -/
structure Decimal where
  significand : Nat
  exponent : Int
deriving DecidableEq, Repr

/-- The leading bit of the mantissa of every float that is not subnormal. -/
def Dyadic.leadingBit : Nat := 0x10000000000000

/-- The magnitude of a finite float. -/
def Dyadic.ofFloat (x : Float) : Dyadic :=
  let bits := x.toBits.toNat
  let field : Nat := bits / leadingBit % 0x800
  let fraction : Nat := bits % leadingBit
  if field == 0 then ⟨fraction, -1074⟩
  else ⟨leadingBit + fraction, (field : Int) - 1075⟩

/-- `2 ^ exponent` as a quotient of whole numbers. -/
def powerOfTwo (exponent : Int) : Nat × Nat :=
  (Nat.pow 2 exponent.toNat, Nat.pow 2 (-exponent).toNat)

/-- `10 ^ exponent` as a quotient of whole numbers. -/
def powerOfTen (exponent : Int) : Nat × Nat :=
  (Nat.pow 10 exponent.toNat, Nat.pow 10 (-exponent).toNat)

/-- A float between its two borders, counted in units of `1 / scale` of a grid
of decimals.  The reals that round to the float lie between the borders, and
include them when `closed`. -/
structure Neighbourhood where
  low : Nat
  value : Nat
  high : Nat
  scale : Nat
  closed : Bool

/-- The neighbourhood of a float on the grid of the multiples of `10 ^ grid`.
Below a power of two the floats lie twice as dense, so the lower border is
nearer there, except at the smallest exponent. -/
def Dyadic.neighbourhood (x : Dyadic) (grid : Int) : Neighbourhood :=
  let (up, down) := powerOfTwo (x.exponent - 2)
  let (coarse, fine) := powerOfTen grid
  let lower := if x.mantissa == leadingBit && x.exponent > -1074 then 1 else 2
  let unit := up * fine
  { low := (4 * x.mantissa - lower) * unit
    value := 4 * x.mantissa * unit
    high := (4 * x.mantissa + 2) * unit
    scale := down * coarse
    closed := x.mantissa % 2 == 0 }

/-- The grid point is read back as the float. -/
def Neighbourhood.holds (near : Neighbourhood) (point : Nat) : Bool :=
  let position := point * near.scale
  if near.closed then near.low ≤ position && position ≤ near.high
  else near.low < position && position < near.high

/-- The grid point nearest to the float, when it is read back as the float. -/
def Neighbourhood.nearest? (near : Neighbourhood) : Option Nat :=
  let below := near.value / near.scale
  let left := near.value % near.scale
  let hitsBelow := near.holds below
  let hitsAbove := near.holds (below + 1)
  if hitsBelow && hitsAbove then
    some (if 2 * left < near.scale
        || (2 * left == near.scale && below % 2 == 0) then below
      else below + 1)
  else if hitsBelow then some below
  else if hitsAbove then some (below + 1)
  else none

/-- The first decimal found on the grids from `10 ^ grid` down through ever
finer ones. -/
def Dyadic.search (x : Dyadic) (grid : Int) : Nat → Decimal
  | 0 => ⟨(x.neighbourhood grid).value / (x.neighbourhood grid).scale, grid⟩
  | steps + 1 =>
    match (x.neighbourhood grid).nearest? with
    | some point => ⟨point, grid⟩
    | none => x.search (grid - 1) steps

/-- The shortest decimal that is read back as the float.  The search starts on a
grid coarser than the float itself, and seventeen digits always suffice. -/
def Dyadic.shortest (x : Dyadic) : Decimal :=
  if x.mantissa == 0 then ⟨0, 0⟩
  else
    let bits : Int := Nat.log2 x.mantissa + x.exponent + 1
    x.search (bits * 30103 / 100000 + 2) 21

end Polystore.Numeral
