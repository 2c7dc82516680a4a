/-!
The shortest decimal that reads back as a given binary64, and of those the nearest one.
A positive finite binary64 is m · 2^e; every real between the midpoints to its neighbours
reads back as it, the midpoints themselves exactly when m is even. The search goes from
coarse to fine decimal grids and tests, on each, the two grid points around the value. All
arithmetic is exact.
-/

namespace ReconChat.Decimal

/-- A positive binary64 and the interval that reads back as it, all over one denominator. -/
structure Cell where
  low : Nat
  value : Nat
  high : Nat
  denominator : Nat
  closed : Bool

def leadingBit : Nat := 0x10000000000000

def decompose (bits : Nat) : Nat × Int :=
  let fraction := bits % leadingBit
  let exponent := bits / leadingBit % 2048
  if exponent = 0 then (fraction, -1074) else (fraction + leadingBit, Int.ofNat exponent - 1075)

/-- The interval around m · 2^e. Below a power of two the lower neighbour is twice as near. -/
def cellOf (bits : Nat) : Cell :=
  let (significand, exponent) := decompose bits
  let narrow := significand = leadingBit ∧ -1074 < exponent
  let below := if narrow then 1 else 2
  let scaled := exponent - 2
  let up := Nat.pow 2 scaled.toNat
  { low := (4 * significand - below) * up
    value := 4 * significand * up
    high := (4 * significand + 2) * up
    denominator := Nat.pow 2 (-scaled).toNat
    closed := significand % 2 = 0 }

def Cell.holds (cell : Cell) (digits : Nat) (grid : Int) : Bool :=
  let point := digits * Nat.pow 10 grid.toNat * cell.denominator
  let shift := Nat.pow 10 (-grid).toNat
  if cell.closed then cell.low * shift ≤ point && point ≤ cell.high * shift
  else cell.low * shift < point && point < cell.high * shift

/-- The multiple of the grid unit at or below the value, and whether the next one is nearer.
Of two equally near ones the even one counts as nearer. -/
def Cell.floor (cell : Cell) (grid : Int) : Nat × Bool :=
  let unit := Nat.pow 10 grid.toNat * cell.denominator
  let scaled := cell.value * Nat.pow 10 (-grid).toNat
  let below := scaled / unit
  let twice := 2 * (scaled % unit)
  (below, if twice = unit then below % 2 = 1 else unit < twice)

def Cell.onGrid (cell : Cell) (grid : Int) : Option Nat :=
  let (below, preferNext) := cell.floor grid
  let next := below + 1
  let nearer := if preferNext then next else below
  let farther := if preferNext then below else next
  if 0 < nearer && cell.holds nearer grid then some nearer
  else if 0 < farther && cell.holds farther grid then some farther
  else none

def Cell.search (cell : Cell) : (tries : Nat) → (grid : Int) → Nat × Int
  | 0, grid => ((cell.floor grid).1, grid)
  | tries + 1, grid =>
      match cell.onGrid grid with
      | some digits => (digits, grid)
      | none => cell.search tries (grid - 1)

def coarsest (bits : Nat) : Int :=
  let (significand, exponent) := decompose bits
  (exponent + Int.ofNat significand.log2 + 1) * 30103 / 100000 + 1

/-- The digits and the decimal exponent of the shortest decimal for a positive finite
binary64, given by its bits. The last digit is not zero. -/
def shortest (bits : Nat) : Nat × Int := (cellOf bits).search 20 (coarsest bits)

/-- How a binary64 is written: positionally while the leading digit stands at 10^-5 to 10^15,
else in scientific notation with a signed exponent. -/
def lowestPositional : Int := -5

def highestPositional : Int := 15

def positional (digits : List Char) (leading : Int) : List Char :=
  if leading < 0 then
    '0' :: '.' :: List.replicate (-leading - 1).toNat '0' ++ digits
  else
    let whole := leading.toNat + 1
    let fraction := digits.drop whole
    digits.take whole ++ List.replicate (whole - digits.length) '0' ++ '.' ::
      (if fraction.isEmpty then ['0'] else fraction)

def scientific (digits : List Char) (leading : Int) : List Char :=
  let fraction := digits.drop 1
  digits.take 1 ++ (if fraction.isEmpty then [] else '.' :: fraction) ++
    'e' :: (if leading < 0 then '-' else '+') :: Nat.toDigits 10 leading.natAbs

/-- The text of a finite binary64. Zero keeps its sign. -/
def text (value : Float) : List Char :=
  let bits := value.toBits.toNat
  let magnitude := bits % 0x8000000000000000
  let unsigned :=
    if magnitude = 0 then ['0', '.', '0']
    else
      let (digits, grid) := shortest magnitude
      let chars := Nat.toDigits 10 digits
      let leading := grid + Int.ofNat chars.length - 1
      if lowestPositional ≤ leading && leading ≤ highestPositional then positional chars leading
      else scientific chars leading
  if 0x8000000000000000 ≤ bits then '-' :: unsigned else unsigned

end ReconChat.Decimal
