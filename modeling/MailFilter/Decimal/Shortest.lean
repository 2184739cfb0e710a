import MailFilter.Decimal.Double
import MailFilter.Text.Basic

/-!
# Shortest decimals

A number is written with the fewest decimal digits that read back as it. The reals that round to
`m * 2 ^ q` form an interval around it; for one, two and more digits the two neighbours of the
number on that decimal grid are tried, and the first grid with a neighbour in the interval wins.
Of two neighbours the nearer one is taken, and of two that are equally near the even one.
-/
namespace MailFilter.Double

/-- A decimal `digits * 10 ^ exponent`. -/
structure Shortest where
  digits : Nat
  exponent : Int
  deriving DecidableEq, Repr

/-- The interval of a number in quarters of its last binary place. -/
structure Interval where
  low : Nat
  value : Nat
  high : Nat
  closed : Bool

/-- The gap below a power of two is half as wide as the one above it. -/
def interval (m : Nat) (q : Int) : Interval :=
  let low := if m == twoTo 52 && minExponent < q then 4 * m - 1 else 4 * m - 2
  ⟨low, 4 * m, 4 * m + 2, m % 2 == 0⟩

/-- The factors that turn quarters of `2 ^ q` and steps of `10 ^ g` into a common unit. -/
def units (q g : Int) : Nat × Nat :=
  let binary := if q < 2 then (1, twoTo (2 - q)) else (twoTo (q - 2), 1)
  let decimal := if g < 0 then (1, tenTo g) else (tenTo g, 1)
  (binary.1 * decimal.2, decimal.1 * binary.2)

/-- The neighbour on the grid of `10 ^ g` that reads back, if there is one. -/
def onGrid? (m : Nat) (q g : Int) : Option Nat :=
  let i := interval m q
  let (u, step) := units q g
  let reads := fun d : Nat =>
    if i.closed then i.low * u ≤ d * step && d * step ≤ i.high * u
    else i.low * u < d * step && d * step < i.high * u
  let below := i.value * u / step
  let gapBelow := i.value * u - below * step
  let gapAbove := (below + 1) * step - i.value * u
  match reads below, reads (below + 1) with
  | false, false => none
  | true, false => some below
  | false, true => some (below + 1)
  | true, true =>
    if gapBelow < gapAbove then some below
    else if gapAbove < gapBelow then some (below + 1)
    else if below % 2 == 0 then some below else some (below + 1)

/-- The number of decimal digits before the point, which is not positive for a number below
one tenth. -/
def magnitude (m : Nat) (q : Int) : Int :=
  let (a, b) := ratio m q
  if b ≤ a then (Nat.toDigits 10 (a / b)).length
  else 1 - ((Nat.toDigits 10 ((b - 1) / a)).length : Int)

/-- The first of the finer and finer grids with a hit; `steps` grids are tried. -/
def searchGrids (m : Nat) (q : Int) : Nat → Int → Shortest
  | 0, g => ⟨(onGrid? m q g).getD 0, g⟩
  | steps + 1, g =>
    match onGrid? m q g with
    | some d => ⟨d, g⟩
    | none => searchGrids m q steps (g - 1)

/-- Trailing zeros moved into the exponent; `places` is a bound on their number. -/
def dropZeros : Nat → Shortest → Shortest
  | 0, s => s
  | places + 1, s =>
    if s.digits != 0 && s.digits % 10 == 0 then dropZeros places ⟨s.digits / 10, s.exponent + 1⟩
    else s

/-- The shortest decimal for a number that is not zero. -/
def shortest (m : Nat) (q : Int) : Shortest :=
  dropZeros 20 (searchGrids m q 17 (magnitude m q - 1))

/-- A decimal as text: positional from `0.0001` up to sixteen digits before the point, with a
point and a digit after it in every case, and with a signed exponent of two digits or more
elsewhere. -/
def Shortest.text (s : Shortest) : Text :=
  let ds := Text.ofNat s.digits
  let point : Int := ds.length + s.exponent
  if -4 < point && point ≤ 16 then
    if point ≤ 0 then "0.".toList ++ List.replicate point.natAbs '0' ++ ds
    else if ds.length ≤ point.natAbs then
      ds ++ List.replicate (point.natAbs - ds.length) '0' ++ ".0".toList
    else ds.take point.natAbs ++ ['.'] ++ ds.drop point.natAbs
  else
    let e := point - 1
    let fraction := if ds.length ≤ 1 then [] else '.' :: ds.drop 1
    ds.take 1 ++ fraction ++ ['e', if e < 0 then '-' else '+'] ++ Text.padded 2 e.natAbs

/-- A number as text. -/
def text : Double → Text
  | finite s m e =>
    (if s then ['-'] else []) ++ if m == 0 then "0.0".toList else (shortest m e).text
  | infinite s => (if s then ['-'] else []) ++ "inf".toList
  | nan => "nan".toList

end MailFilter.Double
