import Bookshop.Binary64.Basic
import Bookshop.Text.Digits

/-!
# The shortest decimal of a double

A double is written with the fewest digits that read back as it; of the candidates with that
many digits the one nearest to it is taken. The numbers that read back as `m * 2 ^ e` form an
interval around it, whose ends belong to it exactly when `m` is even. On each decimal grid
`10 ^ k` only the two grid points beside the double can be the nearest ones inside, so the search
goes from coarse grids to fine ones and looks at two points on each.
-/

namespace Bookshop

namespace Binary64

/-! ### The interval of decimals that read back -/

/-- A positive finite double together with a decimal grid, brought to one scale: a grid point `c`
    is `c * step`, the double is `middle`, and the decimals that read back as it lie between
    `low` and `high`. -/
structure Grid where
  low : Nat
  middle : Nat
  high : Nat
  step : Nat
  closed : Bool

/-- The double `m * 2 ^ e` on the grid of the multiples of `10 ^ k`. The gap below the least
    significand of a binade is half as wide as the gap above it. -/
def Grid.of (m : Nat) (e k : Int) : Grid :=
  let scale := Nat.pow 2 (e - 2).toNat * Nat.pow 10 (-k).toNat
  { low := (if m = Nat.pow 2 52 ∧ leastExponent < e then 4 * m - 1 else 4 * m - 2) * scale
    middle := 4 * m * scale
    high := (4 * m + 2) * scale
    step := Nat.pow 10 k.toNat * Nat.pow 2 (2 - e).toNat
    closed := m % 2 == 0 }

def Grid.hits (g : Grid) (c : Nat) : Bool :=
  if g.closed then g.low ≤ c * g.step && c * g.step ≤ g.high
  else g.low < c * g.step && c * g.step < g.high

/-- The grid point that reads back as the double and is nearest to it; of two equally near ones
    the even one. -/
def Grid.nearest? (g : Grid) : Option Nat :=
  let below := g.middle / g.step
  let above := below + 1
  match g.hits below, g.hits above with
  | false, false => none
  | true, false => some below
  | false, true => some above
  | true, true =>
    let left := g.middle - below * g.step
    let right := above * g.step - g.middle
    if left < right then some below
    else if right < left then some above
    else if below % 2 = 0 then some below else some above

/-! ### The search -/

/-- Try the grids `10 ^ k`, `10 ^ (k - 1)`, … in turn, at most `tries` of them. -/
def shortestFrom (m : Nat) (e : Int) : Nat → Int → Nat × Int
  | 0, k => (m, k)
  | tries + 1, k =>
    match (Grid.of m e k).nearest? with
    | some c => (c, k)
    | none => shortestFrom m e tries (k - 1)

/-- A decimal exponent at or above that of `m * 2 ^ e`, by the estimate `log 2 < 0.30103`. -/
def decimalExponent (m : Nat) (e : Int) : Int :=
  ((m.log2 + 1 : Int) + e) * 30103 / 100000 + 1

/-- The shortest decimal `c * 10 ^ k` that reads back as `m * 2 ^ e`, for positive `m`. Seventeen
    digits are always enough, so twenty grids are more than are ever tried. -/
def shortest (m : Nat) (e : Int) : Nat × Int :=
  shortestFrom m e 20 (decimalExponent m e)

/-! ### Plain text -/

/-- The text of a double without an exponent: as many zeros as its size takes, no point in a
    whole number. -/
def plainText : Binary64 → String
  | .nan => "NaN"
  | .infinite negative => if negative then "-inf" else "inf"
  | .finite negative m e =>
    let sign := if negative then "-" else ""
    if m = 0 then sign ++ "0"
    else
      let (c, k) := shortest m e
      let ds := digits c
      let point := (ds.length : Int) + k
      let zeros (n : Int) := List.replicate n.toNat 0
      sign ++
        if 0 ≤ k then digitText (ds ++ zeros k)
        else if 0 < point then
          digitText (ds.take point.toNat) ++ "." ++ digitText (ds.drop point.toNat)
        else "0." ++ digitText (zeros (-point) ++ ds)

end Binary64

end Bookshop
