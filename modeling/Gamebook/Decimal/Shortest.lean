import Gamebook.Decimal.Basic

/-!
# The shortest decimal of a floating-point number

A floating-point number stands for every real number that rounds to it: an interval around
`m · 2 ^ q` whose ends belong to it exactly if `m` is even.  Its shortest decimal is the one with the
fewest digits inside that interval, and of two with equally few digits the nearer one.

For a number of digits the decimals of that many digits form a grid, and if any point of the grid
lies in the interval then one of the two neighbours of the number on that grid does.  So it is enough
to look at those two, for one digit, two digits, and so on; seventeen digits always suffice.  All of
this is exact arithmetic on natural numbers.
-/

namespace Gamebook.Decimal

/-- A positive finite number `m · 2 ^ q`, with the reals that round to it.  All four are natural
numbers over the common denominator. -/
structure Interval where
  /-- The common denominator. -/
  denominator : Nat
  /-- The number itself. -/
  value : Nat
  /-- The lower end. -/
  low : Nat
  /-- The upper end. -/
  high : Nat
  /-- The ends round to the number. -/
  closed : Bool
  deriving Repr

/-- The interval of the number `m · 2 ^ q`.  `atPower` says that the number below it has a smaller
gap, because `m` is the least mantissa of its power of two. -/
def Interval.ofMantissa (m : Nat) (q : Int) (atPower : Bool) : Interval :=
  let below := if atPower then 1 else 2
  let scale := if 0 ≤ q then Nat.pow 2 q.toNat else 1
  { denominator := 4 * (if 0 ≤ q then 1 else Nat.pow 2 (-q).toNat)
    value := 4 * m * scale
    low := (4 * m - below) * scale
    high := (4 * m + 2) * scale
    closed := m % 2 = 0 }

/-- The fraction `num / den` times the power `10 ^ k`, as a numerator and a denominator. -/
def scaled (num den : Nat) (k : Int) : Nat × Nat :=
  if 0 ≤ k then (num * Nat.pow 10 k.toNat, den) else (num, den * Nat.pow 10 (-k).toNat)

/-- The grid point `n · 10 ^ k` lies in the interval. -/
def Interval.holds (i : Interval) (n : Nat) (k : Int) : Bool :=
  let (num, den) := scaled n 1 k
  let point := num * i.denominator
  let low := i.low * den
  let high := i.high * den
  if i.closed then low ≤ point && point ≤ high else low < point && point < high

/-- The neighbour of the number on the grid of the multiples of `10 ^ k` that lies in the interval,
the nearer one if both do, the even one if they are equally near. -/
def Interval.neighbour? (i : Interval) (k : Int) : Option Nat :=
  let (num, den) := scaled i.value i.denominator (-k)
  let down := num / den
  let up := down + 1
  match i.holds down k && down != 0, i.holds up k with
  | false, false => none
  | true, false => some down
  | false, true => some up
  | true, true =>
    let fromDown := num - down * den
    let fromUp := up * den - num
    if fromDown < fromUp then some down
    else if fromUp < fromDown then some up
    else if down % 2 = 0 then some down else some up

/-- The greatest `e` with `10 ^ e` at most the number, searched downwards from `e`. -/
def Interval.magnitude (i : Interval) (e : Int) : Nat → Int
  | 0 => e
  | fuel + 1 =>
    let (num, den) := scaled 1 1 e
    if num * i.denominator ≤ i.value * den then e else i.magnitude (e - 1) fuel

/-- The first grid with a point in the interval, from the grid of `10 ^ k` on towards finer ones. -/
def Interval.search (i : Interval) (k : Int) : Nat → Nat × Int
  | 0 => (0, 0)
  | fuel + 1 =>
    match i.neighbour? k with
    | some n => (n, k)
    | none => i.search (k - 1) fuel

/-- The shortest decimal in the interval. -/
def Interval.shortest (i : Interval) : Nat × Int :=
  i.search (i.magnitude 310 640) 20

/-- The shortest decimal that reads back as the number; none for the numbers that are not finite. -/
def ofFloat? (x : Float) : Option Decimal :=
  let bits : Nat := x.toBits.toNat
  let negative := Nat.pow 2 63 ≤ bits
  let exponent : Nat := bits / Nat.pow 2 52 % 2048
  let fraction : Nat := bits % Nat.pow 2 52
  if exponent = 2047 then none
  else if exponent = 0 ∧ fraction = 0 then some ⟨negative, 0, 0⟩
  else
    let interval :=
      if exponent = 0 then Interval.ofMantissa fraction (-1074) false
      else Interval.ofMantissa (Nat.pow 2 52 + fraction) ((exponent : Int) - 1075)
        (fraction = 0 ∧ 1 < exponent)
    let (coefficient, power) := interval.shortest
    some (stripped negative coefficient power)

end Gamebook.Decimal
