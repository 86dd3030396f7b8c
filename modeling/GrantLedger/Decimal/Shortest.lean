/-!
# The shortest decimal that reads back

A positive finite `Float` is `m · 2 ^ q` for whole `m` and `q`. The reals that round to it form an
interval around it. `Shortest.digits` finds the decimal with the fewest digits inside this interval:
it tries one digit, two digits and so on, and looks at the two neighbours of the value on the grid
of that many digits. If both lie inside, the nearer one is taken, and of two equally near ones the
even one.
-/

namespace GrantLedger.Decimal.Shortest

/-- A number `m · 2 ^ q` with the reals that round to it. -/
structure Binary where
  /-- Four times the whole factor, so that the ends of the interval are whole too. -/
  value : Nat
  /-- The lower end of the interval. -/
  lower : Nat
  /-- The upper end of the interval. -/
  upper : Nat
  /-- The power of two that scales the value and both ends. -/
  exponent : Int
  /-- Whether the ends of the interval round to the value too. -/
  closed : Bool

/-- The parts of a positive finite number, from its bits. Just above a power of two the interval
reaches down half as far as up. -/
def Binary.ofBits (bits : UInt64) : Binary :=
  let fraction := (bits &&& 0xFFFFFFFFFFFFF).toNat
  let biased := ((bits >>> 52) &&& 0x7FF).toNat
  let m := if biased = 0 then fraction else fraction + 4_503_599_627_370_496
  let q : Int := (if biased = 0 then 1 else biased : Nat) - 1075
  { value := 4 * m
    lower := if fraction = 0 ∧ 1 < biased then 4 * m - 1 else 4 * m - 2
    upper := 4 * m + 2
    exponent := q - 2
    closed := m % 2 = 0 }

/-- Compares `a · 10 ^ p` with `b · 2 ^ e` without rounding. -/
def compareScaled (a : Nat) (p : Int) (b : Nat) (e : Int) : Ordering :=
  compare (a * Nat.pow 10 p.toNat * Nat.pow 2 (-e).toNat)
    (b * Nat.pow 2 e.toNat * Nat.pow 10 (-p).toNat)

/-- Whether `d · 10 ^ p` rounds to the number. -/
def Binary.holds (x : Binary) (d : Nat) (p : Int) : Bool :=
  let low := compareScaled d p x.lower x.exponent
  let high := compareScaled d p x.upper x.exponent
  (low == .gt || x.closed && low == .eq) && (high == .lt || x.closed && high == .eq)

/-- The largest `d` with `d · 10 ^ p` at most the number. -/
def Binary.floorOn (x : Binary) (p : Int) : Nat :=
  (x.value * Nat.pow 2 x.exponent.toNat * Nat.pow 10 (-p).toNat) /
    (Nat.pow 10 p.toNat * Nat.pow 2 (-x.exponent).toNat)

/-- The largest `k` with `10 ^ k` at most the number, found near the estimate by logarithms. -/
def Binary.magnitude (x : Binary) : Int :=
  let estimate : Int := ((x.value.log2 : Int) + x.exponent) * 30103 / 100000
  let fits (k : Int) : Bool := compareScaled 1 k x.value x.exponent != .gt
  if fits (estimate + 1) then estimate + 1
  else if fits estimate then estimate
  else estimate - 1

/-- Whether the upper neighbour `d + 1` is the one to take, rather than `d`: it is nearer, or as
near and even. -/
def Binary.prefersUpper (x : Binary) (d : Nat) (p : Int) : Bool :=
  match compareScaled (2 * d + 1) p (2 * x.value) x.exponent with
  | .lt => true
  | .eq => d % 2 = 1
  | .gt => false

/-- A decimal inside the interval on the grid of `n` digits. -/
def Binary.onGrid? (x : Binary) (n : Nat) : Option (Nat × Int) :=
  let p := x.magnitude - n + 1
  let d := x.floorOn p
  match x.holds d p, x.holds (d + 1) p with
  | true, true => some (if x.prefersUpper d p then d + 1 else d, p)
  | true, false => some (d, p)
  | false, true => some (d + 1, p)
  | false, false => none

/-- Moves zeros at the end of a decimal into its exponent. -/
def dropZeros : Nat → Nat → Int → Nat × Int
  | 0, d, p => (d, p)
  | fuel + 1, d, p => if d % 10 = 0 ∧ d ≠ 0 then dropZeros fuel (d / 10) (p + 1) else (d, p)

/-- The digits and the exponent of the shortest decimal that reads back as a positive finite
number. Seventeen digits always suffice. -/
def digits (bits : UInt64) : Nat × Int :=
  let x := Binary.ofBits bits
  match (List.range 17).findSome? fun n => x.onGrid? (n + 1) with
  | some (d, p) => dropZeros 20 d p
  | none => (0, 0)

end GrantLedger.Decimal.Shortest
