namespace TaskTree.Decimal

set_option autoImplicit false

structure Scientific where
  significand : Nat
  exponent : Int
deriving DecidableEq, Repr

structure Bits where
  negative : Bool
  biased : Nat
  fraction : Nat

def Bits.ofUInt64 (b : UInt64) : Bits :=
  let n := b.toNat
  { negative := n / Nat.pow 2 63 % 2 = 1, biased := n / Nat.pow 2 52 % Nat.pow 2 11,
    fraction := n % Nat.pow 2 52 }

structure Ratio where
  num : Nat
  den : Nat

def Ratio.ofPow2 (x : Nat) (p : Int) : Ratio :=
  if 0 ≤ p then ⟨x * Nat.pow 2 p.toNat, 1⟩ else ⟨x, Nat.pow 2 (-p).toNat⟩

def Ratio.shift (r : Ratio) (e : Int) : Ratio :=
  if 0 ≤ e then ⟨r.num, r.den * Nat.pow 10 e.toNat⟩
  else ⟨r.num * Nat.pow 10 (-e).toNat, r.den⟩

def digitCount (n : Nat) : Nat :=
  (Nat.toDigits 10 n).length

def leadExponent (r : Ratio) : Int :=
  if r.den ≤ r.num then (digitCount (r.num / r.den) : Int) - 1
  else
    let k := digitCount r.den - digitCount r.num
    if r.den ≤ r.num * Nat.pow 10 k then -(k : Int) else -((k + 1 : Nat) : Int)

structure Interval where
  low : Ratio
  value : Ratio
  high : Ratio
  closed : Bool

def Interval.ofParts (biased fraction : Nat) : Interval :=
  let m := if biased = 0 then fraction else fraction + Nat.pow 2 52
  let q : Int := if biased = 0 then -1074 else (biased : Int) - 1075
  let lowGap := if fraction = 0 ∧ 1 < biased then 1 else 2
  { low := Ratio.ofPow2 (4 * m - lowGap) (q - 2)
    value := Ratio.ofPow2 (4 * m) (q - 2)
    high := Ratio.ofPow2 (4 * m + 2) (q - 2)
    closed := m % 2 = 0 }

def Interval.gridPoint (i : Interval) (e : Int) : Option Nat :=
  let lo := i.low.shift e
  let hi := i.high.shift e
  let v := i.value.shift e
  let loUp := (lo.num + lo.den - 1) / lo.den
  let first := if !i.closed ∧ loUp * lo.den = lo.num then loUp + 1 else loUp
  let hiDown := hi.num / hi.den
  let last : Int := if !i.closed ∧ hiDown * hi.den = hi.num then (hiDown : Int) - 1 else hiDown
  if (first : Int) ≤ last then
    let below := v.num / v.den
    let above := below + 1
    -- twice the distance from the value to `below` and to `above`, over `v.den`
    let toBelow := 2 * (v.num - below * v.den)
    let toAbove := 2 * (above * v.den - v.num)
    let pick :=
      if below < first then above
      else if last < (above : Int) then below
      else if toBelow < toAbove then below
      else if toAbove < toBelow then above
      else if below % 2 = 0 then below else above
    some pick
  else none

def normalize (c : Nat) (e : Int) : Scientific :=
  let rec go (fuel c : Nat) (e : Int) : Scientific :=
    match fuel with
    | 0 => ⟨c, e⟩
    | fuel + 1 => if c ≠ 0 ∧ c % 10 = 0 then go fuel (c / 10) (e + 1) else ⟨c, e⟩
  go (digitCount c) c e

def Interval.shortest (i : Interval) : Scientific :=
  let lead := leadExponent i.value
  let rec search : List Nat → Scientific
    | [] => normalize (i.value.num / i.value.den) 0
    | n :: rest =>
      let e := lead - (n : Int) + 1
      match i.gridPoint e with
      | some c => normalize c e
      | none => search rest
  search ((List.range 17).map (· + 1))

def ofBits (b : UInt64) : Bool × Scientific :=
  let parts := Bits.ofUInt64 b
  if parts.biased = 0 ∧ parts.fraction = 0 then (parts.negative, ⟨0, 0⟩)
  else (parts.negative, (Interval.ofParts parts.biased parts.fraction).shortest)

end TaskTree.Decimal
