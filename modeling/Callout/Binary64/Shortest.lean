import Callout.Binary64.Basic
import Callout.Text.Digits

namespace Callout.Binary64

open Text

structure Decimal where
  coefficient : Nat
  exponent : Int
  deriving DecidableEq, Repr

def inUnits (m : Nat) (e k : Int) : Nat × Nat :=
  ((m <<< e.toNat) * pow10 (-k).toNat, (1 <<< (-e).toNat) * pow10 k.toNat)

/-- Whether `d` units of `10 ^ k` read as `m * 2 ^ e`: they lie no farther from it than half of the
way to the neighbouring doubles, and at that distance only an even number gives way. Below a power
of two the neighbour is closer. -/
def readsBack (m : Nat) (e k : Int) (d : Nat) : Bool :=
  let below := if m = 1 <<< 52 ∧ minExponent < e then 4 * m - 1 else 4 * m - 2
  let (low, den) := inUnits below (e - 2) k
  let (high, _) := inUnits (4 * m + 2) (e - 2) k
  if m % 2 = 0 then low ≤ d * den && d * den ≤ high else low < d * den && d * den < high

def nearest? (m : Nat) (e k : Int) : Option Nat :=
  let (n, den) := inUnits m e k
  let d := n / den
  match readsBack m e k d, readsBack m e k (d + 1) with
  | true, true => some (roundRatio n den)
  | true, false => some d
  | false, true => some (d + 1)
  | false, false => none

def pointFrom (m : Nat) (e : Int) : Nat → Int → Int
  | 0, p => p
  | fuel + 1, p =>
    let (n, den) := inUnits m e p
    if n < den then p else pointFrom m e fuel (p + 1)

-- The binary length times 0.30103 is at most two below the least `p` with `m * 2 ^ e < 10 ^ p`.
def point (m : Nat) (e : Int) : Int :=
  pointFrom m e 4 (((Nat.log2 m + e) * 30103).fdiv 100000)

def shortestFrom (m : Nat) (e p : Int) : Nat → Nat → Decimal
  | 0, _ => ⟨m, 0⟩
  | fuel + 1, n =>
    match nearest? m e (p - n) with
    | some d => ⟨d, p - n⟩
    | none => shortestFrom m e p fuel (n + 1)

def Decimal.trimmed : Nat → Decimal → Decimal
  | 0, d => d
  | fuel + 1, d =>
    if d.coefficient % 10 = 0 then trimmed fuel ⟨d.coefficient / 10, d.exponent + 1⟩ else d

-- Seventeen digits always suffice.
def shortest (x : Binary64) : Decimal :=
  (shortestFrom x.significand x.exponent (point x.significand x.exponent) 17 1).trimmed 17

end Callout.Binary64
