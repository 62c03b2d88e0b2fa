/-!
# Tables over code points

A property of characters is a sorted list of disjoint ranges of code points, and a case
mapping a sorted list of runs. Both are looked up from the front, and the search stops at
the first entry that ends at or after the code point.
-/

namespace Dialogue.Unicode

/-- The code points from the first to the second, both included. -/
abbrev Range := Nat × Nat

def inRanges : List Range → Nat → Bool
  | [], _ => false
  | (first, last) :: rest, n => if n ≤ last then first ≤ n else inRanges rest n

/-- The code points `first`, `first + step`, …, `last` map to `target`, `target + step`, …,
in this order. -/
structure CaseRun where
  first : Nat
  last : Nat
  step : Nat
  target : Nat
deriving DecidableEq, Repr

def CaseRun.covers (r : CaseRun) (n : Nat) : Bool :=
  r.first ≤ n && n ≤ r.last && (n - r.first) % r.step == 0

/-- Where the sorted runs send a code point, if one of them covers it. -/
def lookupRuns : List CaseRun → Nat → Option Nat
  | [], _ => none
  | r :: rest, n =>
    if n ≤ r.last then
      if r.covers n then some (r.target + (n - r.first)) else none
    else lookupRuns rest n

/-- The character to which the sorted runs send `c`, or `c` itself if none covers it. -/
def mapByRuns (runs : List CaseRun) (c : Char) : Char :=
  match lookupRuns runs c.toNat with
  | some n => Char.ofNat n
  | none => c

def lookupExpansion : List (Nat × List Nat) → Nat → Option (List Nat)
  | [], _ => none
  | (key, cs) :: rest, n =>
    if n ≤ key then (if n = key then some cs else none) else lookupExpansion rest n

end Dialogue.Unicode
