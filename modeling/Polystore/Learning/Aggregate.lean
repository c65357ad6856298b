import Polystore.Json.Decode

/-!
# Aggregates

Mean, extremes and standard deviation of a list of measurements.  Sums run from
left to right.  Extremes are found by comparing the measurements in pairs, which
decides between zeros of both signs and in the presence of measurements that are
no number.
-/

namespace Polystore

/-- Summary of a list of measurements. -/
structure Aggregate where
  mean : Float
  least : Float
  greatest : Float
  deviation : Float
deriving DecidableEq, Repr

namespace Aggregate

def zero : Aggregate := ⟨0.0, 0.0, 0.0, 0.0⟩

instance : Inhabited Aggregate := ⟨zero⟩

/-- The sum from left to right.  A sum of negative zeros is a negative zero. -/
def sum (values : List Float) : Float :=
  values.foldl (· + ·) (-0.0)

/-- A pair in ascending order; the order is kept when neither is below the
other. -/
def ascending (first second : Float) : Float × Float :=
  if second < first then (second, first) else (first, second)

/-- The extremes of further measurements beside known extremes, two at a
time. -/
def extremesFrom (least greatest : Float) : List Float → Float × Float
  | [] => (least, greatest)
  | [last] =>
    if last < least then (last, greatest)
    else if last < greatest then (least, greatest)
    else (least, last)
  | first :: second :: rest =>
    let (low, high) := ascending first second
    extremesFrom (if low < least then low else least)
      (if high < greatest then greatest else high) rest

/-- The least and the greatest measurement. -/
def extremes? : List Float → Option (Float × Float)
  | [] => none
  | [only] => some (only, only)
  | first :: second :: rest =>
    let (low, high) := ascending first second
    some (extremesFrom low high rest)

/-- The summary of a list of measurements, with the deviation of the whole
population. -/
def ofValues (values : List Float) : Aggregate :=
  match extremes? values with
  | none => zero
  | some (least, greatest) =>
    let count := Float.ofNat values.length
    let mean := sum values / count
    let variance :=
      sum (values.map fun value => (value - mean) * (value - mean)) / count
    ⟨mean, least, greatest, variance.sqrt⟩

def decode (tree : Written) : Option Aggregate := do
  let members ← tree.members? ["mean", "min", "max", "std_dev"]
  let mean ← members.required "mean" Written.real?
  let least ← members.required "min" Written.real?
  let greatest ← members.required "max" Written.real?
  let deviation ← members.required "std_dev" Written.real?
  return ⟨mean, least, greatest, deviation⟩

/-- A summary as a document value, its numbers written by `number`. -/
def jsonWith (number : Float → Json) (aggregate : Aggregate) : Json :=
  .record [
    ("mean", number aggregate.mean),
    ("min", number aggregate.least),
    ("max", number aggregate.greatest),
    ("std_dev", number aggregate.deviation)]

end Aggregate

end Polystore
