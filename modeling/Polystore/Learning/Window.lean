import Polystore.Json.Decode

/-!
# Rolling windows

A window keeps the most recent samples up to its capacity.  The oldest sample
makes room for a new one, and a smaller capacity drops the oldest samples at
once.
-/

namespace Polystore

/-- The most recent samples, oldest first. -/
structure Window (α : Type) where
  capacity : Nat
  samples : List α
deriving DecidableEq, Repr, Inhabited

namespace Window

variable {α : Type}

/-- The number of samples a window keeps when nothing else is said. -/
def defaultCapacity : Nat := 100

/-- A window without samples.  It has room for at least one. -/
def empty (capacity : Nat) : Window α :=
  ⟨max capacity 1, []⟩

def size (window : Window α) : Nat :=
  window.samples.length

/-- The sample that makes room when another one comes. -/
def evicted? (window : Window α) : Option α :=
  if window.capacity ≤ window.size then window.samples.head? else none

def push (window : Window α) (sample : α) : Window α :=
  let kept :=
    if window.capacity ≤ window.size then window.samples.tail
    else window.samples
  { window with samples := kept ++ [sample] }

/-- The window with another capacity, which is at least one. -/
def resize (window : Window α) (capacity : Nat) : Window α :=
  let capacity := max capacity 1
  ⟨capacity, window.samples.drop (window.size - capacity)⟩

def latest? (window : Window α) : Option α :=
  window.samples.getLast?

/-- A window in a document; its capacity is taken as it stands. -/
def decode (sample : Written → Option α) (tree : Written) :
    Option (Window α) := do
  let members ← tree.members? ["capacity", "samples"]
  let capacity ← members.required "capacity" Written.natural?
  let samples ← members.required "samples" (Written.list? sample)
  return ⟨capacity, samples⟩

def json (encode : α → Json) (window : Window α) : Json :=
  .record [
    ("capacity", .integer window.capacity),
    ("samples", .array (window.samples.map encode))]

end Window

end Polystore
