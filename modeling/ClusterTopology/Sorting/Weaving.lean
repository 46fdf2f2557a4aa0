import ClusterTopology.Sorting.Search

/-!
Merging two runs. The run that is not longer is woven into the other one, from the front when it is
the left one and from the back when it is the right one. Values are taken one by one until one run
has given several in a row; after that, stretches are taken whole as long as they are long enough
to be worth it. How many in a row that needs is adapted on the way and is kept from one merge to
the next.
-/

namespace ClusterTopology.Sorting

variable {α : Type}

/-- A merge under way. The runs are listed from the end at which values are taken, and `taken` lists
what was taken, the latest first. -/
structure Weaving (α : Type) where
  taken : List α
  small : List α
  big : List α
  /-- How many values in a row one run has to give before stretches are taken whole. -/
  patience : Nat

structure Loom (α : Type) where
  below : α → α → Option Bool
  backward : Bool

namespace Loom

def bigFirst (loom : Loom α) (big small : α) : Option Bool :=
  if loom.backward then loom.below small big else loom.below big small

end Loom

namespace Weaving

/-- Nothing is left to compare: the bigger run is used up, or all of the smaller one is but its last
value, which is known to come after all others. -/
def isOver (weaving : Weaving α) : Bool := weaving.small.length ≤ 1 || weaving.big.isEmpty

/-- How many values are not taken yet, which bounds the steps that are left. -/
def remaining (weaving : Weaving α) : Nat := weaving.small.length + weaving.big.length

def woven (weaving : Weaving α) : List α :=
  weaving.taken.reverse ++ weaving.big ++ weaving.small

def takeSmall (count : Nat) (weaving : Weaving α) : Weaving α :=
  { weaving with
    taken := (weaving.small.take count).reverse ++ weaving.taken
    small := weaving.small.drop count }

def takeBig (count : Nat) (weaving : Weaving α) : Weaving α :=
  { weaving with
    taken := (weaving.big.take count).reverse ++ weaving.taken
    big := weaving.big.drop count }

def heads? (weaving : Weaving α) : Option (α × α) :=
  match weaving.small, weaving.big with
  | small :: _ :: _, big :: _ => some (small, big)
  | _, _ => none

/-- Takes values one by one until one run has given enough in a row, or the weaving is over. -/
def walk (loom : Loom α) : (steps smallRow bigRow : Nat) → Weaving α → Option (Weaving α)
  | 0, _, _, weaving => some weaving
  | steps + 1, smallRow, bigRow, weaving =>
    match weaving.heads? with
    | none => some weaving
    | some (small, big) => do
      if ← loom.bigFirst big small then
        let after := weaving.takeBig 1
        if after.patience ≤ bigRow + 1 then return after else walk loom steps 0 (bigRow + 1) after
      else
        let after := weaving.takeSmall 1
        if after.patience ≤ smallRow + 1 then return after
        else walk loom steps (smallRow + 1) 0 after

def worthwhile : Nat := 7

/-- Takes from the smaller run all that comes before the head of the bigger one, and then that head,
and tells whether this was worth it. -/
def leapSmall (loom : Loom α) (weaving : Weaving α) : Option (Bool × Weaving α) :=
  match weaving.heads? with
  | none => some (false, weaving)
  | some (_, big) => do
    let count ← countByStrides loom.backward (fun small => (loom.bigFirst big small).map not)
      weaving.small
    let after := weaving.takeSmall count
    return (worthwhile ≤ count, if after.isOver then after else after.takeBig 1)

def leapBig (loom : Loom α) (weaving : Weaving α) : Option (Bool × Weaving α) :=
  match weaving.heads? with
  | none => some (false, weaving)
  | some (small, _) => do
    let count ← countByStrides loom.backward (loom.bigFirst · small) weaving.big
    let after := weaving.takeBig count
    return (worthwhile ≤ count, if after.isOver then after else after.takeSmall 1)

/-- A leap on each run, the left one first in either direction. -/
def leap (loom : Loom α) (weaving : Weaving α) : Option (Bool × Weaving α) := do
  let (first, between) ← if loom.backward then leapBig loom weaving else leapSmall loom weaving
  let (second, after) ← if loom.backward then leapSmall loom between else leapBig loom between
  return (first || second, after)

/-- Leaps as long as that is worth it. Each further leap takes some of the patience that is needed
before the next one, and giving up adds to it. -/
def leaps (loom : Loom α) : (steps : Nat) → Weaving α → Option (Weaving α)
  | 0, weaving => some weaving
  | steps + 1, weaving => do
    let (isWorthIt, after) ← leap loom weaving
    if after.isOver then return after
    else if isWorthIt then
      leaps loom steps { after with patience := max (after.patience - 1) 1 }
    else return { after with patience := after.patience + 1 }

def finish (loom : Loom α) : (steps : Nat) → Weaving α → Option (Weaving α)
  | 0, weaving => some weaving
  | steps + 1, weaving => do
    let walked ← walk loom weaving.remaining 0 0 weaving
    if walked.isOver then return walked
    let leapt ← leaps loom walked.remaining walked
    if leapt.isOver then return leapt
    finish loom steps leapt

end Weaving

def weave (loom : Loom α) (patience : Nat) (small big : List α) : Option (List α × Nat) := do
  let start := (Weaving.mk [] small big patience).takeBig 1
  let ended ← Weaving.finish loom start.remaining start
  return (ended.woven, ended.patience)

/-- Two neighbouring runs as one, and the patience for the next merge. What the left run has below
the right one, and the right run above the left one, is not touched. -/
def mergeRuns (below : α → α → Option Bool) (patience : Nat) (left right : List α) :
    Option (List α × Nat) :=
  match right, left.getLast? with
  | first :: _, some last => do
    let untouched ← countByStrides false (fun value => (below first value).map not) left
    let touched := left.drop untouched
    if touched.isEmpty then return (left ++ right, patience)
    let beyond ← countByStrides true (fun value => (below value last).map not) right.reverse
    let reached := right.take (right.length - beyond)
    if reached.isEmpty then return (left ++ right, patience)
    let kept := right.drop (right.length - beyond)
    if touched.length ≤ reached.length then
      let (woven, patience) ← weave ⟨below, false⟩ patience touched reached
      return (left.take untouched ++ woven ++ kept, patience)
    else
      let (woven, patience) ← weave ⟨below, true⟩ patience reached.reverse touched.reverse
      return (left.take untouched ++ woven.reverse ++ kept, patience)
  | _, _ => some (left ++ right, patience)

end ClusterTopology.Sorting
