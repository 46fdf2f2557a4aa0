import ClusterTopology.Sorting.Weaving

/-!
A stable sort by runs. The values are cut into runs that are in order already, short ones are filled
up by putting the next values into their places, and neighbouring runs are merged, those first that
lie deepest when the whole is halved again and again. The comparison may be without answer, and then
so is the sort. Which values are compared is laid down, so that the result is determined even among
values that are neither below nor above each other.
-/

namespace ClusterTopology.Sorting

variable {α : Type}

/-- The values that go on from `last` without falling (or, when `falling`, while falling), and the
values after them. -/
def takeRun (below : α → α → Option Bool) (falling : Bool) (last : α) :
    List α → Option (List α × List α)
  | [] => some ([], [])
  | value :: rest => do
    if (← below value last) = falling then
      let (run, after) ← takeRun below falling value rest
      return (value :: run, after)
    else return ([], value :: rest)

def insertAll (below : α → α → Option Bool) (ordered : List α) : List α → Option (List α)
  | [] => some ordered
  | value :: rest => do
    let place ← countByHalving (fun other => (below value other).map not) ordered
    insertAll below (ordered.take place ++ value :: ordered.drop place) rest

def firstRun (below : α → α → Option Bool) (least : Nat) : List α → Option (List α × List α)
  | first :: second :: rest => do
    let falling ← below second first
    let (others, after) ← takeRun below falling first (second :: rest)
    let run := if falling then (first :: others).reverse else first :: others
    let missing := least - run.length
    return (← insertAll below run (after.take missing), after.drop missing)
  | values => some (values, [])

/-- The least length of a run among so many values: all of them when they are fewer than 64, and
otherwise their number halved until it is below 64, and one more if anything was lost by halving.
The number of runs is thus a power of two or a little less. -/
def leastRun (count : Nat) (hasRest : Bool) : Nat :=
  if 64 ≤ count then leastRun (count / 2) (hasRest || count % 2 = 1)
  else if hasRest then count + 1 else count
termination_by count
decreasing_by omega

/-- A run, with the depth of the border to the run before it: how often the whole has to be halved
until the middles of the two runs lie in different parts. -/
structure Run (α : Type) where
  values : List α
  depth : Nat

def borderDepth (total : Nat) : (steps first second : Nat) → Nat
  | 0, _, _ => 0
  | steps + 1, first, second =>
    if first / total = second / total then borderDepth total steps (2 * first) (2 * second) + 1
    else 0

/-- The runs found so far, the latest first, and the patience of their merges. -/
structure Pending (α : Type) where
  runs : List (Run α)
  patience : Nat

namespace Pending

def count : List (Run α) → Nat
  | [] => 0
  | run :: runs => run.values.length + count runs

def depthOfNext (total length : Nat) : List (Run α) → Nat
  | [] => 0
  | latest :: earlier =>
    let first := 2 * count earlier + latest.values.length
    borderDepth total total first (first + latest.values.length + length)

/-- Merges the latest runs whose borders lie deeper than the one at which a new run begins. -/
def settle (below : α → α → Option Bool) (depth : Nat) :
    List (Run α) → (patience : Nat) → Option (Pending α)
  | latest :: before :: earlier, patience =>
    if depth < latest.depth then do
      let (values, patience) ← mergeRuns below patience before.values latest.values
      settle below depth (⟨values, before.depth⟩ :: earlier) patience
    else some ⟨latest :: before :: earlier, patience⟩
  | runs, patience => some ⟨runs, patience⟩
termination_by runs => runs.length

def push (below : α → α → Option Bool) (total : Nat) (values : List α) (pending : Pending α) :
    Option (Pending α) := do
  let depth := depthOfNext total values.length pending.runs
  let settled ← settle below depth pending.runs pending.patience
  return { settled with runs := ⟨values, depth⟩ :: settled.runs }

/-- Merges all runs into one. Of the last three runs, the first two are merged first when the first
is shorter than the last. -/
def close (below : α → α → Option Bool) : List (Run α) → (patience : Nat) → Option (List α)
  | [], _ => some []
  | [run], _ => some run.values
  | [latest, before], patience => do
    let (values, _) ← mergeRuns below patience before.values latest.values
    return values
  | latest :: before :: first :: earlier, patience => do
    if first.values.length < latest.values.length then
      let (values, patience) ← mergeRuns below patience first.values before.values
      close below (latest :: ⟨values, first.depth⟩ :: earlier) patience
    else
      let (values, patience) ← mergeRuns below patience before.values latest.values
      close below (⟨values, before.depth⟩ :: first :: earlier) patience
termination_by runs => runs.length

end Pending

/-- Cuts the values into runs and takes in one after the other. Every run takes a value at least, so
that as many steps as there are values are enough. -/
def gather (below : α → α → Option Bool) (least total : Nat) :
    (steps : Nat) → List α → Pending α → Option (Pending α)
  | 0, _, pending => some pending
  | _, [], pending => some pending
  | steps + 1, values, pending => do
    let (run, after) ← firstRun below least values
    gather below least total steps after (← pending.push below total run)

def ascending? (below : α → α → Option Bool) (values : List α) : Option (List α) := do
  let total := values.length
  let pending ← gather below (leastRun total false) total total values ⟨[], Weaving.worthwhile⟩
  Pending.close below pending.runs pending.patience

end ClusterTopology.Sorting
