import FlowLayout.Layout.Graph
/-!
# Ordering layers to reduce crossings

Only resolved edges between adjacent layers count, back edges included and read from the
upper layer down. Two such edges between the same pair of layers cross when their upper ends
and their lower ends stand in opposite orders; `crossingsBetween` counts these pairs as the
inversions of the lower positions sorted by upper position.

A pass sweeps down the layers, reordering each by the median position of its neighbours in
the layer above and then swapping adjacent nodes while a swap lowers the crossings next to the
layer (`transpose`), and then sweeps up the same way with the neighbours below. The
inversions are counted by a merge sort (first section). Medians are
kept doubled, so they are exact: a node without neighbours goes after those with one, and
ties keep the present order. Passes stop at the cap, when no crossing is left, or when a pass
changes nothing. The result is the best ordering seen: the start, or the ordering after some
pass.
-/

/-!
## Counting inversions

An inversion of a list is a pair of positions `i < j` whose values stand the wrong way round,
`v[i] > v[j]`; equal values are no inversion. `sortCount` sorts a list by merging halves and
counts the inversions on the way: when an item of the right half is taken before the items
left in the left half, it stands the wrong way round with each of them.
-/

namespace FlowLayout

/-- Merges two sorted lists, adding to `count` the inversions between them: a right item
taken first counts once for every left item still waiting. -/
def mergeCount : List Nat → List Nat → Nat → List Nat × Nat
  | [], right, count => (right, count)
  | left, [], count => (left, count)
  | l :: ls, r :: rs, count =>
    if l ≤ r then
      let (m, c) := mergeCount ls (r :: rs) count
      (l :: m, c)
    else
      let (m, c) := mergeCount (l :: ls) rs (count + ls.length + 1)
      (r :: m, c)

/-- The list sorted, with its number of inversions. -/
def sortCount (xs : List Nat) : List Nat × Nat :=
  if _short : xs.length ≤ 1 then (xs, 0)
  else
    let mid := xs.length / 2
    let (left, a) := sortCount (xs.take mid)
    let (right, b) := sortCount (xs.drop mid)
    let (merged, c) := mergeCount left right 0
    (merged, a + b + c)
termination_by xs.length
decreasing_by
  all_goals simp only [List.length_take, List.length_drop]
  all_goals omega

/-- The number of inversions of a list. -/
def inversions (xs : List Nat) : Nat := (sortCount xs).2

end FlowLayout

namespace FlowLayout

/-- For each node, its neighbours in the layer above and in the layer below. -/
structure Adjacency where
  up : Array (List Nat)
  down : Array (List Nat)

/-- The adjacent-layer neighbours, from resolved edges in edge order. -/
def Adjacency.build (g : LayoutGraph) (layerOf : Array Nat) : Adjacency :=
  let n := g.nodeCount
  g.edges.foldl (fun (a : Adjacency) (_, s, t) =>
    let ls := layerOf.getD s 0
    let lt := layerOf.getD t 0
    if ls + 1 == lt then
      { up := a.up.modify t (· ++ [s]), down := a.down.modify s (· ++ [t]) }
    else if lt + 1 == ls then
      { up := a.up.modify s (· ++ [t]), down := a.down.modify t (· ++ [s]) }
    else a) { up := Array.replicate n [], down := Array.replicate n [] }

/-- Neighbours below. -/
def Adjacency.below (a : Adjacency) (n : Nat) : List Nat := a.down.getD n []

/-- Neighbours above. -/
def Adjacency.above (a : Adjacency) (n : Nat) : List Nat := a.up.getD n []

/-- Each node's index within its layer, recorded into `pos`. -/
def recordPositions (layer : Array Nat) (pos : Array Nat) : Array Nat :=
  layer.toList.zipIdx.foldl (fun p (v, i) => p.setIfInBounds v i) pos

/-- Positions of all nodes. -/
def positionsOf (layers : Array (Array Nat)) (n : Nat) : Array Nat :=
  layers.foldl (fun p layer => recordPositions layer p) (Array.replicate n 0)

/-- Whether pair `a` is at most pair `b` lexicographically. -/
def pairLe (a b : Nat × Nat) : Bool := a.1 < b.1 || (a.1 == b.1 && a.2 ≤ b.2)

/-- Crossings between a layer and the next: inversions of the lower positions of its edges,
sorted by upper position and then lower position. -/
def crossingsBetween (upper : Array Nat) (adj : Adjacency) (pos : Array Nat) : Nat :=
  let pairs := upper.toList.flatMap fun v =>
    (adj.below v).map fun t => (pos.getD v 0, pos.getD t 0)
  inversions ((pairs.mergeSort pairLe).map (·.2))

/-- Crossings of a whole ordering. -/
def totalCrossings (adj : Adjacency) (layers : Array (Array Nat)) (n : Nat) : Nat :=
  let pos := positionsOf layers n
  ((layers.toList.take (layers.size - 1)).map fun layer =>
    crossingsBetween layer adj pos).foldl (· + ·) 0

/-- Twice the median of a list: twice the middle value, or the sum of the two middle values. -/
def medianDoubled (values : List Nat) : Option Nat :=
  let sorted := values.mergeSort (· ≤ ·)
  let mid := sorted.length / 2
  if sorted.isEmpty then none
  else if sorted.length % 2 == 1 then some (2 * sorted.getD mid 0)
  else some (sorted.getD (mid - 1) 0 + sorted.getD mid 0)

/-- The order of scored nodes: with a median before without; by median, then by present
index. -/
def scoreLe (a b : Option Nat × Nat × Nat) : Bool :=
  match a.1, b.1 with
  | some x, some y => x < y || (x == y && a.2.1 ≤ b.2.1)
  | some _, none => true
  | none, some _ => false
  | none, none => a.2.1 ≤ b.2.1

/-- A layer reordered by the median positions of given neighbours. -/
def reorderByMedian (layer : Array Nat) (neighbours : Nat → List Nat) (pos : Array Nat) :
    Array Nat :=
  let scored := layer.toList.zipIdx.map fun (v, i) =>
    (medianDoubled ((neighbours v).map (pos.getD · 0)), i, v)
  ((scored.mergeSort scoreLe).map (·.2.2)).toArray

/-- An ordering in progress: the layers and every node's position. -/
structure Arrangement where
  layers : Array (Array Nat)
  pos : Array Nat

namespace Arrangement

/-- Layer `li`. -/
def layer (a : Arrangement) (li : Nat) : Array Nat := a.layers.getD li #[]

/-- The arrangement with layer `li` replaced and its positions recorded. -/
def withLayer (a : Arrangement) (li : Nat) (layer : Array Nat) : Arrangement :=
  { layers := a.layers.setIfInBounds li layer, pos := recordPositions layer a.pos }

/-- Nodes `i` and `i + 1` of layer `li` exchanged, with their positions. -/
def swapAt (a : Arrangement) (li i : Nat) : Arrangement :=
  let layer := (a.layer li).swapIfInBounds i (i + 1)
  { layers := a.layers.setIfInBounds li layer
    pos := (a.pos.setIfInBounds (layer.getD i 0) i).setIfInBounds (layer.getD (i + 1) 0) (i + 1) }

/-- Crossings on the two sides of layer `li`. -/
def localCrossings (adj : Adjacency) (a : Arrangement) (li : Nat) : Nat :=
  (if li > 0 then crossingsBetween (a.layer (li - 1)) adj a.pos else 0) +
    (if li + 1 < a.layers.size then crossingsBetween (a.layer li) adj a.pos else 0)

end Arrangement

/-- The state of transposing one layer. -/
structure Transposing where
  arrangement : Arrangement
  current : Nat
  swaps : Nat
  improved : Bool
  stopped : Bool

/-- One sweep of adjacent swaps over the given slots: a swap is kept when it lowers the local
crossings and undone otherwise; the sweep stops once no crossing is left. -/
def Transposing.sweep (adj : Adjacency) (li : Nat) : List Nat → Transposing → Transposing
  | [], t => t
  | i :: rest, t =>
    if t.current == 0 then { t with stopped := true }
    else
      let trial := t.arrangement.swapAt li i
      let c := trial.localCrossings adj li
      if c < t.current then
        sweep adj li rest
          { t with arrangement := trial, current := c, swaps := t.swaps + 1, improved := true }
      else sweep adj li rest t

/-- Up to `rounds` sweeps, stopping after one that keeps no swap. -/
def Transposing.rounds (adj : Adjacency) (li : Nat) (slots : List Nat) :
    Nat → Transposing → Transposing
  | 0, t => t
  | k + 1, t =>
    let t' := sweep adj li slots { t with improved := false }
    if t'.stopped || !t'.improved then t' else rounds adj li slots k t'

/-- Adjacent swaps in layer `li` that lower the crossings next to it; the new arrangement and
the number of swaps kept. -/
def transpose (adj : Adjacency) (a : Arrangement) (li rounds : Nat) : Arrangement × Nat :=
  let len := (a.layer li).size
  if len < 2 then (a, 0)
  else
    let t := Transposing.rounds adj li (List.range (len - 1)) rounds
      { arrangement := a, current := a.localCrossings adj li, swaps := 0, improved := false,
        stopped := false }
    (t.arrangement, t.swaps)

/-- The outcome of crossing reduction: the best layers, the crossings before and after, the
passes run, the swaps kept, and the crossings after each pass. -/
structure Ordering where
  layers : Array (Array Nat)
  crossingsBefore : Nat
  crossingsAfter : Nat
  passes : Nat
  swaps : Nat
  passCrossings : List Nat

/-- What passes carry from one to the next. -/
structure Passing where
  current : Arrangement
  best : Array (Array Nat)
  bestCrossings : Nat
  passes : Nat
  swaps : Nat
  history : List Nat

/-- Reorders layer `li` by medians of `neighbours`, then transposes it. -/
def Passing.step (adj : Adjacency) (rounds : Nat) (neighbours : Nat → List Nat) (st : Passing)
    (li : Nat) : Passing :=
  let a := st.current
  let a := a.withLayer li (reorderByMedian (a.layer li) neighbours a.pos)
  let (a, s) := transpose adj a li rounds
  { st with current := a, swaps := st.swaps + s }

/-- Runs passes `pass`, `pass + 1`, … while `remaining` allows. -/
def Passing.run (adj : Adjacency) (rounds n : Nat) : Nat → Nat → Passing → Passing
  | 0, _, st => st
  | remaining + 1, pass, st =>
    let previous := st.current.layers
    let count := previous.size
    let st := (List.range' 1 (count - 1)).foldl (Passing.step adj rounds adj.above) st
    let st := (List.range (count - 1)).reverse.foldl (Passing.step adj rounds adj.below) st
    let crossings := totalCrossings adj st.current.layers n
    let st := { st with passes := pass + 1, history := st.history ++ [crossings] }
    let st := if crossings < st.bestCrossings then
        { st with bestCrossings := crossings, best := st.current.layers }
      else st
    if st.bestCrossings == 0 || st.current.layers == previous then st
    else run adj rounds n remaining (pass + 1) st

/-- Crossing reduction over a layering, with at most `maxPasses` passes and `rounds`
transpose rounds. -/
def minimizeCrossings (g : LayoutGraph) (layers : List (List Nat)) (layerOf : Array Nat)
    (maxPasses rounds : Nat) : Ordering :=
  let adj := Adjacency.build g layerOf
  let n := g.nodeCount
  let start := (layers.map List.toArray).toArray
  let before := totalCrossings adj start n
  let st : Passing :=
    { current := { layers := start, pos := positionsOf start n }, best := start,
      bestCrossings := before, passes := 0, swaps := 0, history := [] }
  let st := if start.size > 1 && before > 0 then Passing.run adj rounds n maxPasses 0 st else st
  { layers := st.best, crossingsBefore := before, crossingsAfter := st.bestCrossings,
    passes := st.passes, swaps := st.swaps, passCrossings := st.history }

end FlowLayout
