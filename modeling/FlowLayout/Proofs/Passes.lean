import Mathlib.Logic.Function.Iterate
import FlowLayout.Proofs.Pipeline
import FlowLayout.Geometry.Scalar
/-!
# What crossing reduction reports

`minimizeCrossings` moves an arrangement of the layers pass after pass and keeps the best layers
seen. This module names the arrangement one pass produces (`Arrangement.pass`: the two sweeps
of `Passing.run` without their bookkeeping) and proves what the outcome reports, for every
graph, every layering and every pair of caps (`minimizeCrossings_reports`):

* the layers returned are those given, each reordered;
* the crossings before are those of the start, the crossings after those of the layers
  returned;
* the crossings recorded after the `i`-th pass are those of the start moved by `i` passes, and
  the crossings after are the least of the start's and of these;
* at most the cap of passes run, and none runs exactly when there are fewer than two layers or
  no crossing to remove.

The bookkeeping is one invariant (`Passing.Tracks`), kept by each pass with its bookkeeping
(`Passing.advance`) and so by every run (`Passing.run_tracks`). A longer run replays a shorter
one pass for pass, stops where it stops, and the best count only falls, so raising the pass cap
never raises the crossings after (`minimizeCrossings_antitone_passes`); over valid settings
neither does raising the pass cap of a layout (`layout_crossingsAfter_antitone_passes`). More
transpose rounds change the course of the sweeps, and can leave more crossings.
-/

namespace FlowLayout

namespace Arrangement

/-- Layer `li` reordered by the medians of `neighbours`, then transposed. -/
def sweepLayer (adj : Adjacency) (rounds : Nat) (neighbours : Nat → List Nat) (a : Arrangement)
    (li : Nat) : Arrangement :=
  (transpose adj (a.withLayer li (reorderByMedian (a.layer li) neighbours a.pos)) li rounds).1

/-- One pass: down the layers by their neighbours above, then up by their neighbours below. -/
def pass (adj : Adjacency) (rounds : Nat) (a : Arrangement) : Arrangement :=
  let count := a.layers.size
  let down := (List.range' 1 (count - 1)).foldl (sweepLayer adj rounds adj.above) a
  (List.range (count - 1)).reverse.foldl (sweepLayer adj rounds adj.below) down

end Arrangement

namespace Passing

variable (adj : Adjacency) (rounds n : Nat)

/-- The sweeps of a pass move only the arrangement in hand (and count swaps). -/
theorem foldl_step (neighbours : Nat → List Nat) :
    ∀ (lis : List Nat) (st : Passing),
      (lis.foldl (step adj rounds neighbours) st).current =
          lis.foldl (Arrangement.sweepLayer adj rounds neighbours) st.current ∧
        (lis.foldl (step adj rounds neighbours) st).best = st.best ∧
        (lis.foldl (step adj rounds neighbours) st).bestCrossings = st.bestCrossings ∧
        (lis.foldl (step adj rounds neighbours) st).passes = st.passes ∧
        (lis.foldl (step adj rounds neighbours) st).history = st.history
  | [], _ => ⟨rfl, rfl, rfl, rfl, rfl⟩
  | li :: lis, st => foldl_step neighbours lis (step adj rounds neighbours st li)

/-- Pass number `pass + 1` with its bookkeeping: both sweeps, the count recorded, and the best
layers replaced when the count beats theirs. -/
def advance (pass : Nat) (st : Passing) : Passing :=
  let count := st.current.layers.size
  let st := (List.range' 1 (count - 1)).foldl (step adj rounds adj.above) st
  let st := (List.range (count - 1)).reverse.foldl (step adj rounds adj.below) st
  let crossings := totalCrossings adj st.current.layers n
  let st := { st with passes := pass + 1, history := st.history ++ [crossings] }
  if crossings < st.bestCrossings then
    { st with bestCrossings := crossings, best := st.current.layers }
  else st

/-- A run advances one pass and stops once no crossing is left or the pass changed nothing. -/
theorem run_succ (remaining pass : Nat) (st : Passing) :
    run adj rounds n (remaining + 1) pass st =
      if (advance adj rounds n pass st).bestCrossings == 0 ||
          (advance adj rounds n pass st).current.layers == st.current.layers then
        advance adj rounds n pass st
      else run adj rounds n remaining (pass + 1) (advance adj rounds n pass st) :=
  rfl

/-- What a pass with its bookkeeping does: the arrangement moves by one pass, the pass is
counted and its crossings recorded, and the best layers are the new ones exactly when their
crossings are fewer. -/
theorem advance_spec (pass : Nat) (st : Passing) :
    (advance adj rounds n pass st).current = st.current.pass adj rounds ∧
      (advance adj rounds n pass st).passes = pass + 1 ∧
      (advance adj rounds n pass st).history =
        st.history ++ [totalCrossings adj (st.current.pass adj rounds).layers n] ∧
      ((advance adj rounds n pass st).best, (advance adj rounds n pass st).bestCrossings) =
        if totalCrossings adj (st.current.pass adj rounds).layers n < st.bestCrossings then
          ((st.current.pass adj rounds).layers,
            totalCrossings adj (st.current.pass adj rounds).layers n)
        else (st.best, st.bestCrossings) := by
  obtain ⟨hdc, hdb, hdbc, -, hdh⟩ := foldl_step adj rounds adj.above
    (List.range' 1 (st.current.layers.size - 1)) st
  obtain ⟨huc, hub, hubc, -, huh⟩ := foldl_step adj rounds adj.below
    (List.range (st.current.layers.size - 1)).reverse
    ((List.range' 1 (st.current.layers.size - 1)).foldl (step adj rounds adj.above) st)
  -- both sweeps together are one pass of the arrangement
  have hcur : ((List.range (st.current.layers.size - 1)).reverse.foldl (step adj rounds adj.below)
      ((List.range' 1 (st.current.layers.size - 1)).foldl (step adj rounds adj.above) st)).current =
      st.current.pass adj rounds := by
    rw [huc, hdc]
    rfl
  unfold advance
  dsimp only
  rw [hcur, hub, hdb, hubc, hdbc, huh, hdh]
  split <;> exact ⟨rfl, rfl, rfl, rfl⟩

variable {adj rounds n}

theorem advance_bestCrossings_le (pass : Nat) (st : Passing) :
    (advance adj rounds n pass st).bestCrossings ≤ st.bestCrossings := by
  have h := congrArg Prod.snd (advance_spec adj rounds n pass st).2.2.2
  dsimp only at h
  rw [h]
  split
  · omega
  · exact Nat.le_refl _

/-- A run ends with no more crossings than it started from. -/
theorem run_bestCrossings_le :
    ∀ (remaining pass : Nat) (st : Passing),
      (run adj rounds n remaining pass st).bestCrossings ≤ st.bestCrossings
  | 0, _, _ => Nat.le_refl _
  | remaining + 1, pass, st => by
    rw [run_succ]
    split
    · exact advance_bestCrossings_le pass st
    · exact Nat.le_trans (run_bestCrossings_le remaining (pass + 1) _)
        (advance_bestCrossings_le pass st)

/-- A longer run replays a shorter one: it advances through the same passes and stops where the
shorter one stops, so its best count is at most the shorter one's. -/
theorem run_bestCrossings_antitone :
    ∀ (remaining remaining' pass : Nat) (st : Passing), remaining ≤ remaining' →
      (run adj rounds n remaining' pass st).bestCrossings ≤
        (run adj rounds n remaining pass st).bestCrossings
  | 0, remaining', pass, st, _ => run_bestCrossings_le remaining' pass st
  | _ + 1, 0, _, _, h => absurd h (by omega)
  | remaining + 1, remaining' + 1, pass, st, h => by
    rw [run_succ, run_succ]
    split
    · exact Nat.le_refl _
    · exact run_bestCrossings_antitone remaining remaining' (pass + 1) _ (by omega)

/-! ### The bookkeeping of the passes -/

variable (adj rounds n)

/-- The bookkeeping of passes run from `start`: the arrangement in hand is the start moved by
the passes run, the history lists the crossings after each of them, and the best layers are
the start's or those after some pass, kept with their crossings, the least of the start's and
of the history. -/
structure Tracks (start : Arrangement) (st : Passing) : Prop where
  current : st.current = (Arrangement.pass adj rounds)^[st.passes] start
  history : st.history = (List.range st.passes).map fun i =>
    totalCrossings adj ((Arrangement.pass adj rounds)^[i + 1] start).layers n
  seen : st.best = start.layers ∨
    ∃ i < st.passes, st.best = ((Arrangement.pass adj rounds)^[i + 1] start).layers
  best : st.bestCrossings = totalCrossings adj st.best n
  least : st.bestCrossings = st.history.foldl min (totalCrossings adj start.layers n)

variable {adj rounds n}

/-- Each pass keeps the bookkeeping. -/
theorem Tracks.advance {start : Arrangement} {st : Passing} (h : Tracks adj rounds n start st) :
    Tracks adj rounds n start (Passing.advance adj rounds n st.passes st) := by
  obtain ⟨hcur, hpasses, hhist, hbest⟩ :=
    advance_spec adj rounds n st.passes st
  -- the new arrangement is the start moved by one more pass
  have hnext : st.current.pass adj rounds =
      (Arrangement.pass adj rounds)^[st.passes + 1] start := by
    rw [h.current, Function.iterate_succ_apply']
  have hb := congrArg Prod.fst hbest
  have hbc := congrArg Prod.snd hbest
  dsimp only at hb hbc
  refine ⟨?_, ?_, ?_, ?_, ?_⟩
  · rw [hcur, hpasses, hnext]
  · rw [hhist, hpasses, h.history, List.range_succ, List.map_append, hnext]
    rfl
  · -- the best layers are the new ones, or those kept from before
    rw [hb, hpasses]
    split
    · exact .inr ⟨st.passes, Nat.lt_succ_self _, by rw [hnext]⟩
    · rcases h.seen with hs | ⟨i, hi, hs⟩
      · exact .inl hs
      · exact .inr ⟨i, Nat.lt_succ_of_lt hi, hs⟩
  · -- the best layers are kept with their own count, or replaced together with it
    rw [hb, hbc]
    split
    · rfl
    · exact h.best
  · have hbc := congrArg Prod.snd hbest
    dsimp only at hbc
    rw [hbc, hhist, List.foldl_append, ← h.least, List.foldl_cons, List.foldl_nil]
    split
    · next hlt => exact (Nat.min_eq_right (Nat.le_of_lt hlt)).symm
    · next hge => exact (Nat.min_eq_left (Nat.le_of_not_lt hge)).symm

/-- Every run keeps the bookkeeping and runs at most the passes it is allowed, and at least one
when allowed one. -/
theorem run_tracks {start : Arrangement} :
    ∀ (remaining : Nat) (st : Passing), Tracks adj rounds n start st →
      Tracks adj rounds n start (run adj rounds n remaining st.passes st) ∧
        (run adj rounds n remaining st.passes st).passes ≤ st.passes + remaining ∧
        (0 < remaining → st.passes < (run adj rounds n remaining st.passes st).passes)
  | 0, _, h => ⟨h, Nat.le_refl _, fun h0 => absurd h0 (Nat.lt_irrefl 0)⟩
  | remaining + 1, st, h => by
    have hpasses := (advance_spec adj rounds n st.passes st).2.1
    rw [run_succ]
    split
    · exact ⟨h.advance, by omega, fun _ => by omega⟩
    · -- the run goes on from the pass just counted
      obtain ⟨htracks, hle, hlt⟩ := run_tracks remaining _ h.advance
      rw [hpasses] at htracks hle hlt
      refine ⟨htracks, by omega, fun _ => ?_⟩
      cases remaining with
      | zero => simp only [run]; omega
      | succ remaining => have := hlt (Nat.succ_pos remaining); omega

end Passing

/-! ### The outcome -/

/-- The arrangement crossing reduction starts from: the layers given, with their positions. -/
def Arrangement.ofLayers (layers : List (List Nat)) (n : Nat) : Arrangement :=
  let start := (layers.map List.toArray).toArray
  { layers := start, pos := positionsOf start n }

@[simp] theorem Arrangement.size_ofLayers (layers : List (List Nat)) (n : Nat) :
    (Arrangement.ofLayers layers n).layers.size = layers.length := by
  simp [Arrangement.ofLayers]

section Outcome

variable (g : LayoutGraph) (layers : List (List Nat)) (layerOf : Array Nat) (maxPasses rounds : Nat)

/-- Crossing reduction starts its bookkeeping from the layers given, and runs passes only when
there are two layers or more and some crossing to remove. -/
theorem minimizeCrossings_eq :
    minimizeCrossings g layers layerOf maxPasses rounds =
      let adj := Adjacency.build g layerOf
      let a := Arrangement.ofLayers layers g.nodeCount
      let st₀ : Passing :=
        { current := a, best := a.layers, bestCrossings := totalCrossings adj a.layers g.nodeCount,
          passes := 0, swaps := 0, history := [] }
      let st := if a.layers.size > 1 && st₀.bestCrossings > 0 then
          Passing.run adj rounds g.nodeCount maxPasses st₀.passes st₀
        else st₀
      { layers := st.best, crossingsBefore := st₀.bestCrossings, crossingsAfter := st.bestCrossings,
        passes := st.passes, swaps := st.swaps, passCrossings := st.history } :=
  rfl

/-- The outcome of crossing reduction is read off the final bookkeeping of its passes. -/
theorem minimizeCrossings_tracks :
    ∃ st : Passing,
      Passing.Tracks (Adjacency.build g layerOf) rounds g.nodeCount
          (Arrangement.ofLayers layers g.nodeCount) st ∧
        st.bestCrossings ≤ totalCrossings (Adjacency.build g layerOf)
          (Arrangement.ofLayers layers g.nodeCount).layers g.nodeCount ∧
        st.passes ≤ maxPasses ∧
        (0 < maxPasses → (st.passes = 0 ↔ layers.length < 2 ∨
          totalCrossings (Adjacency.build g layerOf) (Arrangement.ofLayers layers g.nodeCount).layers
            g.nodeCount = 0)) ∧
        minimizeCrossings g layers layerOf maxPasses rounds =
          { layers := st.best,
            crossingsBefore := totalCrossings (Adjacency.build g layerOf)
              (Arrangement.ofLayers layers g.nodeCount).layers g.nodeCount,
            crossingsAfter := st.bestCrossings, passes := st.passes, swaps := st.swaps,
            passCrossings := st.history } := by
  rw [minimizeCrossings_eq]
  dsimp only
  -- the bookkeeping holds before any pass
  have h₀ : Passing.Tracks (Adjacency.build g layerOf) rounds g.nodeCount
      (Arrangement.ofLayers layers g.nodeCount)
      { current := Arrangement.ofLayers layers g.nodeCount,
        best := (Arrangement.ofLayers layers g.nodeCount).layers,
        bestCrossings := totalCrossings (Adjacency.build g layerOf)
          (Arrangement.ofLayers layers g.nodeCount).layers g.nodeCount,
        passes := 0, swaps := 0, history := [] } :=
    ⟨rfl, rfl, .inl rfl, rfl, rfl⟩
  split
  · next hrun =>
    obtain ⟨htracks, hle, hlt⟩ := Passing.run_tracks maxPasses _ h₀
    simp only [Bool.and_eq_true, decide_eq_true_eq, Arrangement.size_ofLayers] at hrun
    refine ⟨_, htracks, Passing.run_bestCrossings_le maxPasses 0 _, by simpa using hle,
      fun hP => ?_, rfl⟩
    have := hlt hP
    constructor
    · intro h0
      omega
    · intro h
      omega
  · next hstay =>
    simp only [Bool.and_eq_true, decide_eq_true_eq, Arrangement.size_ofLayers, not_and_or] at hstay
    refine ⟨_, h₀, Nat.le_refl _, Nat.zero_le _, fun _ => ?_, rfl⟩
    simp only [true_iff]
    omega

/-- What an outcome of crossing reduction reports about the arrangement `start` it began
from, with pass cap `maxPasses` and transpose cap `rounds`. -/
structure Ordering.Reports (o : Ordering) (adj : Adjacency) (rounds n maxPasses : Nat)
    (start : Arrangement) : Prop where
  /-- The layers of the start, each reordered. -/
  sameLayers : SameLayers o.layers start.layers
  before : o.crossingsBefore = totalCrossings adj start.layers n
  after : o.crossingsAfter = totalCrossings adj o.layers n
  /-- The crossings after the `i`-th pass are those of the start moved by `i` passes. -/
  history : o.passCrossings = (List.range o.passes).map fun i =>
    totalCrossings adj ((Arrangement.pass adj rounds)^[i + 1] start).layers n
  least : o.crossingsAfter = o.passCrossings.foldl min o.crossingsBefore
  fewer : o.crossingsAfter ≤ o.crossingsBefore
  passes_le : o.passes ≤ maxPasses
  passes_eq_zero_iff : o.passes = 0 ↔ start.layers.size < 2 ∨ totalCrossings adj start.layers n = 0

/-- For every graph, layering and pair of caps with at least one pass, crossing reduction
returns the layers given, each reordered; reports the crossings of the start before and of the
layers returned after; records the crossings after each pass run, the start moved by that many
passes; reports after the least of the start's crossings and of those, so never more than
before; and runs at most the cap of passes, none exactly when there are fewer than two layers
or no crossing at the start. -/
theorem minimizeCrossings_reports (hP : 0 < maxPasses) :
    (minimizeCrossings g layers layerOf maxPasses rounds).Reports (Adjacency.build g layerOf)
      rounds g.nodeCount maxPasses (Arrangement.ofLayers layers g.nodeCount) := by
  obtain ⟨st, htracks, hfewer, hle, hzero, heq⟩ :=
    minimizeCrossings_tracks g layers layerOf maxPasses rounds
  have hsame := minimizeCrossings_sameLayers g layers layerOf maxPasses rounds
  rw [heq] at hsame ⊢
  exact ⟨hsame, rfl, htracks.best, htracks.history, htracks.least, hfewer, hle,
    (Arrangement.size_ofLayers layers g.nodeCount) ▸ hzero hP⟩

/-- A chart of two crossed edges: `a` to `y` and `b` to `x`. -/
def crossedChart : Flowchart where
  nodes := [{ id := "a" }, { id := "b" }, { id := "x" }, { id := "y" }]
  edges := [{ source := "a", target := "y" }, { source := "b", target := "x" }]

/-- Two crossed edges between two layers of two nodes. -/
def crossedPair : LayoutGraph where
  ids := #["a", "b", "x", "y"]
  endpoints := #[some (0, 3), some (1, 2)]
  outgoing := #[[0], [1], [], []]

theorem minimizeCrossings_reports_crossedPair :
    0 < 8 ∧ (minimizeCrossings crossedPair [[0, 1], [2, 3]] #[0, 0, 1, 1] 8 10).Reports
      (Adjacency.build crossedPair #[0, 0, 1, 1]) 10 crossedPair.nodeCount 8
      (Arrangement.ofLayers [[0, 1], [2, 3]] crossedPair.nodeCount) :=
  ⟨by decide, minimizeCrossings_reports crossedPair [[0, 1], [2, 3]] #[0, 0, 1, 1] 8 10
    (by decide)⟩

/-- Raising the pass cap never raises the crossings after: the longer run replays the shorter
one. -/
theorem minimizeCrossings_antitone_passes {maxPasses' : Nat} (h : maxPasses ≤ maxPasses') :
    (minimizeCrossings g layers layerOf maxPasses' rounds).crossingsAfter ≤
      (minimizeCrossings g layers layerOf maxPasses rounds).crossingsAfter := by
  rw [minimizeCrossings_eq, minimizeCrossings_eq]
  dsimp only
  split
  · exact Passing.run_bestCrossings_antitone _ _ _ _ h
  · exact Nat.le_refl _

end Outcome

/-! ### The pass cap of a layout -/

/-- Repairing keeps the order of nonzero counts. -/
theorem LayoutConfig.repairCount_le_repairCount {m m' : Nat} (fallback : Nat) (hm : 0 < m)
    (h : m ≤ m') : repairCount m fallback ≤ repairCount m' fallback := by
  unfold repairCount
  simp only [beq_iff_eq, Nat.ne_of_gt hm, Nat.ne_of_gt (Nat.lt_of_lt_of_le hm h), if_false]
  omega

/-- Raising a nonzero pass cap alone never raises the crossings a layout reports after crossing
reduction. Valid settings have a nonzero cap; a zero cap is repaired to the default. -/
theorem layout_crossingsAfter_antitone_passes {α : Type} [Scalar α] (c : Flowchart)
    (s : LayoutConfig α) (hs : 0 < s.crossingPasses) {passes : Nat}
    (h : s.crossingPasses ≤ passes) :
    (layoutChart c { s with crossingPasses := passes }).layout.stats.crossingsAfter ≤
      (layoutChart c s).layout.stats.crossingsAfter := by
  show (orderingOf c { s with crossingPasses := passes }).crossingsAfter ≤
    (orderingOf c s).crossingsAfter
  exact minimizeCrossings_antitone_passes _ _ _ _ _
    (LayoutConfig.repairCount_le_repairCount _ hs h)

/-- One more pass than the default cap keeps or lowers the crossings of a layout of two crossed
edges. -/
theorem layout_crossingsAfter_antitone_passes_crossed :
    0 < (LayoutConfig.default : LayoutConfig Float32).crossingPasses ∧
      (LayoutConfig.default : LayoutConfig Float32).crossingPasses ≤ 9 ∧
      (layoutChart crossedChart
          { (LayoutConfig.default : LayoutConfig Float32) with crossingPasses := 9 }
          ).layout.stats.crossingsAfter ≤
        (layoutChart crossedChart (LayoutConfig.default : LayoutConfig Float32)
          ).layout.stats.crossingsAfter :=
  ⟨by decide, by decide, layout_crossingsAfter_antitone_passes _ _ (by decide) (by decide)⟩

end FlowLayout
