import FlowLayout.Layout.Route
import FlowLayout.Layout.Graph
import FlowLayout.Layout.Config
/-!
# Routing edges around nodes

Every node's box, grown by the obstacle padding, is an obstacle for the edges of other nodes.
A route's hits are the obstacles (other than its own ends) that some segment of it touches.

An edge between two nodes first tries the direct route between its anchors: straight, or
curved when it runs diagonally (bent by `length · curve factor`) or when it is one of several
edges between the same two nodes (offset by multiples of 12, spread evenly around zero and
measured from the lower node index to the higher). A curve that hits an obstacle is
straightened. When the straight chord itself hits an obstacle, the edge detours: first through
the middle line between the two nodes, then through channels stepping out alternately right
and left of the middle; the first clear detour wins, or else the one with the fewest hits.

A self-loop tries the four sides of its node and keeps the first clear one, or the one with
the fewest hits.
-/

namespace FlowLayout

variable {α : Type} [Scalar α]

/-- Padded boxes, and the two nodes whose boxes are not obstacles. -/
structure Obstacles (α : Type) where
  padded : Array (Rect α)
  source : Nat
  target : Nat

/-- The number of obstacles the polyline touches. -/
def Obstacles.hits (o : Obstacles α) (points : List (Point α)) : Nat :=
  (o.padded.toList.zipIdx.filter fun (r, i) =>
    i != o.source && i != o.target && polylineMeetsRect points r).length

/-- The direct route between two anchors, bent by `curveFactor` when diagonal and by
`offset`. -/
def directRoute (p q : Point α) (offset curveFactor : α) : RoutedEdge α :=
  let dx := q.x - p.x
  let dy := q.y - p.y
  let length := Scalar.hypot dx dy
  let eps : α := 0.001
  let diagonal := eps < Scalar.abs dx && eps < Scalar.abs dy
  let bend := (if diagonal then length * curveFactor else 0.0) + offset
  let straight : RoutedEdge α :=
    { edgeIndex := 0, anchorFrom := p, anchorTo := q, waypoints := [], controlPoint := none,
      kind := .straight, backEdge := false, clear := true }
  if length < eps || Scalar.abs bend < eps then straight
  else
    let nx := -dy / length
    let ny := dx / length
    let control : Point α := ⟨(p.x + q.x) / 2.0 + nx * bend, (p.y + q.y) / 2.0 + ny * bend⟩
    { straight with controlPoint := some control, kind := .curved }

/-- The detour polylines tried in order, in the frame where the route leaves vertically: the
middle line, then channels at growing distances alternately right and left. -/
def detourCandidates (start finish : Point α) (sign : α) (config : LayoutConfig α) :
    List (List (Point α)) :=
  let midLine := (start.y + finish.y) / 2.0
  let leave := start.y + sign * config.stubLength
  let arrive := finish.y - sign * config.stubLength
  let origin := (start.x + finish.x) / 2.0
  let middle : List (Point α) :=
    [start, ⟨start.x, midLine⟩, ⟨start.x, midLine⟩, ⟨finish.x, midLine⟩, ⟨finish.x, midLine⟩,
      finish]
  let channels := (List.range' 1 config.detourAttempts).map fun attempt =>
    let distance : α := Scalar.ofNat ((attempt + 1) / 2) * config.detourStep
    let channel := if attempt % 2 == 1 then origin + distance else origin - distance
    [start, ⟨start.x, leave⟩, ⟨channel, leave⟩, ⟨channel, arrive⟩, ⟨finish.x, arrive⟩, finish]
  middle :: channels

/-- The first candidate with no hits, or else the first with the fewest; with whether it is
clear. -/
def firstClear (evaluate : List (Point α) → List (Point α) × Nat) :
    List (List (Point α)) → Option (List (Point α) × Nat) → List (Point α) × Bool
  | [], best => match best with
    | some (pts, _) => (pts, false)
    | none => ([], false)
  | c :: rest, best =>
    let (pts, hits) := evaluate c
    if hits == 0 then (pts, true)
    else
      let best := match best with
        | some (b, h) => if hits < h then some (pts, hits) else some (b, h)
        | none => some (pts, hits)
      firstClear evaluate rest best

/-- An orthogonal detour between two boxes: its polyline and whether it is clear. -/
def orthogonalDetour (sourceBox targetBox : Rect α) (o : Obstacles α) (config : LayoutConfig α) :
    List (Point α) × Bool :=
  let sc := sourceBox.center
  let tc := targetBox.center
  let verticalFirst := Scalar.abs (tc.x - sc.x) ≤ Scalar.abs (tc.y - sc.y)
  let frame := fun (p : Point α) => if verticalFirst then p else p.swap
  let sl := frame sc
  let tl := frame tc
  let (sh, th) := if verticalFirst then (sourceBox.height / 2.0, targetBox.height / 2.0)
    else (sourceBox.width / 2.0, targetBox.width / 2.0)
  let sign : α := if sl.y ≤ tl.y then 1.0 else -1.0
  let start : Point α := ⟨sl.x, sl.y + sign * sh⟩
  let finish : Point α := ⟨tl.x, tl.y - sign * th⟩
  let evaluate := fun (inFrame : List (Point α)) =>
    let world := simplifyPolyline (inFrame.map frame)
    (world, o.hits world)
  firstClear evaluate (detourCandidates start finish sign config) none

/-- The route between two distinct nodes. -/
def routeBetween (sourceShape : NodeShape) (sourceBox : Rect α) (targetShape : NodeShape)
    (targetBox : Rect α) (o : Obstacles α) (offset : α) (config : LayoutConfig α) :
    RoutedEdge α :=
  let p := shapeAnchor sourceShape sourceBox targetBox.center
  let q := shapeAnchor targetShape targetBox sourceBox.center
  if o.hits [p, q] == 0 then
    let r := directRoute p q offset config.curveFactor
    if r.kind == .curved && o.hits r.pathPoints > 0 then directRoute p q 0.0 0.0 else r
  else
    let (pts, clear) := orthogonalDetour sourceBox targetBox o config
    { edgeIndex := 0, anchorFrom := pts.headD p, anchorTo := pts.getLastD q,
      waypoints := (pts.drop 1).dropLast, controlPoint := none, kind := .orthogonal,
      backEdge := false, clear }

/-- The route of a self-loop on a node with box `r`. -/
def selfLoopRoute (edgeIndex : Nat) (r : Rect α) (o : Obstacles α) (backEdge : Bool) :
    RoutedEdge α :=
  let pick := (loopSides : List (α × α)).foldl (fun (st : Option (List (Point α) × Nat) × Bool)
      (nx, ny) =>
    let (best, done) := st
    if done then st
    else
      let pts := loopPoints r nx ny
      let hits := o.hits pts
      let best := match best with
        | some (b, h) => if hits < h then some (pts, hits) else some (b, h)
        | none => some (pts, hits)
      (best, hits == 0)) (none, false)
  let (pts, hits) := pick.1.getD (loopPoints r 1.0 0.0, 0)
  { edgeIndex, anchorFrom := pts.headD ⟨0.0, 0.0⟩, anchorTo := pts.getLastD ⟨0.0, 0.0⟩,
    waypoints := (pts.drop 1).dropLast, controlPoint := none, kind := .selfLoop, backEdge,
    clear := hits == 0 }

/-- The unordered pair of two nodes. -/
def pairKey (s t : Nat) : Nat × Nat := (min s t, max s t)

/-- The route of resolved edge `e` from `s` to `t`, given the node pairs of the edges between
distinct nodes routed before it. -/
def routeEdge (c : Flowchart) (g : LayoutGraph) (boxes : Array (Rect α)) (back : BackEdges)
    (config : LayoutConfig α) (seenPairs : List (Nat × Nat)) (e s t : Nat) : RoutedEdge α :=
  let padded := boxes.map (·.padded config.obstaclePadding)
  let shapeOf := fun (i : Nat) => ((c.nodes[i]?).map (·.shape)).getD .rectangle
  let boxOf := fun (i : Nat) => boxes.getD i ⟨0.0, 0.0, 0.0, 0.0⟩
  let isBack := back.contains e
  let o : Obstacles α := { padded, source := s, target := t }
  if s == t then selfLoopRoute e (boxOf s) o isBack
  else
    let key := pairKey s t
    let count := (g.edges.filter fun (_, s, t) => pairKey s t == key).length
    let seen := (seenPairs.filter (· == key)).length
    let offset : α :=
      if count > 1 then (Scalar.ofNat seen - Scalar.ofNat (count - 1) / 2.0) * 12.0 else 0.0
    let offset := if s > t then -offset else offset
    let r := routeBetween (shapeOf s) (boxOf s) (shapeOf t) (boxOf t) o offset config
    { r with edgeIndex := e, backEdge := isBack }

/-- Routes one more edge `(e, s, t)` after the routes so far, keeping the node pairs of the
edges between distinct nodes. -/
def routeStep (c : Flowchart) (g : LayoutGraph) (boxes : Array (Rect α)) (back : BackEdges)
    (config : LayoutConfig α) (st : List (RoutedEdge α) × List (Nat × Nat))
    (x : Nat × Nat × Nat) : List (RoutedEdge α) × List (Nat × Nat) :=
  let (e, s, t) := x
  (st.1 ++ [routeEdge c g boxes back config st.2 e s t],
    if s == t then st.2 else st.2 ++ [pairKey s t])

/-- Routes of all resolved edges, in edge order. -/
def routeEdges (c : Flowchart) (g : LayoutGraph) (boxes : Array (Rect α)) (back : BackEdges)
    (config : LayoutConfig α) : List (RoutedEdge α) :=
  (g.edges.foldl (routeStep c g boxes back config) ([], [])).1

end FlowLayout
