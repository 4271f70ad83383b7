import FlowLayout.Chart.Flowchart
/-!
# The graph of a chart, its back edges and its layers

Layout works on node indexes. An edge end resolves to the first node with its id; an edge
whose two ends both resolve is a resolved edge, and only resolved edges take part in layout.
`outgoing` lists, for each node, its resolved outgoing edges in edge order.

Nodes are sorted by id (code point order), ties by index. The later sections break the cycles
of the graph by its back edges and assign the rest to layers.
-/

namespace FlowLayout

/-- A chart's nodes and resolved edges by index. -/
structure LayoutGraph where
  ids : Array String
  endpoints : Array (Option (Nat × Nat))
  outgoing : Array (List Nat)

namespace LayoutGraph

/-- The graph of a chart. -/
def ofChart (c : Flowchart) : LayoutGraph :=
  let ids := c.nodes.toArray.map (·.id)
  let indexOf := fun (id : String) => ids.findIdx? (· == id)
  let endpoints := c.edges.toArray.map fun e =>
    match indexOf e.source, indexOf e.target with
    | some s, some t => some (s, t)
    | _, _ => none
  let outgoing := endpoints.toList.zipIdx.foldl (fun (out : Array (List Nat)) (ep, i) =>
    match ep with
    | some (s, _) => out.modify s (· ++ [i])
    | none => out) (Array.replicate ids.size [])
  { ids, endpoints, outgoing }

/-- The number of nodes. -/
def nodeCount (g : LayoutGraph) : Nat := g.ids.size

/-- The number of edges, resolved or not. -/
def edgeCount (g : LayoutGraph) : Nat := g.endpoints.size

/-- The resolved edges as `(edge index, source, target)`, in edge order. -/
def edges (g : LayoutGraph) : List (Nat × Nat × Nat) :=
  g.endpoints.toList.zipIdx.filterMap fun (ep, i) => ep.map fun (s, t) => (i, s, t)

/-- The id of a node. -/
def id (g : LayoutGraph) (n : Nat) : String := g.ids.getD n ""

/-- The ends of an edge, if it is resolved. -/
def ends (g : LayoutGraph) (e : Nat) : Option (Nat × Nat) := g.endpoints.getD e none

/-- The resolved outgoing edges of a node. -/
def out (g : LayoutGraph) (n : Nat) : List Nat := g.outgoing.getD n []

/-- Whether node `a` comes before node `b`: by id, then by index. -/
def idOrder (g : LayoutGraph) (a b : Nat) : Bool :=
  g.id a < g.id b || (g.id a == g.id b && a ≤ b)

/-- Nodes sorted by id, then index. -/
def sortById (g : LayoutGraph) (nodes : List Nat) : List Nat := nodes.mergeSort g.idOrder

end LayoutGraph

end FlowLayout

/-!
## Back edges

A depth-first search from every unvisited node in index order, following resolved outgoing
edges in edge order, marks a node while it is on the search path. An edge from a node to a
node on the path closes a cycle: its `(source, target)` pair is a back key. The back edges are
all resolved edges whose pair is a back key, so parallel copies of a back edge are back edges
too. Removing them leaves the resolved graph acyclic.
-/

namespace FlowLayout

/-- Where a node stands in the search. -/
inductive Visit where
  | unvisited
  | onPath
  | finished
  deriving DecidableEq, Repr, Inhabited

/-- The search state: each node's standing, and the back keys found, increasing. -/
structure Search where
  visit : Array Visit
  keys : List (Nat × Nat)

/-- Whether pair `a` comes before pair `b` lexicographically. -/
def pairLt (a b : Nat × Nat) : Bool := a.1 < b.1 || (a.1 == b.1 && a.2 < b.2)

/-- A pair added to an increasing list of pairs, once. -/
def insertPair (p : Nat × Nat) : List (Nat × Nat) → List (Nat × Nat)
  | [] => [p]
  | q :: rest => if pairLt p q then p :: q :: rest else if p == q then q :: rest else q :: insertPair p rest

namespace Search

/-- The standing of a node. -/
def at? (s : Search) (n : Nat) : Visit := s.visit.getD n .finished

/-- Explores from node `n`: marks it on the path, follows its edges, marks it finished. Each
nested call starts at an unvisited node, so `fuel` above the node count is never used up. -/
def explore (g : LayoutGraph) : Nat → Nat → Search → Search
  | 0, _, s => s
  | fuel + 1, n, s =>
    let s := { s with visit := s.visit.setIfInBounds n .onPath }
    let s := (g.out n).foldl (fun s e =>
      match g.ends e with
      | some (_, t) =>
        match s.at? t with
        | .unvisited => explore g fuel t s
        | .onPath => { s with keys := insertPair (n, t) s.keys }
        | .finished => s
      | none => s) s
    { s with visit := s.visit.setIfInBounds n .finished }

end Search

/-- The back edges of a graph: their keys and their edge indexes, both increasing. -/
structure BackEdges where
  keys : List (Nat × Nat)
  edges : List Nat

/-- Whether an edge is a back edge. -/
def BackEdges.contains (b : BackEdges) (e : Nat) : Bool := b.edges.contains e

/-- The number of back edges. -/
def BackEdges.count (b : BackEdges) : Nat := b.edges.length

/-- The back edges found by searching from every node in index order. -/
def LayoutGraph.backEdges (g : LayoutGraph) : BackEdges :=
  let start : Search := { visit := Array.replicate g.nodeCount .unvisited, keys := [] }
  let s := (List.range g.nodeCount).foldl (fun s root =>
    if s.at? root == .unvisited then Search.explore g (g.nodeCount + 1) root s else s) start
  { keys := s.keys
    edges := (g.edges.filter fun (_, src, tgt) => s.keys.contains (src, tgt)).map (·.1) }

end FlowLayout

/-!
## Layers

Layers are assigned by repeatedly taking the nodes whose remaining in-degree, counting
resolved edges that are not back edges, is zero: layer 0 holds the nodes with no such incoming
edge, and a node joins the layer after the one in which its last predecessor was placed. So
each node's layer is one more than the largest layer of its predecessors: the longest-path
layering. Each layer is sorted by id, ties by index.

When every node has a predecessor the first node by id seeds layer 0 (`seeded`); nodes never
placed form one last layer. Neither happens after back edges are removed.
-/

namespace FlowLayout

/-- Layers of node indexes, each node's layer, and whether a node had to be seeded. -/
structure Layering where
  layers : List (List Nat)
  layerOf : Array Nat
  seeded : Bool

/-- What the layering loop carries: in-degrees left, placed nodes and layers so far. -/
structure Peeling where
  inDegree : Array Nat
  placed : Array Bool
  layers : List (List Nat)

/-- Lowers the in-degree of the targets of one node's edges; a target reaching zero joins
`next`. -/
def Peeling.release (g : LayoutGraph) (back : BackEdges) (st : Peeling × List Nat)
    (n : Nat) : Peeling × List Nat :=
  (g.out n).foldl (fun (st : Peeling × List Nat) e =>
    let (p, next) := st
    if back.contains e then st
    else match g.ends e with
      | none => st
      | some (_, t) =>
        if p.placed.getD t true then st
        else
          let d := p.inDegree.getD t 0 - 1
          let p := { p with inDegree := p.inDegree.setIfInBounds t d }
          if d == 0 then (p, next ++ [t]) else (p, next)) st

/-- Places the frontier as a layer and moves on to the nodes it releases. Every frontier holds
unplaced nodes, so `fuel` above the node count is never used up. -/
def Peeling.run (g : LayoutGraph) (back : BackEdges) : Nat → List Nat → Peeling → Peeling
  | 0, _, p => p
  | _, [], p => p
  | fuel + 1, frontier, p =>
    let frontier := g.sortById frontier
    let p := { p with placed := frontier.foldl (fun a n => a.setIfInBounds n true) p.placed }
    let (p, next) := frontier.foldl (Peeling.release g back) (p, [])
    run g back fuel next { p with layers := p.layers ++ [frontier] }

/-- Each node's number of incoming resolved edges that are not back edges. -/
def LayoutGraph.keptInDegree (g : LayoutGraph) (back : BackEdges) : Array Nat :=
  g.edges.foldl (fun (d : Array Nat) (e, _, t) =>
    if back.contains e then d else d.modify t (· + 1)) (Array.replicate g.nodeCount 0)

/-- Each of `n` nodes' layer index (0 for a node in no layer). -/
def layerIndex (layers : List (List Nat)) (n : Nat) : Array Nat :=
  layers.zipIdx.foldl (fun (a : Array Nat) (layer, i) =>
    layer.foldl (fun a v => a.setIfInBounds v i) a) (Array.replicate n 0)

/-- The longest-path layering of the graph without its back edges. -/
def LayoutGraph.assignLayers (g : LayoutGraph) (back : BackEdges) : Layering :=
  let n := g.nodeCount
  let inDegree := g.keptInDegree back
  let zero := (List.range n).filter fun v => inDegree.getD v 0 == 0
  let (frontier, seeded) :=
    if zero.isEmpty && n > 0 then ((g.sortById (List.range n)).take 1, true) else (zero, false)
  let p := Peeling.run g back (n + 1) frontier
    { inDegree, placed := Array.replicate n false, layers := [] }
  let residue := g.sortById ((List.range n).filter fun v => !p.placed.getD v true)
  let layers := if residue.isEmpty then p.layers else p.layers ++ [residue]
  { layers, layerOf := layerIndex layers n, seeded }

end FlowLayout
