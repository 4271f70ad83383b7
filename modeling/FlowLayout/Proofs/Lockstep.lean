import FlowLayout.Proofs.Reading
import FlowLayout.Proofs.SortedMap
/-!
# Reading two texts side by side

Styling writes the side tables of a chart only: the nodes' own styles, the edges' own styles,
the default link style and the class definitions. An entry is named by a `SideKey`, every
write lays a style over one entry (`Flowchart.layOver`), and writes at different keys commute
(`SideTables.layOver_comm`). A directive writes the entries `Directive.keys` lists, and a line
those of its directives (`lineKeys`).

A `Lockstep` relation between two builders is kept when both take the same reading step,
whatever warnings each adds; a write need only keep it at the keys the relation allows. Two
readings past their headers with related builders and the same open subgraphs stay so while
they read the same lines, under whatever line numbers (`Lockstep.readLines`). Laying fixed
styles over one builder's tables is such a relation (`Lockstep.restyle`): reading a line that
writes other keys commutes with those writes.
-/

namespace FlowLayout

/-! ### Side tables and their keys -/

/-- An entry of a side table: the own style of a node or of an edge, the default link style,
or the definition of a class. -/
inductive SideKey where
  | node (id : String)
  | link (index : Nat)
  | defaultLink
  | classDef (name : String)
  deriving DecidableEq

/-- The styling side tables of a chart. -/
structure SideTables where
  nodeStyles : SortedMap String Style
  linkStyles : SortedMap Nat Style
  defaultLinkStyle : Option Style
  classDefs : SortedMap String Style

namespace SideTables

/-- Lays a style over the entry of a key, or over the empty style where there is none. -/
def layOver (t : SideTables) : SideKey → Style → SideTables
  | .node id, s => { t with nodeStyles := t.nodeStyles.alter id Style.empty (·.overlay s) }
  | .link i, s => { t with linkStyles := t.linkStyles.alter i Style.empty (·.overlay s) }
  | .defaultLink, s =>
    { t with defaultLinkStyle := some ((t.defaultLinkStyle.getD Style.empty).overlay s) }
  | .classDef name, s =>
    { t with classDefs := t.classDefs.alter name Style.empty (·.overlay s) }

/-- Lays styles over entries, in order. -/
def restyle (t : SideTables) (writes : List (SideKey × Style)) : SideTables :=
  writes.foldl (fun t w => t.layOver w.1 w.2) t

/-- Writes at different keys commute. -/
theorem layOver_comm (t : SideTables) {k k' : SideKey} (h : k ≠ k') (s s' : Style) :
    (t.layOver k s).layOver k' s' = (t.layOver k' s').layOver k s := by
  cases k with
  | node id =>
    cases k' with
    | node id' =>
      have hne : id ≠ id' := fun e => h (e ▸ rfl)
      simp only [layOver, SortedMap.alter_comm _ hne]
    | _ => rfl
  | link i =>
    cases k' with
    | link i' =>
      have hne : i ≠ i' := fun e => h (e ▸ rfl)
      simp only [layOver, SortedMap.alter_comm _ hne]
    | _ => rfl
  | defaultLink =>
    cases k' with
    | defaultLink => exact absurd rfl h
    | _ => rfl
  | classDef name =>
    cases k' with
    | classDef name' =>
      have hne : name ≠ name' := fun e => h (e ▸ rfl)
      simp only [layOver, SortedMap.alter_comm _ hne]
    | _ => rfl

/-- A write at a key that a list of writes leaves alone commutes with the whole list. -/
theorem restyle_layOver (t : SideTables) {writes : List (SideKey × Style)} {k : SideKey}
    (hk : k ∉ writes.map (·.1)) (s : Style) :
    (t.restyle writes).layOver k s = (t.layOver k s).restyle writes := by
  induction writes generalizing t with
  | nil => rfl
  | cons w rest ih =>
    rw [List.map_cons, List.mem_cons, not_or] at hk
    simp only [restyle, List.foldl_cons] at ih ⊢
    rw [ih _ hk.2, layOver_comm t (Ne.symm hk.1)]

end SideTables

namespace Flowchart

/-- The side tables of a chart. -/
def tables (c : Flowchart) : SideTables :=
  ⟨c.nodeStyles, c.linkStyles, c.defaultLinkStyle, c.classDefs⟩

/-- A chart with other side tables. -/
def withTables (c : Flowchart) (t : SideTables) : Flowchart :=
  { c with nodeStyles := t.nodeStyles, linkStyles := t.linkStyles,
           defaultLinkStyle := t.defaultLinkStyle, classDefs := t.classDefs }

/-- Lays a style over one entry of a chart's side tables. -/
def layOver (c : Flowchart) (k : SideKey) (s : Style) : Flowchart :=
  c.withTables (c.tables.layOver k s)

/-- Lays styles over entries of a chart's side tables, in order. -/
def restyle (c : Flowchart) (writes : List (SideKey × Style)) : Flowchart :=
  c.withTables (c.tables.restyle writes)

@[simp] theorem tables_withTables (c : Flowchart) (t : SideTables) : (c.withTables t).tables = t :=
  rfl

@[simp] theorem withTables_withTables (c : Flowchart) (t t' : SideTables) :
    (c.withTables t).withTables t' = c.withTables t' := rfl

@[simp] theorem restyle_nil (c : Flowchart) : c.restyle [] = c := rfl

/-- Restyling leaves the nodes alone, so a node is found where it was. -/
@[simp] theorem nodes_restyle (c : Flowchart) (writes : List (SideKey × Style)) :
    (c.restyle writes).nodes = c.nodes := rfl

@[simp] theorem findNodeIndex_restyle (c : Flowchart) (writes : List (SideKey × Style))
    (id : String) : (c.restyle writes).findNodeIndex id = c.findNodeIndex id := rfl

theorem restyle_layOver (c : Flowchart) {writes : List (SideKey × Style)} {k : SideKey}
    (hk : k ∉ writes.map (·.1)) (s : Style) :
    (c.restyle writes).layOver k s = (c.layOver k s).restyle writes := by
  unfold layOver restyle
  simp only [tables_withTables, withTables_withTables]
  rw [SideTables.restyle_layOver _ hk]

end Flowchart

namespace Syntax

namespace Builder

/-- Lays a style over one entry of the chart's side tables. -/
def layOver (b : Builder) (k : SideKey) (s : Style) : Builder :=
  { b with chart := b.chart.layOver k s }

theorem setNodeStyle_eq_layOver (b : Builder) (id : String) (s : Style) :
    b.setNodeStyle id s = b.layOver (.node (Text.trim id)) s := rfl

theorem setLinkStyle_eq_layOver (b : Builder) (i : Nat) (s : Style) :
    b.setLinkStyle i s = b.layOver (.link i) s := rfl

theorem setDefaultLinkStyle_eq_layOver (b : Builder) (s : Style) :
    b.setDefaultLinkStyle s = b.layOver .defaultLink s := rfl

theorem defineClass_eq_layOver (b : Builder) (name : String) (s : Style) :
    b.defineClass name s = b.layOver (.classDef (Text.trim name)) s := rfl

end Builder

/-- The entry a `linkStyle` target writes; none for a target that is not an edge index. -/
def LinkTarget.key? : LinkTarget → Option SideKey
  | .defaultStyle => some .defaultLink
  | .index i => some (.link i)
  | .invalid _ => none

/-- The writes of a directive, in order: the entry and the style laid over it. -/
def Directive.writes : Directive → List (SideKey × Style)
  | .style node decls => [(.node (Text.trim node), decls)]
  | .linkStyle targets decls => targets.filterMap fun t => t.key?.map (·, decls)
  | .classDef names decls => names.map fun n => (.classDef (Text.trim n), decls)
  | .assignClass _ _ => []
  | .incomplete _ => []

/-- The entries a directive writes. -/
def Directive.keys (d : Directive) : List SideKey := d.writes.map (·.1)

/-- The entries a statement writes. -/
def statementKeys (raw : String) : List SideKey :=
  match Item.ofStatement (Text.trim raw) with
  | .directive d => d.keys
  | _ => []

/-- The entries a line writes, once the header has been read. -/
def lineKeys (text : String) : List SideKey := (lineStatements text).flatMap statementKeys

/-! ### Reading in lockstep -/

/-- A relation between two builders that every reading step keeps when both builders take it,
whatever warnings they add; a write keeps it at the keys `allowed` admits. -/
structure Lockstep (allowed : SideKey → Prop) (R : Builder → Builder → Prop) : Prop where
  warn : ∀ {b₁ b₂ : Builder} (w₁ w₂ : String), R b₁ b₂ → R (b₁.warn w₁) (b₂.warn w₂)
  intern : ∀ {b₁ b₂ : Builder} (id : String) (label : Option String) (shape : NodeShape),
    R b₁ b₂ → (b₁.intern id label shape).1 = (b₂.intern id label shape).1 ∧
      R (b₁.intern id label shape).2 (b₂.intern id label shape).2
  pushEdge : ∀ {b₁ b₂ : Builder} (source target : Nat) (style : EdgeStyle)
    (label color : Option String), R b₁ b₂ →
      R (b₁.pushEdge source target style label color) (b₂.pushEdge source target style label color)
  addClass : ∀ {b₁ b₂ : Builder} (id cls : String), R b₁ b₂ →
    (b₁.addClass id cls).1 = (b₂.addClass id cls).1 ∧
      R (b₁.addClass id cls).2 (b₂.addClass id cls).2
  layOver : ∀ {b₁ b₂ : Builder} (k : SideKey) (s : Style), allowed k → R b₁ b₂ →
    R (b₁.layOver k s) (b₂.layOver k s)

/-- Two readings past their headers, with related builders and the same subgraphs open. -/
structure Reading.Lock (R : Builder → Builder → Prop) (st₁ st₂ : Reading) : Prop where
  builder : R st₁.builder st₂.builder
  seen₁ : st₁.seenHeader = true
  seen₂ : st₂.seenHeader = true
  subgraphs : st₁.openSubgraphs = st₂.openSubgraphs

/-- Two folds whose steps keep a relation keep it. -/
theorem foldl_rel {β γ δ : Type} (R : β → γ → Prop) (f : β → δ → β) (g : γ → δ → γ) :
    ∀ (l : List δ) {b : β} {c : γ}, (∀ x ∈ l, ∀ b c, R b c → R (f b x) (g c x)) → R b c →
      R (l.foldl f b) (l.foldl g c)
  | [], _, _, _, h => h
  | x :: l, _, _, hstep, h =>
    foldl_rel R f g l (fun y hy => hstep y (List.mem_cons_of_mem _ hy))
      (hstep x List.mem_cons_self _ _ h)

namespace Lockstep

variable {allowed : SideKey → Prop} {R : Builder → Builder → Prop}

theorem internRef (h : Lockstep allowed R) {b₁ b₂ : Builder} (hR : R b₁ b₂) (r : NodeRef) :
    (Syntax.internRef b₁ r).1 = (Syntax.internRef b₂ r).1 ∧
      R (Syntax.internRef b₁ r).2 (Syntax.internRef b₂ r).2 := by
  obtain ⟨hidx, hint⟩ := h.intern r.id r.label r.shape hR
  unfold Syntax.internRef
  -- both mentions find the same node, so both readings take the same branch
  rcases h₁ : b₁.intern r.id r.label r.shape with ⟨i₁, b₁'⟩
  rcases h₂ : b₂.intern r.id r.label r.shape with ⟨i₂, b₂'⟩
  rw [h₁, h₂] at hidx hint
  dsimp only at hidx hint
  subst hidx
  cases i₁ with
  | none => exact ⟨rfl, hint⟩
  | some i =>
    cases r.cls with
    | none => exact ⟨rfl, hint⟩
    | some c => exact ⟨rfl, (h.addClass r.id c hint).2⟩

theorem lowerLinks (h : Lockstep allowed R) (color : Option String) :
    ∀ (links : List (Link × NodeRef)) (previous : Nat) {b₁ b₂ : Builder}, R b₁ b₂ →
      R (Syntax.lowerLinks previous color links b₁) (Syntax.lowerLinks previous color links b₂)
  | [], _, _, _, hR => hR
  | (lk, target) :: rest, previous, b₁, b₂, hR => by
    obtain ⟨hidx, href⟩ := h.internRef hR target
    unfold Syntax.lowerLinks
    rcases h₁ : Syntax.internRef b₁ target with ⟨i₁, b₁'⟩
    rcases h₂ : Syntax.internRef b₂ target with ⟨i₂, b₂'⟩
    rw [h₁, h₂] at hidx href
    dsimp only at hidx href
    subst hidx
    cases i₁ with
    | none => exact href
    | some current =>
      exact h.lowerLinks color rest current (h.pushEdge _ _ _ _ _ href)

theorem lowerStatement (h : Lockstep allowed R) {b₁ b₂ : Builder} (hR : R b₁ b₂)
    (st : Statement) : R (Syntax.lowerStatement b₁ st) (Syntax.lowerStatement b₂ st) := by
  cases st with
  | node n =>
    rw [Syntax.lowerStatement, Syntax.lowerStatement]
    exact (h.internRef hR n).2
  | chain head links color =>
    obtain ⟨hidx, href⟩ := h.internRef hR head
    rw [Syntax.lowerStatement, Syntax.lowerStatement]
    rcases h₁ : Syntax.internRef b₁ head with ⟨i₁, b₁'⟩
    rcases h₂ : Syntax.internRef b₂ head with ⟨i₂, b₂'⟩
    rw [h₁, h₂] at hidx href
    dsimp only at hidx href
    subst hidx
    cases i₁ with
    | none => exact href
    | some i => exact h.lowerLinks color links i href

theorem applyDirective (h : Lockstep allowed R) {b₁ b₂ : Builder} (hR : R b₁ b₂)
    (line₁ line₂ : Nat) (d : Directive) (hk : ∀ k ∈ d.keys, allowed k) :
    R (Syntax.applyDirective line₁ b₁ d) (Syntax.applyDirective line₂ b₂ d) := by
  cases d with
  | style node decls =>
    exact h.layOver (.node (Text.trim node)) decls
      (hk _ (by simp [Directive.keys, Directive.writes])) hR
  | linkStyle targets decls =>
    refine foldl_rel R _ _ targets (fun t ht b₁ b₂ hR => ?_) hR
    cases t with
    | defaultStyle =>
      refine h.layOver .defaultLink decls (hk _ ?_) hR
      simp only [Directive.keys, Directive.writes, List.mem_map, List.mem_filterMap]
      exact ⟨_, ⟨.defaultStyle, ht, rfl⟩, rfl⟩
    | index i =>
      refine h.layOver (.link i) decls (hk _ ?_) hR
      simp only [Directive.keys, Directive.writes, List.mem_map, List.mem_filterMap]
      exact ⟨_, ⟨.index i, ht, rfl⟩, rfl⟩
    | invalid text => exact h.warn _ _ hR
  | classDef names decls =>
    refine foldl_rel R _ _ names (fun n hn b₁ b₂ hR => ?_) hR
    refine h.layOver (.classDef (Text.trim n)) decls (hk _ ?_) hR
    simp only [Directive.keys, Directive.writes, List.map_map, List.mem_map]
    exact ⟨n, hn, rfl⟩
  | assignClass nodes name =>
    refine foldl_rel R _ _ nodes (fun n _ b₁ b₂ hR => ?_) hR
    obtain ⟨hok, hadd⟩ := h.addClass n name hR
    rcases h₁ : b₁.addClass n name with ⟨ok₁, b₁'⟩
    rcases h₂ : b₂.addClass n name with ⟨ok₂, b₂'⟩
    rw [h₁, h₂] at hok hadd
    dsimp only at hok hadd
    subst hok
    cases ok₁ with
    | true => exact hadd
    | false => exact h.warn _ _ hadd
  | incomplete kind => exact h.warn _ _ hR

theorem readStatement (h : Lockstep allowed R) {st₁ st₂ : Reading} (hst : Reading.Lock R st₁ st₂)
    (line₁ line₂ : Nat) (raw : String) (hk : ∀ k ∈ statementKeys raw, allowed k) :
    Reading.Lock R (Syntax.readStatement line₁ st₁ raw) (Syntax.readStatement line₂ st₂ raw) := by
  unfold Syntax.readStatement
  dsimp only
  by_cases hempty : (Text.trim raw).isEmpty = true
  · simp only [hempty, if_true]
    exact hst
  · simp only [hempty, Bool.false_eq_true, if_false]
    -- both readings classify the statement alike
    cases hitem : Item.ofStatement (Text.trim raw) with
    | openSubgraph => exact { hst with subgraphs := by simp [hst.subgraphs] }
    | closeSubgraph =>
      dsimp only
      rw [hst.subgraphs]
      split
      · exact { hst with builder := h.warn _ _ hst.builder, subgraphs := rfl }
      · exact { hst with subgraphs := rfl }
    | localDirection => exact hst
    | directive d =>
      have hkeys : statementKeys raw = d.keys := by unfold statementKeys; rw [hitem]
      exact { hst with builder := h.applyDirective hst.builder _ _ d (hkeys ▸ hk) }
    | graph s => exact { hst with builder := h.lowerStatement hst.builder s }
    | unsupported => exact { hst with builder := h.warn _ _ hst.builder }

theorem readLine (h : Lockstep allowed R) {st₁ st₂ : Reading} (hst : Reading.Lock R st₁ st₂)
    (line₁ line₂ : Nat) (text : String) (hk : ∀ k ∈ lineKeys text, allowed k) :
    Reading.Lock R (Syntax.readLine st₁ line₁ text) (Syntax.readLine st₂ line₂ text) := by
  rw [readLine_of_seenHeader hst.seen₁, readLine_of_seenHeader hst.seen₂]
  refine foldl_rel (Reading.Lock R) _ _ _ (fun raw hraw st₁ st₂ hst => ?_) hst
  exact h.readStatement hst line₁ line₂ raw fun k hkr =>
    hk k (List.mem_flatMap.2 ⟨raw, hraw, hkr⟩)

/-- Two readings in lockstep stay so through the same lines, whatever their numbers. -/
theorem readLines (h : Lockstep allowed R) :
    ∀ (lines : List String) {st₁ st₂ : Reading} (line₁ line₂ : Nat),
      (∀ text ∈ lines, ∀ k ∈ lineKeys text, allowed k) → Reading.Lock R st₁ st₂ →
      Reading.Lock R (Syntax.readLines st₁ line₁ lines) (Syntax.readLines st₂ line₂ lines)
  | [], _, _, _, _, _, hst => hst
  | text :: rest, _, _, line₁, line₂, hk, hst => by
    rw [Syntax.readLines, Syntax.readLines]
    exact h.readLines rest (line₁ + 1) (line₂ + 1) (fun t ht => hk t (List.mem_cons_of_mem _ ht))
      (h.readLine hst line₁ line₂ text (hk text List.mem_cons_self))

/-- Laying fixed styles over the first builder's tables is kept by every step that writes
other keys: reading such a line commutes with the writes. -/
theorem restyle (writes : List (SideKey × Style)) :
    Lockstep (· ∉ writes.map (·.1)) fun b₁ b₂ => b₁.chart = b₂.chart.restyle writes where
  warn _ _ hR := hR
  intern {b₁ b₂} id label shape hR := by
    obtain ⟨c₁, w₁⟩ := b₁
    dsimp only at hR
    subst hR
    unfold Builder.intern
    -- the restyled chart has the same nodes, so a mention finds the same node in both
    simp only [Flowchart.findNodeIndex_restyle]
    split
    · exact ⟨rfl, rfl⟩
    · split <;> exact ⟨rfl, rfl⟩
  pushEdge {b₁ b₂} source target style label color hR := by
    obtain ⟨c₁, w₁⟩ := b₁
    dsimp only at hR
    subst hR
    unfold Builder.pushEdge
    simp only [Flowchart.nodes_restyle]
    split <;> rfl
  addClass {b₁ b₂} id cls hR := by
    obtain ⟨c₁, w₁⟩ := b₁
    dsimp only at hR
    subst hR
    unfold Builder.addClass
    simp only [Flowchart.findNodeIndex_restyle]
    split <;> exact ⟨rfl, rfl⟩
  layOver {b₁ b₂} k s hk hR := by
    show b₁.chart.layOver k s = (b₂.chart.layOver k s).restyle writes
    rw [hR, Flowchart.restyle_layOver _ hk]

end Lockstep

end Syntax

end FlowLayout
