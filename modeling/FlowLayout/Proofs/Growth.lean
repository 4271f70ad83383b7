import FlowLayout.Proofs.Reading
import FlowLayout.Proofs.SortedMap
/-!
# Reading further only extends a chart

Once its header has been read, a text is read by steps that take nothing back
(`Syntax.Builder.Grows`): node ids and edges are only appended, a label once set and a shape
other than a rectangle stay, a node's classes are only appended to, warnings are only appended
to, and a styling entry only gets further styles laid over it (`Style.LaidOver`).

So when a text is cut right after a line feed, past its header, the chart read from the first
part is extended by the chart read from the whole text (`parseDiagram_extends_prefix`), and
the first part's warnings, less those given at the end of the input, begin the whole text's
warnings. A text that is still being written can be read again at every line without losing
what an earlier reading showed.
-/

namespace FlowLayout

/-! ### Styles laid over -/

/-- `top` is `base` with further styles laid over it, in order. -/
def Style.LaidOver (base top : Style) : Prop :=
  ∃ tops : List Style, top = tops.foldl Style.overlay base

namespace Style.LaidOver

theorem refl (s : Style) : s.LaidOver s := ⟨[], rfl⟩

theorem trans {s t u : Style} (h₁ : s.LaidOver t) (h₂ : t.LaidOver u) : s.LaidOver u := by
  obtain ⟨l₁, rfl⟩ := h₁
  obtain ⟨l₂, rfl⟩ := h₂
  exact ⟨l₁ ++ l₂, by rw [List.foldl_append]⟩

theorem overlay (s top : Style) : s.LaidOver (s.overlay top) := ⟨[top], rfl⟩

end Style.LaidOver

section Overlays

variable {κ : Type} [Ord κ]

/-- Every entry of `m` is still in `m'`, with further styles laid over it. -/
def SortedMap.Overlays (m m' : SortedMap κ Style) : Prop :=
  ∀ k s, m.get? k = some s → ∃ s', m'.get? k = some s' ∧ s.LaidOver s'

namespace SortedMap.Overlays

theorem refl (m : SortedMap κ Style) : m.Overlays m := fun _ s h => ⟨s, h, .refl s⟩

theorem trans {m₁ m₂ m₃ : SortedMap κ Style} (h₁ : m₁.Overlays m₂) (h₂ : m₂.Overlays m₃) :
    m₁.Overlays m₃ := by
  intro k s hs
  obtain ⟨t, ht, hst⟩ := h₁ k s hs
  obtain ⟨u, hu, htu⟩ := h₂ k t ht
  exact ⟨u, hu, hst.trans htu⟩

/-- Laying a style over one entry, or starting it from the empty style. -/
theorem alter [Std.TransCmp (compare : κ → κ → _)]
    [Std.LawfulEqCmp (compare : κ → κ → _)] (m : SortedMap κ Style) (k : κ) (s : Style) :
    m.Overlays (m.alter k Style.empty (·.overlay s)) := by
  intro k' v hv
  by_cases hk : k' = k
  · subst hk
    exact ⟨v.overlay s, by rw [SortedMap.get?_alter_self, hv]; rfl, .overlay v s⟩
  · exact ⟨v, by rw [SortedMap.get?_alter_of_ne _ _ _ hk, hv], .refl v⟩

end SortedMap.Overlays

end Overlays

/-! ### Charts extended -/

/-- `n'` is node `n` mentioned again: the same id, a label that was set stays, a shape other
than a rectangle stays, and classes are only appended. -/
structure Node.Grows (n n' : Node) : Prop where
  id : n'.id = n.id
  label : n.label.isSome → n'.label = n.label
  shape : n.shape ≠ .rectangle → n'.shape = n.shape
  classes : n.classes <+: n'.classes

theorem Node.Grows.refl (n : Node) : n.Grows n := ⟨rfl, fun _ => rfl, fun _ => rfl, List.prefix_refl _⟩

theorem Node.Grows.trans {n₁ n₂ n₃ : Node} (h₁ : n₁.Grows n₂) (h₂ : n₂.Grows n₃) : n₁.Grows n₃ where
  id := h₂.id.trans h₁.id
  label h := (h₂.label (h₁.label h ▸ h)).trans (h₁.label h)
  shape h := (h₂.shape (h₁.shape h ▸ h)).trans (h₁.shape h)
  classes := h₁.classes.trans h₂.classes

/-- `c'` is chart `c` read further: the same direction, every node of `c` grown at its place,
the edges of `c` at the start of the edges of `c'`, and every styling entry of `c` with
further styles laid over it. -/
structure Flowchart.Extends (c c' : Flowchart) : Prop where
  direction : c'.direction = c.direction
  nodes : ∀ (i : Nat) (n : Node), c.nodes[i]? = some n →
    ∃ n', c'.nodes[i]? = some n' ∧ n.Grows n'
  edges : c.edges <+: c'.edges
  nodeStyles : c.nodeStyles.Overlays c'.nodeStyles
  linkStyles : c.linkStyles.Overlays c'.linkStyles
  defaultLinkStyle : ∀ s, c.defaultLinkStyle = some s →
    ∃ s', c'.defaultLinkStyle = some s' ∧ s.LaidOver s'
  classDefs : c.classDefs.Overlays c'.classDefs

namespace Flowchart.Extends

theorem refl (c : Flowchart) : c.Extends c where
  direction := rfl
  nodes _ n h := ⟨n, h, .refl n⟩
  edges := List.prefix_refl _
  nodeStyles := .refl _
  linkStyles := .refl _
  defaultLinkStyle s h := ⟨s, h, .refl s⟩
  classDefs := .refl _

theorem trans {c₁ c₂ c₃ : Flowchart} (h₁ : c₁.Extends c₂) (h₂ : c₂.Extends c₃) :
    c₁.Extends c₃ where
  direction := h₂.direction.trans h₁.direction
  nodes i n h := by
    obtain ⟨n₂, h₂', hg₁⟩ := h₁.nodes i n h
    obtain ⟨n₃, h₃, hg₂⟩ := h₂.nodes i n₂ h₂'
    exact ⟨n₃, h₃, hg₁.trans hg₂⟩
  edges := h₁.edges.trans h₂.edges
  nodeStyles := h₁.nodeStyles.trans h₂.nodeStyles
  linkStyles := h₁.linkStyles.trans h₂.linkStyles
  defaultLinkStyle s h := by
    obtain ⟨t, ht, hst⟩ := h₁.defaultLinkStyle s h
    obtain ⟨u, hu, htu⟩ := h₂.defaultLinkStyle t ht
    exact ⟨u, hu, hst.trans htu⟩
  classDefs := h₁.classDefs.trans h₂.classDefs

/-- The node ids of a chart start the node ids of a chart that extends it. -/
theorem ids_prefix {c c' : Flowchart} (h : c.Extends c') :
    c.nodes.map (·.id) <+: c'.nodes.map (·.id) := by
  rw [List.prefix_iff_getElem?]
  intro i hi
  rw [List.length_map] at hi
  obtain ⟨n', hn', hg⟩ := h.nodes i c.nodes[i] (List.getElem?_eq_getElem hi)
  rw [List.getElem?_map, hn', Option.map_some, List.getElem_map, hg.id]

/-- Growing the nodes in place. -/
theorem modify (c : Flowchart) (i : Nat) {f : Node → Node} (hf : ∀ n : Node, n.Grows (f n)) :
    c.Extends { c with nodes := c.nodes.modify i f } :=
  { refl c with
    nodes := fun j n h => by
      refine ⟨if i = j then f n else n, ?_, ?_⟩
      · rw [List.getElem?_modify, h]
        rfl
      · split
        · exact hf n
        · exact .refl n }

/-- Appending a node. -/
theorem appendNode (c : Flowchart) (x : Node) : c.Extends { c with nodes := c.nodes ++ [x] } :=
  { refl c with
    nodes := fun j n h => by
      have hj : j < c.nodes.length := (List.getElem?_eq_some_iff.1 h).1
      exact ⟨n, by rw [List.getElem?_append_left hj, h], .refl n⟩ }

end Flowchart.Extends

/-! ### Every reading step extends the chart -/

namespace Syntax

/-- `b'` is builder `b` read further: its chart extends that of `b`, and its warnings
continue those of `b`. -/
structure Builder.Grows (b b' : Builder) : Prop where
  chart : b.chart.Extends b'.chart
  warnings : b.warnings <+: b'.warnings

namespace Builder

theorem Grows.refl (b : Builder) : b.Grows b := ⟨.refl _, List.prefix_refl _⟩

theorem Grows.trans {b₁ b₂ b₃ : Builder} (h₁ : b₁.Grows b₂) (h₂ : b₂.Grows b₃) : b₁.Grows b₃ :=
  ⟨h₁.chart.trans h₂.chart, h₁.warnings.trans h₂.warnings⟩

theorem grows_warn (b : Builder) (w : String) : b.Grows (b.warn w) :=
  ⟨.refl _, List.prefix_append _ _⟩

theorem grows_updateNode (b : Builder) (i : Nat) {f : Node → Node}
    (hf : ∀ n : Node, n.Grows (f n)) :
    b.Grows (b.updateNode i f) :=
  ⟨.modify b.chart i hf, List.prefix_refl _⟩

/-- A mention fills in a missing label and upgrades a rectangle, and nothing else. -/
theorem grows_intern (b : Builder) (id : String) (label : Option String) (shape : NodeShape) :
    b.Grows (b.intern id label shape).2 := by
  unfold intern
  dsimp only
  split
  · exact grows_warn b _
  · split
    · refine grows_updateNode b _ fun n => ⟨rfl, fun h => ?_, fun h => ?_, List.prefix_refl _⟩
      · cases hl : n.label <;> simp_all
      · simp [h]
    · exact ⟨.appendNode b.chart _, List.prefix_refl _⟩

theorem grows_pushEdge (b : Builder) (source target : Nat) (style : EdgeStyle)
    (label color : Option String) : b.Grows (b.pushEdge source target style label color) := by
  unfold pushEdge
  split
  · exact ⟨{ Flowchart.Extends.refl b.chart with edges := List.prefix_append _ _ },
      List.prefix_refl _⟩
  · exact .refl b

theorem grows_addClass (b : Builder) (id cls : String) : b.Grows (b.addClass id cls).2 := by
  unfold addClass
  split
  · exact .refl b
  · refine grows_updateNode b _ fun n => ?_
    split
    · exact ⟨rfl, fun _ => rfl, fun _ => rfl, List.prefix_append _ _⟩
    · exact .refl n

theorem grows_setNodeStyle (b : Builder) (id : String) (s : Style) :
    b.Grows (b.setNodeStyle id s) :=
  ⟨{ Flowchart.Extends.refl b.chart with nodeStyles := .alter _ _ s }, List.prefix_refl _⟩

theorem grows_setLinkStyle (b : Builder) (i : Nat) (s : Style) : b.Grows (b.setLinkStyle i s) :=
  ⟨{ Flowchart.Extends.refl b.chart with linkStyles := .alter _ _ s }, List.prefix_refl _⟩

theorem grows_setDefaultLinkStyle (b : Builder) (s : Style) :
    b.Grows (b.setDefaultLinkStyle s) :=
  ⟨{ Flowchart.Extends.refl b.chart with
      defaultLinkStyle := fun t h => ⟨t.overlay s, by simp [setDefaultLinkStyle, h], .overlay t s⟩ },
    List.prefix_refl _⟩

theorem grows_defineClass (b : Builder) (name : String) (s : Style) :
    b.Grows (b.defineClass name s) :=
  ⟨{ Flowchart.Extends.refl b.chart with classDefs := .alter _ _ s }, List.prefix_refl _⟩

end Builder

open Builder

theorem grows_internRef (b : Builder) (r : NodeRef) : b.Grows (internRef b r).2 := by
  have hint := grows_intern b r.id r.label r.shape
  unfold internRef
  split
  · next b' heq => rw [heq] at hint; exact hint
  · next i b' heq =>
    rw [heq] at hint
    split
    · exact hint.trans (grows_addClass _ _ _)
    · exact hint

theorem grows_lowerLinks (color : Option String) :
    ∀ (links : List (Link × NodeRef)) (previous : Nat) (b : Builder),
      b.Grows (lowerLinks previous color links b)
  | [], _, b => .refl b
  | (lk, target) :: rest, previous, b => by
    have hint := grows_internRef b target
    unfold lowerLinks
    split
    · next b' heq => rw [heq] at hint; exact hint
    · next current b' heq =>
      rw [heq] at hint
      exact hint.trans ((grows_pushEdge _ _ _ _ _ _).trans (grows_lowerLinks color rest _ _))

theorem grows_lowerStatement (b : Builder) (st : Statement) : b.Grows (lowerStatement b st) := by
  cases st with
  | node n =>
    rw [lowerStatement]
    exact grows_internRef b n
  | chain head links color =>
    have hint := grows_internRef b head
    rw [lowerStatement]
    split
    · next b' heq => rw [heq] at hint; exact hint
    · next i b' heq =>
      rw [heq] at hint
      exact hint.trans (grows_lowerLinks color links i _)

theorem grows_applyDirective (b : Builder) (line : Nat) (d : Directive) :
    b.Grows (applyDirective line b d) := by
  cases d with
  | style node decls => exact grows_setNodeStyle b _ _
  | linkStyle targets decls =>
    refine foldl_invariant b.Grows _ (fun b' t hb => hb.trans ?_) _ _ (.refl b)
    split
    · exact grows_setDefaultLinkStyle _ _
    · exact grows_setLinkStyle _ _ _
    · exact grows_warn _ _
  | classDef names decls =>
    exact foldl_invariant b.Grows _ (fun b' n hb => hb.trans (grows_defineClass _ _ _)) _ _
      (.refl b)
  | assignClass nodes name =>
    refine foldl_invariant b.Grows _ (fun b' n hb => hb.trans ?_) _ _ (.refl b)
    have hadd := grows_addClass b' n name
    split
    · next b'' heq => rw [heq] at hadd; exact hadd
    · next b'' heq => rw [heq] at hadd; exact hadd.trans (grows_warn _ _)
  | incomplete kind => exact grows_warn b _

theorem grows_readStatement (line : Nat) (st : Reading) (raw : String) :
    st.builder.Grows (readStatement line st raw).builder := by
  unfold readStatement
  dsimp only
  split
  · exact .refl _
  · split
    · exact .refl _
    · split
      · exact grows_warn _ _
      · exact .refl _
    · exact .refl _
    · exact grows_applyDirective _ _ _
    · exact grows_lowerStatement _ _
    · exact grows_warn _ _

/-- After the header, reading lines only extends the chart and appends warnings. -/
theorem grows_readLines : ∀ (st : Reading) (n : Nat) (lines : List String),
    st.seenHeader = true → st.builder.Grows (readLines st n lines).builder
  | st, _, [], _ => .refl st.builder
  | st, n, l :: rest, h => by
    have hline : st.builder.Grows (readLine st n l).builder := by
      rw [readLine_of_seenHeader h]
      exact foldl_invariant (fun st' : Reading => st.builder.Grows st'.builder) _
        (fun st' raw hst => hst.trans (grows_readStatement n st' raw)) _ _ (.refl _)
    rw [readLines]
    exact hline.trans (grows_readLines _ (n + 1) rest (seenHeader_readLine h n l))

/-! ### Prefixes of a text -/

/-- A warning given at the end of the input: subgraphs left open, or a link style whose edge
does not exist. -/
def IsEndWarning (w : String) : Prop :=
  (∃ n : Nat, w = "Flowchart ended with " ++ toString n ++ " unclosed subgraph block(s)") ∨
    ∃ i count : Nat,
      w = "linkStyle " ++ toString i ++ " refers to a missing edge (" ++ toString count ++
        " edges declared)"

/-- The warnings of a flowchart text are those of its lines followed by warnings given at the
end of the input. -/
theorem parseFlowchart_warnings (input : String) :
    ∃ ends, (parseFlowchart input).2 = (readLines {} 1 (Text.lines input)).builder.warnings ++ ends ∧
      ∀ w ∈ ends, IsEndWarning w := by
  unfold parseFlowchart Builder.finish
  dsimp only
  have hdangling : ∀ (count : Nat) (keys : List Nat), ∀ w ∈ keys.map (fun i =>
      "linkStyle " ++ toString i ++ " refers to a missing edge (" ++ toString count ++
        " edges declared)"), IsEndWarning w := by
    intro count keys w hw
    obtain ⟨i, -, rfl⟩ := List.mem_map.1 hw
    exact .inr ⟨i, count, rfl⟩
  split
  · refine ⟨_, List.append_assoc _ _ _, fun w hw => ?_⟩
    rcases List.mem_append.1 hw with hw | hw
    · rw [List.mem_singleton.1 hw]
      exact .inl ⟨_, rfl⟩
    · exact hdangling _ _ w hw
  · exact ⟨_, rfl, hdangling _ _⟩

/-- Cut a text right after a line feed, past the header. When the whole text is a flowchart,
so is the first part, and the whole text's chart extends the first part's. The first part's
warnings, less some given at the end of the input, begin the whole text's warnings. -/
theorem parseDiagram_extends_prefix (p rest : String) (hp : p.toList.getLast? = some '\n')
    (hheader : firstSignificantLine p = firstSignificantLine (p ++ rest))
    (hkind : DiagramKind.detect (p ++ rest) = .flowchart) :
    ∃ cp cs, (parseDiagram p).diagram = .flowchart cp ∧
      (parseDiagram (p ++ rest)).diagram = .flowchart cs ∧ cp.Extends cs ∧
      ∃ w ends, (parseDiagram p).warnings = w ++ ends ∧ (∀ x ∈ ends, IsEndWarning x) ∧
        w <+: (parseDiagram (p ++ rest)).warnings := by
  -- the header lies in the first part, so its reading has seen it
  have hkind' : DiagramKind.detect p = .flowchart := by
    simpa using detect_append_of_header hheader hkind hp ""
  have hseen := seenHeader_of_header hheader hkind
  have hgrow := grows_readLines _ (1 + (Text.lines p).length) (Text.lines rest) hseen
  rw [← readLines_append, ← Text.lines_append hp] at hgrow
  obtain ⟨endsp, hpw, hends⟩ := parseFlowchart_warnings p
  obtain ⟨endss, hsw, -⟩ := parseFlowchart_warnings (p ++ rest)
  rw [parseDiagram_eq_of_flowchart hkind', parseDiagram_eq_of_flowchart hkind]
  refine ⟨_, _, rfl, rfl, ?_, _, endsp, hpw, hends, ?_⟩
  · rw [parseFlowchart_chart, parseFlowchart_chart]
    exact hgrow.chart
  rw [hsw]
  exact hgrow.warnings.trans (List.prefix_append _ _)

/-- A text cut after its second line, before an edge and a style that come later. -/
theorem parseDiagram_extends_two_lines :
    let p := "flowchart LR\nA --> B\n"
    let rest := "B --> C\nstyle A fill:red\n"
    p.toList.getLast? = some '\n' ∧ firstSignificantLine p = firstSignificantLine (p ++ rest) ∧
      DiagramKind.detect (p ++ rest) = .flowchart ∧
      ∃ cp cs, (parseDiagram p).diagram = .flowchart cp ∧
        (parseDiagram (p ++ rest)).diagram = .flowchart cs ∧ cp.Extends cs ∧
        ∃ w ends, (parseDiagram p).warnings = w ++ ends ∧ (∀ x ∈ ends, IsEndWarning x) ∧
          w <+: (parseDiagram (p ++ rest)).warnings :=
  have hp : ("flowchart LR\nA --> B\n" : String).toList.getLast? = some '\n' := by decide
  have hheader : firstSignificantLine "flowchart LR\nA --> B\n" =
      firstSignificantLine ("flowchart LR\nA --> B\n" ++ "B --> C\nstyle A fill:red\n") := by decide +kernel
  have hkind : DiagramKind.detect ("flowchart LR\nA --> B\n" ++ "B --> C\nstyle A fill:red\n") =
      .flowchart := by decide +kernel
  ⟨hp, hheader, hkind, parseDiagram_extends_prefix _ _ hp hheader hkind⟩

end Syntax

end FlowLayout
