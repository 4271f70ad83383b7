import FlowLayout.Drawing
import FlowLayout.Proofs.Lockstep
/-!
# Styling lines touch only the side tables

Layout reads a chart's direction, its nodes' ids, labels and shapes, and its edges: the chart
without its classes and side tables (`Flowchart.unstyled`, `layoutChart_unstyled`). Reading a
statement changes that part in a way that depends on that part alone, and a styling directive
leaves it as it is. So a styling line added anywhere after the header changes neither the
nodes and edges read nor the layout (`parse_insert_directiveLine`).

A `style`, `linkStyle` or `classDef` line writes side-table entries only, by laying styles over
them, and writes at different entries commute. So moving such a line past lines that write
none of its entries leaves the whole chart as it was (`parse_move_styleLine`), and with it every
resolved node style, edge style and edge colour of the drawing.
-/

namespace FlowLayout

/-! ### What layout reads of a chart -/

/-- A node as layout sees it: without its classes. -/
def Node.unstyled (n : Node) : Node := { n with classes := [] }

/-- A chart as layout sees it: the direction, the nodes without their classes, the edges, and
no side tables. -/
def Flowchart.unstyled (c : Flowchart) : Flowchart :=
  { direction := c.direction, nodes := c.nodes.map Node.unstyled, edges := c.edges }

@[simp] theorem Node.unstyled_unstyled (n : Node) : n.unstyled.unstyled = n.unstyled := rfl

namespace Flowchart

@[simp] theorem unstyled_unstyled (c : Flowchart) : c.unstyled.unstyled = c.unstyled := by
  simp [unstyled, Function.comp_def]

theorem findNodeIndex_unstyled (c : Flowchart) (id : String) :
    c.unstyled.findNodeIndex id = c.findNodeIndex id := by
  simp [findNodeIndex, unstyled, Node.unstyled, List.findIdx?_map, Function.comp_def]

end Flowchart

variable {α : Type} [Scalar α]

theorem LayoutGraph.ofChart_unstyled (c : Flowchart) :
    LayoutGraph.ofChart c.unstyled = LayoutGraph.ofChart c := by
  simp [LayoutGraph.ofChart, Flowchart.unstyled, Node.unstyled, Function.comp_def]

theorem analyzeComplexity_unstyled (c : Flowchart) (layers : Array (Array Nat)) :
    (analyzeComplexity c.unstyled layers : ComplexityReport α) = analyzeComplexity c layers := by
  simp [analyzeComplexity, Flowchart.unstyled, Node.unstyled, List.foldl_map, Node.displayLabel]

theorem routeEdge_unstyled (c : Flowchart) :
    (routeEdge c.unstyled : LayoutGraph → Array (Rect α) → _) = routeEdge c := by
  funext g boxes back config seen e s t
  simp [routeEdge, Flowchart.unstyled, Node.unstyled, Option.map_map, Function.comp_def]

theorem routeEdges_unstyled (c : Flowchart) (g : LayoutGraph) (boxes : Array (Rect α))
    (back : BackEdges) (config : LayoutConfig α) :
    routeEdges c.unstyled g boxes back config = routeEdges c g boxes back config := by
  unfold routeEdges routeStep
  rw [routeEdge_unstyled]

/-- Layout sees a chart only through its unstyled part. -/
theorem layoutChart_unstyled (c : Flowchart) (settings : LayoutConfig α) :
    layoutChart c.unstyled settings = layoutChart c settings := by
  unfold layoutChart
  simp only [LayoutGraph.ofChart_unstyled, analyzeComplexity_unstyled, routeEdges_unstyled]
  simp only [Flowchart.unstyled, List.zipIdx_map, List.map_map, Function.comp_def, Prod.map,
    Node.unstyled, id]

/-- Two drawings with the same layout: the same run, and so the same positions, routes,
layers, back edges, canvas and statistics. -/
structure Drawing.SameLayout (d d' : Drawing α) : Prop where
  run : d.run = d'.run
  positions : d.positions = d'.positions
  routedEdges : d.routedEdges = d'.routedEdges
  layers : d.layers = d'.layers
  backEdges : d.backEdges = d'.backEdges
  canvasSize : d.canvasSize = d'.canvasSize
  stats : d.stats = d'.stats

/-- Flowchart texts whose charts agree but for styling are drawn with the same layout. -/
theorem Drawing.sameLayout_of_unstyled {s s' : String} (h : DiagramKind.detect s = .flowchart)
    (h' : DiagramKind.detect s' = .flowchart)
    (hc : (Syntax.parseFlowchart s).1.unstyled = (Syntax.parseFlowchart s').1.unstyled)
    (config : LayoutConfig α) : (Drawing.ofText s config).SameLayout (Drawing.ofText s' config) := by
  have hl : layoutChart (Syntax.parseFlowchart s).1 config =
      layoutChart (Syntax.parseFlowchart s').1 config := by
    rw [← layoutChart_unstyled, hc, layoutChart_unstyled]
  unfold Drawing.ofText Drawing.ofParse
  rw [parseDiagram_eq_of_flowchart h, parseDiagram_eq_of_flowchart h']
  dsimp only
  rw [hl]
  exact ⟨rfl, rfl, rfl, rfl, rfl, rfl, rfl⟩

/-! ### Reading sees the unstyled chart -/

/-- Changing one node by a function that sees it only through its unstyled part, then
forgetting classes, can start from the unstyled nodes. -/
theorem unstyled_modify {f : Node → Node} (hf : ∀ n, (f n.unstyled).unstyled = (f n).unstyled)
    (l : List Node) (i : Nat) :
    (l.modify i f).map Node.unstyled = ((l.map Node.unstyled).modify i f).map Node.unstyled := by
  apply List.ext_getElem?
  intro j
  simp only [List.getElem?_map, List.getElem?_modify]
  cases l[j]? with
  | none => rfl
  | some x => by_cases h : i = j <;> simp [h, hf]

/-- Changing only the classes of one node leaves the unstyled nodes alone. -/
theorem unstyled_modify_of_classes {f : Node → Node} (hf : ∀ n, (f n).unstyled = n.unstyled)
    (l : List Node) (i : Nat) : (l.modify i f).map Node.unstyled = l.map Node.unstyled := by
  apply List.ext_getElem?
  intro j
  simp only [List.getElem?_map, List.getElem?_modify]
  cases l[j]? with
  | none => rfl
  | some x => by_cases h : i = j <;> simp [h, hf]

namespace Syntax

namespace Builder

/-- A mention finds and changes the nodes as the unstyled chart alone decides. -/
theorem intern_unstyled (b : Builder) (id : String) (label : Option String) (shape : NodeShape) :
    (b.intern id label shape).1 = (({ chart := b.chart.unstyled } : Builder).intern id label shape).1 ∧
      (b.intern id label shape).2.chart.unstyled =
        (({ chart := b.chart.unstyled } : Builder).intern id label shape).2.chart.unstyled := by
  unfold intern
  dsimp only
  rw [Flowchart.findNodeIndex_unstyled]
  split
  · exact ⟨rfl, (Flowchart.unstyled_unstyled _).symm⟩
  · split
    · -- the update of a mentioned node reads only its label and shape
      refine ⟨rfl, ?_⟩
      simp only [updateNode, Flowchart.unstyled]
      rw [unstyled_modify (fun n => rfl)]
    · exact ⟨by simp [Flowchart.unstyled], by simp [Flowchart.unstyled, Node.unstyled]⟩

/-- An edge is added as the unstyled chart alone decides. -/
theorem pushEdge_unstyled (b : Builder) (source target : Nat) (style : EdgeStyle)
    (label color : Option String) :
    (b.pushEdge source target style label color).chart.unstyled =
      (({ chart := b.chart.unstyled } : Builder).pushEdge source target style label color).chart.unstyled := by
  unfold pushEdge
  simp only [Flowchart.unstyled, List.getElem?_map]
  cases b.chart.nodes[source]? <;> cases b.chart.nodes[target]? <;>
    simp [Node.unstyled, Function.comp_def]

/-- A class is attached where the unstyled chart decides, and changes nothing of it. -/
theorem addClass_unstyled (b : Builder) (id cls : String) :
    (b.addClass id cls).1 = (({ chart := b.chart.unstyled } : Builder).addClass id cls).1 ∧
      (b.addClass id cls).2.chart.unstyled = b.chart.unstyled := by
  unfold addClass
  rw [Flowchart.findNodeIndex_unstyled]
  split
  · exact ⟨rfl, rfl⟩
  · refine ⟨rfl, ?_⟩
    simp only [updateNode, Flowchart.unstyled]
    rw [unstyled_modify_of_classes fun n => by split <;> rfl]

end Builder

/-- A styling directive leaves the unstyled chart as it is. -/
theorem unstyled_applyDirective (line : Nat) (b : Builder) (d : Directive) :
    (applyDirective line b d).chart.unstyled = b.chart.unstyled := by
  cases d with
  | style node decls => rfl
  | linkStyle targets decls =>
    refine foldl_invariant (fun b' : Builder => b'.chart.unstyled = b.chart.unstyled) _
      (fun b' t hb => ?_) _ _ rfl
    split <;> exact hb
  | classDef names decls =>
    exact foldl_invariant (fun b' : Builder => b'.chart.unstyled = b.chart.unstyled)
      (fun b n => b.defineClass n decls) (fun b' n hb => hb) _ _ rfl
  | assignClass nodes name =>
    refine foldl_invariant (fun b' : Builder => b'.chart.unstyled = b.chart.unstyled) _
      (fun b' n hb => ?_) _ _ rfl
    have hadd := (Builder.addClass_unstyled b' n name).2
    split
    · next b'' heq => rw [heq] at hadd; exact hadd.trans hb
    · next b'' heq => rw [heq] at hadd; exact hadd.trans hb
  | incomplete kind => rfl

/-- Reading the same lines keeps two charts that agree but for styling so. -/
theorem Lockstep.unstyled :
    Lockstep (fun _ => True) fun b₁ b₂ => b₁.chart.unstyled = b₂.chart.unstyled where
  warn _ _ hR := hR
  intern {b₁ b₂} id label shape hR := by
    obtain ⟨h₁, h₁'⟩ := Builder.intern_unstyled b₁ id label shape
    obtain ⟨h₂, h₂'⟩ := Builder.intern_unstyled b₂ id label shape
    rw [hR] at h₁ h₁'
    exact ⟨h₁.trans h₂.symm, h₁'.trans h₂'.symm⟩
  pushEdge {b₁ b₂} source target style label color hR := by
    rw [Builder.pushEdge_unstyled, Builder.pushEdge_unstyled b₂, hR]
  addClass {b₁ b₂} id cls hR := by
    obtain ⟨h₁, h₁'⟩ := Builder.addClass_unstyled b₁ id cls
    obtain ⟨h₂, h₂'⟩ := Builder.addClass_unstyled b₂ id cls
    rw [hR] at h₁ h₁'
    exact ⟨h₁.trans h₂.symm, h₁'.trans h₂'.symm⟩
  layOver _ _ _ hR := hR

/-! ### Directives that restyle -/

theorem Flowchart.restyle_cons (c : Flowchart) (k : SideKey) (s : Style)
    (writes : List (SideKey × Style)) :
    c.restyle ((k, s) :: writes) = (c.layOver k s).restyle writes := rfl

/-- A `style`, `linkStyle` or `classDef` directive lays its styles over its entries, and does
nothing else to the chart. -/
theorem chart_applyDirective {d : Directive} (hd : ∀ nodes name, d ≠ .assignClass nodes name)
    (line : Nat) (b : Builder) : (applyDirective line b d).chart = b.chart.restyle d.writes := by
  cases d with
  | style node decls => rfl
  | linkStyle targets decls =>
    clear hd
    simp only [applyDirective, Directive.writes]
    induction targets generalizing b with
    | nil => rfl
    | cons t rest ih =>
      rw [List.foldl_cons, ih, List.filterMap_cons]
      cases t with
      | defaultStyle => rfl
      | index i => rfl
      | invalid text => rfl
  | classDef names decls =>
    clear hd
    simp only [applyDirective, Directive.writes]
    induction names generalizing b with
    | nil => rfl
    | cons n rest ih => rw [List.foldl_cons, ih, List.map_cons]; rfl
  | assignClass nodes name => exact absurd rfl (hd nodes name)
  | incomplete kind => rfl

/-! ### Lines written as one directive -/

theorem stripComment_of_no_mark : ∀ (cs : List Char) (q : Bool) (d : Nat) (before : List Char),
    ¬ ['%', '%'] <:+: cs → stripComment q d before cs = before.reverse ++ cs
  | [], _, _, _, _ => by simp [stripComment]
  | c :: rest, q, d, before, h => by
    have hrest : ¬ ['%', '%'] <:+: rest := fun h' => h (h'.trans (List.suffix_cons c rest).isInfix)
    have ih := fun q d => stripComment_of_no_mark rest q d (c :: before) hrest
    simp only [List.reverse_cons, List.append_assoc, List.singleton_append] at ih
    unfold stripComment
    split
    · exact ih _ _
    · split
      · exact ih _ _
      · split
        · exact ih _ _
        · split
          · exact ih _ _
          · split
            · next hpp =>
              -- a `%%` here would be in the line
              simp only [Bool.and_eq_true, beq_iff_eq] at hpp
              obtain ⟨⟨rfl, -⟩, hr⟩ := hpp
              obtain ⟨r, rfl⟩ : ∃ r, rest = '%' :: r := by
                cases rest with
                | nil => simp at hr
                | cons y r => simp at hr; exact ⟨r, by rw [hr]⟩
              exact absurd (List.prefix_append ['%', '%'] r).isInfix h
            · exact ih _ _

theorem splitStatements_of_not_mem : ∀ (cs : List Char) (q : Bool) (d : Nat) (current : List Char),
    ';' ∉ cs → splitStatements q d current cs = [current.reverse ++ cs]
  | [], _, _, _, _ => by simp [splitStatements]
  | c :: rest, q, d, current, h => by
    have hc : c ≠ ';' := fun e => h (e ▸ List.mem_cons_self)
    have hrest : ';' ∉ rest := fun m => h (List.mem_cons_of_mem _ m)
    have ih := fun q d => splitStatements_of_not_mem rest q d (c :: current) hrest
    simp only [List.reverse_cons, List.append_assoc, List.singleton_append] at ih
    unfold splitStatements
    split
    · exact ih _ _
    · split
      · exact ih _ _
      · split
        · exact ih _ _
        · split
          · exact ih _ _
          · split
            · next hsemi =>
              simp only [Bool.and_eq_true, beq_iff_eq] at hsemi
              exact absurd hsemi.1 hc
            · exact ih _ _

/-- The keywords of the styling directives. -/
def stylingKeywords : List String := ["style", "linkStyle", "classDef", "class"]

/-- A line written as one styling directive: once trimmed, a styling keyword and a blank,
with no semicolon, no `%%` and no line feed anywhere in the line. -/
structure DirectiveLine (keyword line : String) : Prop where
  keyword_mem : keyword ∈ stylingKeywords
  opens : ∃ c rest, Text.isBlank c = true ∧ (Text.trim line).toList = keyword.toList ++ c :: rest
  noSemicolon : ';' ∉ line.toList
  noComment : ¬ ['%', '%'] <:+: line.toList
  noNewline : '\n' ∉ line.toList

theorem afterKeyword_keyword {t kw : String} {c : Char} {rest : List Char}
    (ht : t.toList = kw.toList ++ c :: rest) (hc : Text.isBlank c = true) :
    afterKeyword t kw = some (String.ofList (c :: rest)) := by
  unfold afterKeyword
  rw [ht, if_pos (List.isPrefixOf_iff_prefix.2 (List.prefix_append _ _)), ← String.length_toList,
    List.drop_left]
  simp [hc]

theorem afterKeyword_eq_none {t kw : String} (h : ¬ kw.toList <+: t.toList) :
    afterKeyword t kw = none := by
  unfold afterKeyword
  rw [if_neg fun h' => h (List.isPrefixOf_iff_prefix.1 h')]

/-- A statement that opens with a styling keyword and a blank is that keyword's directive. -/
theorem ofStatement_of_keyword {t kw : String} {c : Char} {rest : List Char}
    (hkw : kw ∈ stylingKeywords) (hc : Text.isBlank c = true)
    (ht : t.toList = kw.toList ++ c :: rest) :
    ∃ d, Item.ofStatement t = .directive d ∧ (kw ≠ "class" → ∀ nodes name, d ≠ .assignClass nodes name) := by
  have hend : (t == "end") = false := by
    rw [beq_eq_false_iff_ne]
    rintro rfl
    simp [stylingKeywords] at hkw
    rcases hkw with rfl | rfl | rfl | rfl <;> simp at ht
  simp only [stylingKeywords, List.mem_cons, List.not_mem_nil, or_false] at hkw
  unfold Item.ofStatement Directive.ofStatement?
  -- the keyword is told apart from every keyword tried before it by its letters
  rcases hkw with rfl | rfl | rfl | rfl
  · rw [afterKeyword_eq_none (by rw [ht]; simp), hend, afterKeyword_eq_none (by rw [ht]; simp),
      afterKeyword_keyword ht hc]
    refine ⟨_, rfl, fun _ nodes name h => ?_⟩
    split at h <;> cases h
  · rw [afterKeyword_eq_none (by rw [ht]; simp), hend, afterKeyword_eq_none (by rw [ht]; simp),
      afterKeyword_eq_none (by rw [ht]; simp), afterKeyword_keyword ht hc]
    refine ⟨_, rfl, fun _ nodes name h => ?_⟩
    split at h <;> cases h
  · rw [afterKeyword_eq_none (by rw [ht]; simp), hend, afterKeyword_eq_none (by rw [ht]; simp),
      afterKeyword_eq_none (by rw [ht]; simp), afterKeyword_eq_none (by rw [ht]; simp),
      afterKeyword_keyword ht hc]
    refine ⟨_, rfl, fun _ nodes name h => ?_⟩
    split at h <;> cases h
  · rw [afterKeyword_eq_none (by rw [ht]; simp), hend, afterKeyword_eq_none (by rw [ht]; simp),
      afterKeyword_eq_none (by rw [ht]; simp), afterKeyword_eq_none (by rw [ht]; simp),
      afterKeyword_eq_none (by rw [ht]; simp; rintro rfl; exact absurd hc (by decide)),
      afterKeyword_keyword ht hc]
    exact ⟨_, rfl, fun h => absurd rfl h⟩

namespace DirectiveLine

variable {kw d : String} (hd : DirectiveLine kw d)
include hd

/-- A directive line is one statement: the trimmed line. -/
theorem lineStatements_eq : lineStatements d = [Text.trim d] := by
  obtain ⟨c, rest, hc, ht⟩ := hd.opens
  have htrim : (Text.trim d).toList <:+: d.toList := by
    rw [Text.trim, String.toList_ofList]
    exact Text.trimChars_infix _
  have hne : (Text.trim d).isEmpty = false := by
    rw [String.isEmpty_eq_false_iff]
    intro h
    rw [h] at ht
    simp at ht
  have hcomment : isCommentLine (Text.trim d) = false := by
    simp only [isCommentLine, String.startsWith_string_eq_false_iff]
    exact fun h => hd.noComment (h.isInfix.trans htrim)
  have hstrip : withoutComment (Text.trim d) = Text.trim d := by
    unfold withoutComment
    rw [stripComment_of_no_mark _ _ _ _ fun h => hd.noComment (h.trans htrim)]
    simp
  unfold lineStatements
  simp only [hne, hcomment, Bool.or_false, Bool.false_eq_true, if_false, hstrip]
  unfold statementsOf
  rw [splitStatements_of_not_mem _ _ _ _ fun h => hd.noSemicolon (htrim.subset h)]
  simp

/-- After the header, a directive line is read as its directive, which writes the entries the
line names; a line that is not a `class` line does not attach classes. -/
theorem readLine_eq : ∃ dir : Directive,
    (kw ≠ "class" → ∀ nodes name, dir ≠ .assignClass nodes name) ∧ lineKeys d = dir.keys ∧
      ∀ (st : Reading) (n : Nat), st.seenHeader = true →
        readLine st n d = { st with builder := applyDirective n st.builder dir } := by
  obtain ⟨c, rest, hc, ht⟩ := hd.opens
  obtain ⟨dir, hdir, hclass⟩ := ofStatement_of_keyword hd.keyword_mem hc ht
  have hne : (Text.trim d).isEmpty = false := by
    rw [String.isEmpty_eq_false_iff]
    intro h
    rw [h] at ht
    simp at ht
  refine ⟨dir, hclass, ?_, fun st n hseen => ?_⟩
  · simp [lineKeys, hd.lineStatements_eq, statementKeys, Text.trim_trim, hdir]
  · rw [readLine_of_seenHeader hseen, hd.lineStatements_eq, List.foldl_cons, List.foldl_nil]
    unfold readStatement
    simp only [Text.trim_trim, hne, Bool.false_eq_true, if_false, hdir]

end DirectiveLine

/-! ### Inserting and moving styling lines -/

/-- A styling line put in anywhere after the header of a flowchart text changes neither the
nodes' ids, labels and shapes nor the edges, and the text is drawn with the same layout. -/
theorem parse_insert_directiveLine {p q d kw : String} (hp : p.toList.getLast? = some '\n')
    (hheader : firstSignificantLine p = firstSignificantLine (p ++ q))
    (hkind : DiagramKind.detect (p ++ q) = .flowchart) (hd : DirectiveLine kw d) :
    ∃ c c', (parseDiagram (p ++ q)).diagram = .flowchart c ∧
      (parseDiagram (p ++ d ++ "\n" ++ q)).diagram = .flowchart c' ∧ c'.unstyled = c.unstyled ∧
      ∀ {α : Type} [Scalar α] (config : LayoutConfig α),
        (Drawing.ofText (p ++ q) config).SameLayout (Drawing.ofText (p ++ d ++ "\n" ++ q) config) := by
  have hkind' : DiagramKind.detect (p ++ d ++ "\n" ++ q) = .flowchart := by
    rw [String.append_assoc, String.append_assoc]
    exact detect_append_of_header hheader hkind hp _
  -- both texts are read as `p`, then the rest, and the styling line keeps the unstyled chart
  have hseen := seenHeader_of_header hheader hkind
  obtain ⟨dir, -, -, hread⟩ := hd.readLine_eq
  have hlock : Reading.Lock (fun b₁ b₂ => b₁.chart.unstyled = b₂.chart.unstyled)
      (readLine (readLines {} 1 (Text.lines p)) (1 + (Text.lines p).length)
        (String.ofList (Text.stripReturn d.toList)))
      (readLines {} 1 (Text.lines p)) := by
    rw [readLine_stripReturn, hread _ _ hseen]
    exact ⟨unstyled_applyDirective _ _ dir, hseen, hseen, rfl⟩
  have hfinal := Lockstep.unstyled.readLines (Text.lines q) (1 + (Text.lines p).length + 1)
    (1 + (Text.lines p).length) (fun _ _ _ _ => trivial) hlock
  have hc : (parseFlowchart (p ++ d ++ "\n" ++ q)).1.unstyled =
      (parseFlowchart (p ++ q)).1.unstyled := by
    rw [parseFlowchart_chart, parseFlowchart_chart, Text.lines_insert hp hd.noNewline,
      Text.lines_append hp, readLines_append, readLines_append, readLines]
    exact hfinal.builder
  refine ⟨_, _, by rw [parseDiagram_eq_of_flowchart hkind], by rw [parseDiagram_eq_of_flowchart hkind'],
    hc, fun config => Drawing.sameLayout_of_unstyled hkind hkind' hc.symm config⟩

/-- Moving a `style`, `linkStyle` or `classDef` line past lines that write none of its entries
leaves the chart as it was, side tables included, and so the drawn nodes and edges with their
resolved styles and colours. -/
theorem parse_move_styleLine {p m q d kw : String} (hp : p.toList.getLast? = some '\n')
    (hm : m = "" ∨ m.toList.getLast? = some '\n')
    (hheader : firstSignificantLine p = firstSignificantLine (p ++ d ++ "\n" ++ m ++ q))
    (hkind : DiagramKind.detect (p ++ d ++ "\n" ++ m ++ q) = .flowchart)
    (hd : DirectiveLine kw d) (hkw : kw ≠ "class")
    (hapart : ∀ line ∈ Text.lines m, ∀ k ∈ lineKeys line, k ∉ lineKeys d) :
    (parseDiagram (p ++ d ++ "\n" ++ m ++ q)).diagram =
        (parseDiagram (p ++ m ++ d ++ "\n" ++ q)).diagram ∧
      ∀ {α : Type} [Scalar α] (config : LayoutConfig α),
        (Drawing.ofText (p ++ d ++ "\n" ++ m ++ q) config).nodes =
            (Drawing.ofText (p ++ m ++ d ++ "\n" ++ q) config).nodes ∧
          (Drawing.ofText (p ++ d ++ "\n" ++ m ++ q) config).edges =
            (Drawing.ofText (p ++ m ++ d ++ "\n" ++ q) config).edges := by
  have hpm : (p ++ m).toList.getLast? = some '\n' := by
    rcases hm with rfl | hm
    · simpa using hp
    · simp [String.toList_append, List.getLast?_append, hm]
  have hkind₂ : DiagramKind.detect (p ++ m ++ d ++ "\n" ++ q) = .flowchart := by
    rw [String.append_assoc, String.append_assoc, String.append_assoc]
    exact detect_append_of_header hheader hkind hp _
  have hseen := seenHeader_of_header hheader hkind
  obtain ⟨dir, hrestyles, hkeys, hread⟩ := hd.readLine_eq
  have hchart := chart_applyDirective (hrestyles hkw)
  -- reading the styling line first: the chart so far restyled by its writes
  have hlock : Reading.Lock (fun b₁ b₂ => b₁.chart = b₂.chart.restyle dir.writes)
      (readLine (readLines {} 1 (Text.lines p)) (1 + (Text.lines p).length)
        (String.ofList (Text.stripReturn d.toList)))
      (readLines {} 1 (Text.lines p)) := by
    rw [readLine_stripReturn, hread _ _ hseen]
    exact ⟨hchart _ _, hseen, hseen, rfl⟩
  -- the lines it moves past write other entries, so the writes wait until after them
  have hmid := (Lockstep.restyle dir.writes).readLines (Text.lines m) (1 + (Text.lines p).length + 1)
    (1 + (Text.lines p).length) (fun line hline k hk hmem => hapart line hline k hk
      (hkeys ▸ hmem)) hlock
  have hafter : Reading.Lock (fun b₁ b₂ => b₁.chart = b₂.chart.restyle [])
      (readLines (readLine (readLines {} 1 (Text.lines p)) (1 + (Text.lines p).length)
        (String.ofList (Text.stripReturn d.toList))) (1 + (Text.lines p).length + 1) (Text.lines m))
      (readLine (readLines (readLines {} 1 (Text.lines p)) (1 + (Text.lines p).length)
        (Text.lines m)) (1 + (Text.lines p).length + (Text.lines m).length)
          (String.ofList (Text.stripReturn d.toList))) := by
    simp only [readLine_stripReturn] at hmid ⊢
    rw [hread (readLines (readLines {} 1 (Text.lines p)) (1 + (Text.lines p).length) (Text.lines m))
      _ hmid.seen₂]
    exact ⟨(hmid.builder).trans (hchart _ _).symm, hmid.seen₁, hmid.seen₂, hmid.subgraphs⟩
  have hfinal := (Lockstep.restyle []).readLines (Text.lines q)
    (1 + (Text.lines p).length + 1 + (Text.lines m).length)
    (1 + (Text.lines p).length + (Text.lines m).length + 1) (fun _ _ k _ => by simp) hafter
  have hc : (parseFlowchart (p ++ d ++ "\n" ++ m ++ q)).1 =
      (parseFlowchart (p ++ m ++ d ++ "\n" ++ q)).1 := by
    have hassoc : p ++ d ++ "\n" ++ m ++ q = p ++ d ++ "\n" ++ (m ++ q) := String.append_assoc ..
    rw [parseFlowchart_chart, parseFlowchart_chart, hassoc, Text.lines_insert hp hd.noNewline,
      Text.lines_append_of_whole hm, Text.lines_insert hpm hd.noNewline, Text.lines_append hp,
      readLines_append, readLines, readLines_append, List.append_assoc, readLines_append,
      readLines_append, readLines]
    exact hfinal.builder
  have hdiagram : (parseDiagram (p ++ d ++ "\n" ++ m ++ q)).diagram =
      (parseDiagram (p ++ m ++ d ++ "\n" ++ q)).diagram := by
    rw [parseDiagram_eq_of_flowchart hkind, parseDiagram_eq_of_flowchart hkind₂, hc]
  refine ⟨hdiagram, fun config => ?_⟩
  unfold Drawing.ofText Drawing.ofParse
  rw [parseDiagram_eq_of_flowchart hkind, parseDiagram_eq_of_flowchart hkind₂, hc]
  exact ⟨rfl, rfl⟩

/-- Styling lines touch only the side tables. A styling line inserted anywhere after the header
leaves the nodes and edges read, and the whole layout, as they were. A `style`, `linkStyle` or
`classDef` line moved past lines that write none of its entries leaves the chart as it was, side
tables included, and so every drawn node and edge with its resolved style and colour. -/
theorem styling_touches_only_side_tables :
    (∀ p q d kw : String, p.toList.getLast? = some '\n' →
      firstSignificantLine p = firstSignificantLine (p ++ q) →
      DiagramKind.detect (p ++ q) = .flowchart → DirectiveLine kw d →
      ∃ c c', (parseDiagram (p ++ q)).diagram = .flowchart c ∧
        (parseDiagram (p ++ d ++ "\n" ++ q)).diagram = .flowchart c' ∧
        c'.unstyled = c.unstyled ∧
        ∀ {α : Type} [Scalar α] (config : LayoutConfig α),
          (Drawing.ofText (p ++ q) config).SameLayout (Drawing.ofText (p ++ d ++ "\n" ++ q) config)) ∧
    (∀ p m q d kw : String, p.toList.getLast? = some '\n' →
      (m = "" ∨ m.toList.getLast? = some '\n') →
      firstSignificantLine p = firstSignificantLine (p ++ d ++ "\n" ++ m ++ q) →
      DiagramKind.detect (p ++ d ++ "\n" ++ m ++ q) = .flowchart →
      DirectiveLine kw d → kw ≠ "class" →
      (∀ line ∈ Text.lines m, ∀ k ∈ lineKeys line, k ∉ lineKeys d) →
      (parseDiagram (p ++ d ++ "\n" ++ m ++ q)).diagram =
          (parseDiagram (p ++ m ++ d ++ "\n" ++ q)).diagram ∧
        ∀ {α : Type} [Scalar α] (config : LayoutConfig α),
          (Drawing.ofText (p ++ d ++ "\n" ++ m ++ q) config).nodes =
              (Drawing.ofText (p ++ m ++ d ++ "\n" ++ q) config).nodes ∧
            (Drawing.ofText (p ++ d ++ "\n" ++ m ++ q) config).edges =
              (Drawing.ofText (p ++ m ++ d ++ "\n" ++ q) config).edges) :=
  ⟨fun _ _ _ _ hp hheader hkind hd => parse_insert_directiveLine hp hheader hkind hd,
    fun _ _ _ _ _ hp hm hheader hkind hd hkw hapart =>
      parse_move_styleLine hp hm hheader hkind hd hkw hapart⟩

/-- A node style inserted after the header, and the same line moved past an edge that does not
involve it. -/
theorem style_line_inserted_and_moved :
    let p := "flowchart TD\n"
    let m := "A --> B\n"
    let q := "B --> C\n"
    let d := "style A fill:red"
    (∃ c c', (parseDiagram (p ++ q)).diagram = .flowchart c ∧
        (parseDiagram (p ++ d ++ "\n" ++ q)).diagram = .flowchart c' ∧
        c'.unstyled = c.unstyled ∧
        ∀ {α : Type} [Scalar α] (config : LayoutConfig α),
          (Drawing.ofText (p ++ q) config).SameLayout (Drawing.ofText (p ++ d ++ "\n" ++ q) config)) ∧
      ((parseDiagram (p ++ d ++ "\n" ++ m ++ q)).diagram =
          (parseDiagram (p ++ m ++ d ++ "\n" ++ q)).diagram ∧
        ∀ {α : Type} [Scalar α] (config : LayoutConfig α),
          (Drawing.ofText (p ++ d ++ "\n" ++ m ++ q) config).nodes =
              (Drawing.ofText (p ++ m ++ d ++ "\n" ++ q) config).nodes ∧
            (Drawing.ofText (p ++ d ++ "\n" ++ m ++ q) config).edges =
              (Drawing.ofText (p ++ m ++ d ++ "\n" ++ q) config).edges) :=
  have hp : ("flowchart TD\n" : String).toList.getLast? = some '\n' := by decide
  have hd : DirectiveLine "style" "style A fill:red" :=
    ⟨by simp [stylingKeywords], ⟨' ', "A fill:red".toList, by decide, by decide +kernel⟩, by decide,
      fun h => absurd (h.subset List.mem_cons_self) (by decide), by decide⟩
  have hheader : firstSignificantLine "flowchart TD\n" =
      firstSignificantLine ("flowchart TD\n" ++ "B --> C\n") := by decide +kernel
  have hkind : DiagramKind.detect ("flowchart TD\n" ++ "B --> C\n") = .flowchart := by decide +kernel
  have hheader' : firstSignificantLine "flowchart TD\n" = firstSignificantLine
      ("flowchart TD\n" ++ "style A fill:red" ++ "\n" ++ "A --> B\n" ++ "B --> C\n") := by decide +kernel
  have hkind' : DiagramKind.detect
      ("flowchart TD\n" ++ "style A fill:red" ++ "\n" ++ "A --> B\n" ++ "B --> C\n") =
        .flowchart := by decide +kernel
  have hapart : ∀ line ∈ Text.lines "A --> B\n", ∀ k ∈ lineKeys line,
      k ∉ lineKeys "style A fill:red" := by decide +kernel
  ⟨styling_touches_only_side_tables.1 _ _ _ _ hp hheader hkind hd,
    styling_touches_only_side_tables.2 _ _ _ _ _ hp (.inr (by decide)) hheader' hkind' hd
      (by decide) hapart⟩

end Syntax

end FlowLayout
