import Mathlib.Data.List.TakeDrop
import FlowLayout.Proofs.Styling
import FlowLayout.Proofs.Growth
/-!
# Interning node references

Reading a flowchart interns its node references one at a time. Seen from the chart, a text is
a list of events (`textEvents`): the node references of each graph statement from left to
right, each edge of a chain right after its target, and the nodes each `class` directive
names; statement after statement, line after line, the header left out. The chart is a
function of these events alone:

* the nodes are the distinct ids in order of first mention (`mentionedIds`);
* a node's label is the first label among its mentions that is not empty once cleaned, and
  its shape the first shape among its mentions other than a rectangle (`internedNode`), so
  neither changes once set;
* its classes are, without repeats and in the order they come, the `:::` classes of its
  mentions and the classes of the `class` directives that name it after its first mention
  (`classesGiven`); the class a chain's colour takes is no longer on its last node;
* the edges are those of the chains, one per link, in order (`internedEdges`).

A `class` directive that names a node not yet mentioned attaches nothing and leaves a warning
(`unknownClassWarnings`). The builder keeps this correspondence event by event (`Interns`),
which gives it for the whole text (`parseFlowchart_interns`).
-/

namespace FlowLayout

namespace Text

/-- A name that trimming leaves as it is and that is not empty: the reader hands every node
id and class name over in this form. -/
structure Trimmed (s : String) : Prop where
  trim_eq : trim s = s
  ne_empty : s ≠ ""

theorem trimChars_of_not_blank {cs : List Char} (h : ∀ c ∈ cs, isBlank c = false) :
    trimChars cs = cs := by
  have hdrop : ∀ l : List Char, (∀ c ∈ l, isBlank c = false) → l.dropWhile isBlank = l := by
    intro l hl
    cases l with
    | nil => rfl
    | cons c l => exact List.dropWhile_cons_of_neg (by simp [hl c List.mem_cons_self])
  rw [trimChars, hdrop cs h, dropBlankEnd, hdrop _ fun c hc => h c (List.mem_reverse.1 hc),
    List.reverse_reverse]

theorem trim_of_not_blank {s : String} (h : ∀ c ∈ s.toList, isBlank c = false) : trim s = s := by
  rw [trim, trimChars_of_not_blank h, String.ofList_toList]

end Text

namespace Syntax

/-! ### Names as reading hands them over -/

/-- A node reference whose id, and class if it has one, are trimmed names. -/
structure NodeRef.Trimmed (r : NodeRef) : Prop where
  id : Text.Trimmed r.id
  cls : ∀ c ∈ r.cls, Text.Trimmed c

theorem identifier_ne_nil {s id rest : List Char} (h : identifier s = some (id, rest)) :
    id ≠ [] := by
  unfold identifier at h
  split at h
  · split at h
    · simp only [Option.some.injEq, Prod.mk.injEq] at h
      rw [← h.1]
      exact List.cons_ne_nil _ _
    · exact absurd h (by simp)
  · exact absurd h (by simp)

theorem isClassChar_not_blank {c : Char} (h : isClassChar c = true) : Text.isBlank c = false := by
  unfold isClassChar at h
  simp only [Bool.or_eq_true, beq_iff_eq] at h
  rcases h with ((h | rfl) | rfl) | rfl
  · exact Text.isAlphanumeric_not_blank h
  all_goals decide

theorem classSuffix_trimmed {s name rest : List Char} (h : classSuffix s = some (name, rest)) :
    Text.Trimmed (String.ofList name) := by
  unfold classSuffix at h
  simp only [Option.bind_eq_bind, Option.bind_eq_some_iff, List.span_eq_takeWhile_dropWhile] at h
  obtain ⟨s', -, h⟩ := h
  split at h
  · exact absurd h (by simp)
  · next hne =>
    simp only [Option.some.injEq, Prod.mk.injEq] at h
    rw [← h.1]
    refine ⟨Text.trim_of_not_blank fun c hc => ?_, ?_⟩
    · rw [String.toList_ofList] at hc
      exact isClassChar_not_blank (List.mem_takeWhile_imp hc)
    · simpa using hne

/-- A reference the grammar reads has a trimmed id and class. -/
theorem nodeRef_trimmed {s rest : List Char} {r : NodeRef} (h : nodeRef s = some (r, rest)) :
    r.Trimmed := by
  have hclean := nodeRef_clean h
  unfold nodeRef at h
  cases hid : identifier s with
  | none => simp [hid] at h
  | some p =>
    obtain ⟨id, s'⟩ := p
    simp only [hid, Option.bind_eq_bind, Option.bind_some, Option.pure_def, Option.some.injEq,
      Prod.mk.injEq] at h
    obtain ⟨rfl, -⟩ := h
    refine ⟨⟨Text.trim_of_not_blank hclean, ?_⟩, fun c hc => ?_⟩
    · simpa using identifier_ne_nil hid
    · -- the class is the name `classSuffix` read, if it read one
      dsimp only at hc
      split at hc
      · next c' r' hsuffix =>
        rw [Option.mem_def, Option.some.injEq] at hc
        rw [← hc]
        exact classSuffix_trimmed hsuffix
      · simp at hc

/-- Every node reference of a statement that parses has a trimmed id and class. -/
theorem parse?_trimmed {s : String} {st : Statement} (h : Statement.parse? s = some st) :
    ∀ r ∈ st.refs, r.Trimmed :=
  parse?_refs nodeRef_trimmed (fun _ hr => ⟨hr.id, by simp⟩) h

theorem splitHead_trimmed {rest head tail : String} (h : splitHead rest = some (head, tail)) :
    Text.Trimmed tail := by
  unfold splitHead at h
  dsimp only at h
  split at h
  · exact absurd h (by simp)
  · split at h
    · exact absurd h (by simp)
    · next hne =>
      simp only [Option.some.injEq, Prod.mk.injEq] at h
      rw [← h.2]
      refine ⟨?_, ?_⟩
      · rw [Text.trim, String.toList_ofList, Text.trimChars_trimChars]
      · simp only [Bool.or_eq_true, not_or, Bool.not_eq_true] at hne
        simpa using hne.2

theorem trim_of_mem_commaItems {s n : String} (h : n ∈ commaItems s) : Text.trim n = n := by
  unfold commaItems at h
  obtain ⟨m, -, rfl⟩ := List.mem_map.1 (List.mem_filter.1 h).1
  exact Text.trim_trim m

/-- A `class` directive names trimmed nodes and a trimmed class. -/
theorem ofStatement_assignClass {statement : String} {nodes : List String} {cls : String}
    (h : Item.ofStatement statement = .directive (.assignClass nodes cls)) :
    (∀ n ∈ nodes, Text.trim n = n) ∧ Text.Trimmed cls := by
  -- only the `class` keyword reads an `assignClass` directive
  have hd : Directive.ofStatement? statement = some (.assignClass nodes cls) := by
    unfold Item.ofStatement at h
    split at h
    · cases h
    · split at h
      · cases h
      · split at h
        · cases h
        · split at h
          · next d hd => cases h; exact hd
          · split at h <;> cases h
  unfold Directive.ofStatement? at hd
  split at hd
  · split at hd <;> cases hd
  · split at hd
    · split at hd <;> cases hd
    · split at hd
      · split at hd <;> cases hd
      · split at hd
        · split at hd
          · next nodes₀ name hsplit =>
            simp only [Option.some.injEq, Directive.assignClass.injEq] at hd
            rw [← hd.1, ← hd.2]
            exact ⟨fun n hn => trim_of_mem_commaItems hn, splitHead_trimmed hsplit⟩
          · cases hd
        · cases hd

/-! ### Events and the chart they give -/

/-- What reading does that interning sees: a node reference read (its label and shape), the
`:::` class of a reference attached to its node, an edge added, or a node named by a `class`
directive of line `line`. -/
inductive Event where
  | mention (r : NodeRef)
  | attach (node cls : String)
  | edge (e : Edge)
  | assign (line : Nat) (node cls : String)

namespace Event

/-- The id an event mentions. -/
def ids : Event → List String
  | .mention r => [r.id]
  | _ => []

/-- The node reference an event reads. -/
def ref? : Event → Option NodeRef
  | .mention r => some r
  | _ => none

/-- The edge an event adds. -/
def edge? : Event → Option Edge
  | .edge e => some e
  | _ => none

/-- The classes an event attaches to node `x`, given the ids mentioned before it: the class of
a reference to `x` or of a `class` directive naming `x`, once `x` is known. -/
def classesFor (x : String) : Event × List String → List String
  | (.attach node cls, known) | (.assign _ node cls, known) =>
    if node = x ∧ x ∈ known then [cls] else []
  | _ => []

/-- The warning of a `class` directive that names a node not yet mentioned. -/
def unknownClassWarning : Event × List String → Option String
  | (.assign line node _, known) =>
    if node ∈ known then none
    else some (linePrefix line ++ "class directive references unknown node: " ++ node)
  | _ => none

end Event

/-- Each event with the ids mentioned before it, after the ids `known`. -/
def withKnown (known : List String) : List Event → List (Event × List String)
  | [] => []
  | e :: es => (e, known) :: withKnown (known ++ e.ids) es

/-- The distinct ids mentioned, in order of first mention. -/
def mentionedIds (es : List Event) : List String := (es.flatMap Event.ids).eraseDups

/-- The references to node `x`, in order. -/
def mentionsOf (es : List Event) (x : String) : List NodeRef :=
  (es.filterMap Event.ref?).filter (·.id = x)

/-- The first shape other than a rectangle; a rectangle when there is none. -/
def firstShape (shapes : List NodeShape) : NodeShape :=
  (shapes.find? (· != .rectangle)).getD .rectangle

/-- The classes attached to node `x`, in order and with repeats. -/
def attachedClasses (es : List Event) (x : String) : List String :=
  (withKnown [] es).flatMap (Event.classesFor x)

/-- The node the id `x` is interned as. -/
def internedNode (es : List Event) (x : String) : Node where
  id := x
  label := (mentionsOf es x).findSome? (cleanLabel ·.label)
  shape := firstShape ((mentionsOf es x).map (·.shape))
  classes := (attachedClasses es x).eraseDups

/-- The nodes: one per id, in order of first mention. -/
def internedNodes (es : List Event) : List Node := (mentionedIds es).map (internedNode es)

/-- The edges, in order. -/
def internedEdges (es : List Event) : List Edge := es.filterMap Event.edge?

/-- The warnings of the `class` directives that named nodes not yet mentioned. -/
def unknownClassWarnings (es : List Event) : List String :=
  (withKnown [] es).filterMap Event.unknownClassWarning

/-! ### The events of a text -/

/-- The events of a node reference: its mention, then its class. -/
def NodeRef.events (r : NodeRef) : List Event := .mention r :: r.cls.toList.map (.attach r.id)

/-- The events of a chain's links after the node `source`: each target is read, then the edge
to it is added, with the chain's colour on the last one. -/
def linkEvents (color : Option String) : String → List (Link × NodeRef) → List Event
  | _, [] => []
  | source, (lk, target) :: rest =>
    target.events ++
      .edge
        { source := source, target := target.id, label := cleanLabel lk.label,
          style := lk.style, color := cleanLabel (if rest.isEmpty then color else none) } ::
      linkEvents color target.id rest

/-- The events of a graph statement. -/
def Statement.events : Statement → List Event
  | .node n => n.events
  | .chain head links color => head.events ++ linkEvents color head.id links

/-- The events of a statement of line `line`: the references and edges of a graph statement,
the nodes of a `class` directive; none for any other statement. -/
def statementEvents (line : Nat) (raw : String) : List Event :=
  let statement := Text.trim raw
  if statement.isEmpty then []
  else match Item.ofStatement statement with
    | .directive (.assignClass nodes cls) => nodes.map (.assign line · cls)
    | .graph s => s.events
    | _ => []

/-- The statements of numbered lines with their line numbers, leaving out the header: the
first statement of the first line that has any. -/
def bodyStatements (seen : Bool) : Nat → List String → List (Nat × String)
  | _, [] => []
  | n, l :: rest =>
    ((if seen then lineStatements l else (lineStatements l).drop 1).map (n, ·)) ++
      bodyStatements (seen || !(lineStatements l).isEmpty) (n + 1) rest

/-- The events of a flowchart text. -/
def textEvents (input : String) : List Event :=
  (bodyStatements false 1 (Text.lines input)).flatMap fun s => statementEvents s.1 s.2

/-! ### One event more -/

theorem eraseDups_concat {α : Type} [BEq α] [LawfulBEq α] (l : List α) (a : α) :
    (l ++ [a]).eraseDups = l.eraseDups ++ [a].filter (· ∉ l) := by
  rw [List.eraseDups_append]
  by_cases ha : a ∈ l <;> simp [List.removeAll, ha, List.eraseDups_cons]

theorem nodup_eraseDups {α : Type} [BEq α] [LawfulBEq α] (l : List α) : l.eraseDups.Nodup := by
  induction l using List.reverseRecOn with
  | nil => exact List.nodup_nil
  | append_singleton l a ih =>
    rw [eraseDups_concat, List.nodup_append]
    refine ⟨ih, List.filter_sublist.nodup (by simp), fun x hx y hy hxy => ?_⟩
    rw [List.mem_filter, List.mem_singleton] at hy
    obtain ⟨rfl, hyl⟩ := hy
    subst hxy
    exact absurd (List.mem_eraseDups.1 hx) (by simpa using hyl)

theorem withKnown_append (known : List String) (es es' : List Event) :
    withKnown known (es ++ es') =
      withKnown known es ++ withKnown (known ++ es.flatMap Event.ids) es' := by
  induction es generalizing known with
  | nil => simp [withKnown]
  | cons e es ih => simp [withKnown, ih, List.append_assoc]

/-- The event appended sees every id mentioned before it. -/
theorem withKnown_concat (es : List Event) (e : Event) :
    withKnown [] (es ++ [e]) = withKnown [] es ++ [(e, es.flatMap Event.ids)] := by
  rw [withKnown_append]
  simp [withKnown]

theorem mem_mentionedIds {es : List Event} {x : String} :
    x ∈ mentionedIds es ↔ x ∈ es.flatMap Event.ids :=
  List.mem_eraseDups

theorem mentionedIds_nodup (es : List Event) : (mentionedIds es).Nodup := nodup_eraseDups _

theorem mentionedIds_isPrefix_append (es es' : List Event) :
    mentionedIds es <+: mentionedIds (es ++ es') := by
  unfold mentionedIds
  rw [List.flatMap_append, List.eraseDups_append]
  exact List.prefix_append _ _

theorem mentionedIds_concat_mention (es : List Event) (r : NodeRef) :
    mentionedIds (es ++ [.mention r]) =
      mentionedIds es ++ if r.id ∈ mentionedIds es then [] else [r.id] := by
  unfold mentionedIds
  rw [List.flatMap_append, show [Event.mention r].flatMap Event.ids = [r.id] from rfl,
    eraseDups_concat]
  by_cases hr : r.id ∈ es.flatMap Event.ids <;> simp [hr, List.mem_eraseDups, -List.mem_flatMap]

theorem mentionedIds_concat_of_ids {es : List Event} {e : Event} (he : e.ids = []) :
    mentionedIds (es ++ [e]) = mentionedIds es := by
  simp [mentionedIds, he]

theorem mentionsOf_concat (es : List Event) (e : Event) (x : String) :
    mentionsOf (es ++ [e]) x = mentionsOf es x ++ (e.ref?.toList.filter (·.id = x)) := by
  cases e <;> simp [mentionsOf, Event.ref?]

theorem attachedClasses_concat (es : List Event) (e : Event) (x : String) :
    attachedClasses (es ++ [e]) x =
      attachedClasses es x ++ Event.classesFor x (e, es.flatMap Event.ids) := by
  simp [attachedClasses, withKnown_concat]

theorem unknownClassWarnings_concat (es : List Event) (e : Event) :
    unknownClassWarnings (es ++ [e]) =
      unknownClassWarnings es ++ (Event.unknownClassWarning (e, es.flatMap Event.ids)).toList := by
  rw [unknownClassWarnings, withKnown_concat, List.filterMap_append]
  cases h : Event.unknownClassWarning (e, es.flatMap Event.ids) <;> simp [h, unknownClassWarnings]

theorem internedEdges_concat (es : List Event) (e : Event) :
    internedEdges (es ++ [e]) = internedEdges es ++ e.edge?.toList := by
  rw [internedEdges, internedEdges, List.filterMap_append]
  cases h : e.edge? <;> simp [h]

theorem firstShape_concat (shapes : List NodeShape) (s : NodeShape) :
    firstShape (shapes ++ [s]) =
      if firstShape shapes = .rectangle then s else firstShape shapes := by
  unfold firstShape
  rw [List.find?_append]
  cases h : shapes.find? (· != .rectangle) with
  | none => cases s <;> simp
  | some t =>
    have ht : t ≠ .rectangle := by simpa using List.find?_some h
    simp [ht]

/-- An event that neither mentions `x` nor attaches a class to it leaves the node of `x` as it
was. -/
theorem internedNode_concat_of_ignores {es : List Event} {e : Event} {x : String}
    (href : ∀ r ∈ e.ref?, r.id ≠ x) (hcls : Event.classesFor x (e, es.flatMap Event.ids) = []) :
    internedNode (es ++ [e]) x = internedNode es x := by
  have hmentions : mentionsOf (es ++ [e]) x = mentionsOf es x := by
    rw [mentionsOf_concat]
    cases e <;> simp_all [Event.ref?]
  simp only [internedNode, hmentions, attachedClasses_concat, hcls, List.append_nil]

/-- A mention of `r` sets a missing label and upgrades a rectangle. -/
theorem internedNode_concat_mention (es : List Event) (r : NodeRef) :
    internedNode (es ++ [.mention r]) r.id =
      { internedNode es r.id with
        label := (internedNode es r.id).label.or (cleanLabel r.label)
        shape := if (internedNode es r.id).shape = .rectangle then r.shape
          else (internedNode es r.id).shape } := by
  simp only [internedNode, mentionsOf_concat, attachedClasses_concat, Event.ref?, Event.classesFor,
    Option.toList_some, List.filter_singleton, decide_true, cond_true, List.findSome?_append,
    List.findSome?_singleton, List.map_append, List.map_singleton, firstShape_concat,
    List.append_nil]
  rfl

/-- An event attaching class `c` to a known node `x` adds it once. -/
theorem internedNode_concat_attaches {es : List Event} {e : Event} {x c : String}
    (href : e.ref? = none) (hcls : Event.classesFor x (e, es.flatMap Event.ids) = [c]) :
    internedNode (es ++ [e]) x =
      { internedNode es x with
        classes := (internedNode es x).classes ++ [c].filter (· ∉ (internedNode es x).classes) } := by
  have hmentions : mentionsOf (es ++ [e]) x = mentionsOf es x := by
    rw [mentionsOf_concat, href, Option.toList_none, List.filter_nil, List.append_nil]
  simp only [internedNode, hmentions, attachedClasses_concat, hcls, eraseDups_concat,
    List.mem_eraseDups]

/-- A node never mentioned has no label, no shape but a rectangle, and no class. -/
theorem internedNode_of_not_mem {es : List Event} {x : String} (hx : x ∉ mentionedIds es) :
    internedNode es x = { id := x } := by
  induction es using List.reverseRecOn with
  | nil => rfl
  | append_singleton es e ih =>
    have hx' : x ∉ mentionedIds es := fun h => hx ((mentionedIds_isPrefix_append es [e]).subset h)
    have hnot : ∀ r ∈ e.ref?, r.id ≠ x := by
      intro r hr hrx
      cases e <;> simp only [Event.ref?, Option.mem_def, reduceCtorEq, Option.some.injEq] at hr
      subst hr
      exact hx (by rw [mem_mentionedIds]; simp [Event.ids, hrx])
    have hcls : Event.classesFor x (e, es.flatMap Event.ids) = [] := by
      cases e with
      | attach node cls | assign _ node cls =>
        simp only [Event.classesFor, ite_eq_right_iff, List.cons_ne_nil, imp_false, not_and]
        exact fun _ h => hx' (mem_mentionedIds.2 h)
      | _ => rfl
    rw [internedNode_concat_of_ignores hnot hcls]
    exact ih hx'

/-- An id keeps its position as more events come. -/
theorem getElem?_mentionedIds_append {es : List Event} {i : Nat} {x : String}
    (hi : (mentionedIds es)[i]? = some x) (es' : List Event) :
    (mentionedIds (es ++ es'))[i]? = some x := by
  obtain ⟨hlt, rfl⟩ := List.getElem?_eq_some_iff.1 hi
  exact List.prefix_iff_getElem?.1 (mentionedIds_isPrefix_append es es') i hlt

/-- An event that mentions nothing and attaches no class leaves every node as it was. -/
theorem internedNodes_concat_of_quiet {es : List Event} {e : Event} (hids : e.ids = [])
    (href : e.ref? = none) (hcls : ∀ x, Event.classesFor x (e, es.flatMap Event.ids) = []) :
    internedNodes (es ++ [e]) = internedNodes es := by
  rw [internedNodes, internedNodes, mentionedIds_concat_of_ids hids]
  exact List.map_congr_left fun x _ => internedNode_concat_of_ignores (by simp [href]) (hcls x)

/-! ### The builder follows the events -/

theorem findIdx?_beq_of_mem : ∀ {l : List String} {x : String}, x ∈ l →
    ∃ i, l.findIdx? (· == x) = some i ∧ l[i]? = some x
  | y :: l, x, hx => by
    rw [List.findIdx?_cons]
    by_cases hy : y = x
    · exact ⟨0, by simp [hy], by simp [hy]⟩
    · obtain ⟨i, hi, hget⟩ := findIdx?_beq_of_mem ((List.mem_cons.1 hx).resolve_left (Ne.symm hy))
      exact ⟨i + 1, by simp [hy, hi], by simpa using hget⟩

theorem findIdx?_beq_of_not_mem {l : List String} {x : String} (hx : x ∉ l) :
    l.findIdx? (· == x) = none :=
  List.findIdx?_eq_none_iff.2 fun y hy => by
    simpa using fun h : y = x => hx (h ▸ hy)

/-- Changing the node of one id: distinct ids mapped to nodes, with the node at the position of
`x` changed by `f`, are the ids mapped by the changed function. -/
theorem map_modify_of_nodup {ids : List String} (hnd : ids.Nodup) {i : Nat} {x : String}
    (hi : ids[i]? = some x) {g g' : String → Node} {f : Node → Node} (hx : g' x = f (g x))
    (hy : ∀ y, y ≠ x → g' y = g y) : (ids.map g).modify i f = ids.map g' := by
  apply List.ext_getElem?
  intro j
  rw [List.getElem?_modify, List.getElem?_map, List.getElem?_map]
  cases hj : ids[j]? with
  | none => rfl
  | some y =>
    by_cases hij : i = j
    · subst hij
      rw [hi] at hj
      cases hj
      simp [hx]
    · -- distinct ids sit at distinct positions
      have hyx : y ≠ x := by
        rintro rfl
        have hlt : i < ids.length := (List.getElem?_eq_some_iff.1 hi).1
        exact hij ((List.getElem?_inj hlt hnd).1 (hi.trans hj.symm))
      simp [hij, hy y hyx]

/-- A builder that has read the events `es`: its nodes and edges are those the events give,
and its warnings hold those of the `class` directives that named unknown nodes, in order. -/
structure Interns (es : List Event) (b : Builder) : Prop where
  nodes : b.chart.nodes = internedNodes es
  edges : b.chart.edges = internedEdges es
  warnings : (unknownClassWarnings es).Sublist b.warnings

namespace Interns

variable {es : List Event} {b : Builder}

theorem start (d : Direction) : Interns [] { chart := { direction := d } } where
  nodes := rfl
  edges := rfl
  warnings := List.Sublist.slnil

theorem findNodeIndex (h : Interns es b) (x : String) :
    b.chart.findNodeIndex x = (mentionedIds es).findIdx? (· == x) := by
  rw [Flowchart.findNodeIndex, h.nodes, internedNodes, List.findIdx?_map]
  rfl

theorem warn (h : Interns es b) (w : String) : Interns es (b.warn w) :=
  ⟨h.nodes, h.edges, h.warnings.trans (List.sublist_append_left _ _)⟩

/-- Interning a trimmed reference reads its mention, and returns the position of its id. -/
theorem intern (h : Interns es b) {r : NodeRef} (hr : r.Trimmed) :
    ∃ i b', b.intern r.id r.label r.shape = (some i, b') ∧
      (mentionedIds (es ++ [.mention r]))[i]? = some r.id ∧ Interns (es ++ [.mention r]) b' := by
  have hne : (Text.trim r.id).isEmpty = false := by
    rw [hr.id.trim_eq, String.isEmpty_eq_false_iff]
    exact hr.id.ne_empty
  have hother : ∀ y, y ≠ r.id → internedNode (es ++ [.mention r]) y = internedNode es y :=
    fun y hy => internedNode_concat_of_ignores (by simpa [Event.ref?] using Ne.symm hy) rfl
  have hedges : internedEdges (es ++ [.mention r]) = internedEdges es := by
    simp [internedEdges_concat, Event.edge?]
  have hwarn : unknownClassWarnings (es ++ [.mention r]) = unknownClassWarnings es := by
    simp [unknownClassWarnings_concat, Event.unknownClassWarning]
  unfold Builder.intern
  rw [if_neg (by rw [hne]; exact Bool.false_ne_true), hr.id.trim_eq, h.findNodeIndex]
  by_cases hx : r.id ∈ mentionedIds es
  · -- a known id: its node takes a missing label and leaves a rectangle
    obtain ⟨i, hfind, hi⟩ := findIdx?_beq_of_mem hx
    have hids : mentionedIds (es ++ [.mention r]) = mentionedIds es := by
      rw [mentionedIds_concat_mention, if_pos hx, List.append_nil]
    rw [hfind]
    refine ⟨i, _, rfl, hids ▸ hi, ?_, hedges ▸ h.edges, hwarn ▸ h.warnings⟩
    show b.chart.nodes.modify i _ = _
    rw [h.nodes, internedNodes, internedNodes, hids]
    refine map_modify_of_nodup (mentionedIds_nodup es) hi ?_ hother
    rw [internedNode_concat_mention]
    -- the builder keeps a label, and a shape other than a rectangle, once set
    cases hl : (internedNode es r.id).label <;>
      by_cases hs : (internedNode es r.id).shape = .rectangle <;>
      by_cases hrs : r.shape = .rectangle <;> simp [hs, hrs]
  · -- a new id: its node is appended
    have hlen : b.chart.nodes.length = (mentionedIds es).length := by
      rw [h.nodes, internedNodes, List.length_map]
    rw [findIdx?_beq_of_not_mem hx]
    refine ⟨b.chart.nodes.length, _, rfl, ?_, ?_, hedges ▸ h.edges, hwarn ▸ h.warnings⟩
    · rw [mentionedIds_concat_mention, if_neg hx, hlen, List.getElem?_concat_length]
    · show b.chart.nodes ++ _ = _
      rw [h.nodes, internedNodes, internedNodes, mentionedIds_concat_mention, if_neg hx,
        List.map_append, List.map_singleton, internedNode_concat_mention,
        internedNode_of_not_mem hx]
      rw [List.map_congr_left fun y hy => hother y fun h => hx (h ▸ hy)]
      simp

/-- Attaching class `c` to a known node `x` reads the event that attaches it: the `:::` class of
a reference or a `class` directive. -/
theorem addClass_of_mem (h : Interns es b) {x c : String} (hx : x ∈ mentionedIds es)
    (hxt : Text.trim x = x) (hc : Text.Trimmed c) {e : Event}
    (he : e = .attach x c ∨ ∃ line, e = .assign line x c) :
    ∃ b', b.addClass x c = (true, b') ∧ Interns (es ++ [e]) b' := by
  have hknown : x ∈ es.flatMap Event.ids := mem_mentionedIds.1 hx
  have hcls : ∀ y, Event.classesFor y (e, es.flatMap Event.ids) = if y = x then [c] else [] := by
    intro y
    by_cases hy : y = x
    · subst hy
      rcases he with rfl | ⟨line, rfl⟩ <;> simp [Event.classesFor, hknown]
    · rcases he with rfl | ⟨line, rfl⟩ <;> simp [Event.classesFor, hy, Ne.symm hy]
  have href : e.ref? = none := by rcases he with rfl | ⟨line, rfl⟩ <;> rfl
  have hids : e.ids = [] := by rcases he with rfl | ⟨line, rfl⟩ <;> rfl
  have hedges : internedEdges (es ++ [e]) = internedEdges es := by
    rcases he with rfl | ⟨line, rfl⟩ <;> simp [internedEdges_concat, Event.edge?]
  have hwarn : unknownClassWarnings (es ++ [e]) = unknownClassWarnings es := by
    rcases he with rfl | ⟨line, rfl⟩ <;>
      simp [unknownClassWarnings_concat, Event.unknownClassWarning, hknown]
  obtain ⟨i, hfind, hi⟩ := findIdx?_beq_of_mem hx
  have hcne : c.isEmpty = false := String.isEmpty_eq_false_iff.2 hc.ne_empty
  unfold Builder.addClass
  rw [hxt, h.findNodeIndex, hfind]
  refine ⟨_, rfl, ?_, hedges ▸ h.edges, hwarn ▸ h.warnings⟩
  show b.chart.nodes.modify i _ = _
  rw [h.nodes, internedNodes, internedNodes, mentionedIds_concat_of_ids hids]
  refine map_modify_of_nodup (mentionedIds_nodup es) hi ?_ fun y hy =>
    internedNode_concat_of_ignores (by simp [href]) (by rw [hcls y, if_neg hy])
  rw [internedNode_concat_attaches href ((hcls x).trans (if_pos rfl))]
  -- the builder adds the class unless the node has it already
  by_cases hin : c ∈ (internedNode es x).classes <;> simp [hc.trim_eq, hcne, hin]

theorem addClass_of_not_mem (h : Interns es b) {x : String} (hx : x ∉ mentionedIds es)
    (hxt : Text.trim x = x) (c : String) : b.addClass x c = (false, b) := by
  unfold Builder.addClass
  rw [hxt, h.findNodeIndex, findIdx?_beq_of_not_mem hx]

/-- A `class` directive naming a node not yet mentioned leaves only its warning. -/
theorem assign_unknown (h : Interns es b) (line : Nat) {x : String} (hx : x ∉ mentionedIds es)
    (c : String) :
    Interns (es ++ [.assign line x c])
      (b.warn (linePrefix line ++ "class directive references unknown node: " ++ x)) := by
  have hknown : x ∉ es.flatMap Event.ids := fun h => hx (mem_mentionedIds.2 h)
  refine ⟨?_, ?_, ?_⟩
  · refine h.nodes.trans (internedNodes_concat_of_quiet rfl rfl fun y => ?_).symm
    by_cases hy : x = y
    · subst hy
      simp [Event.classesFor, hknown]
    · simp [Event.classesFor, hy]
  · show b.chart.edges = _
    simp [h.edges, internedEdges_concat, Event.edge?]
  · rw [unknownClassWarnings_concat]
    exact h.warnings.append (by simp [Event.unknownClassWarning, hknown])

/-- An edge between two known positions reads the edge event between their ids. -/
theorem pushEdge (h : Interns es b) {s t : Nat} {source target : String}
    (hs : (mentionedIds es)[s]? = some source) (ht : (mentionedIds es)[t]? = some target)
    (style : EdgeStyle) (label color : Option String) :
    Interns
      (es ++ [.edge
        { source := source, target := target, label := cleanLabel label, style := style,
          color := cleanLabel color }])
      (b.pushEdge s t style label color) := by
  have hs' : b.chart.nodes[s]? = some (internedNode es source) := by
    rw [h.nodes, internedNodes, List.getElem?_map, hs, Option.map_some]
  have ht' : b.chart.nodes[t]? = some (internedNode es target) := by
    rw [h.nodes, internedNodes, List.getElem?_map, ht, Option.map_some]
  unfold Builder.pushEdge
  rw [hs', ht']
  refine ⟨?_, ?_, ?_⟩
  · exact h.nodes.trans (internedNodes_concat_of_quiet rfl rfl fun _ => rfl).symm
  · show b.chart.edges ++ _ = _
    rw [h.edges, internedEdges_concat]
    rfl
  · simpa [unknownClassWarnings_concat, Event.unknownClassWarning] using h.warnings

/-- Reading a trimmed reference reads its events, and returns the position of its id. -/
theorem internRef (h : Interns es b) {r : NodeRef} (hr : r.Trimmed) :
    ∃ i b', Syntax.internRef b r = (some i, b') ∧
      (mentionedIds (es ++ r.events))[i]? = some r.id ∧ Interns (es ++ r.events) b' := by
  obtain ⟨i, b₁, hint, hi, h₁⟩ := h.intern hr
  unfold Syntax.internRef
  rw [hint]
  cases hc : r.cls with
  | none =>
    simp only [NodeRef.events, hc, Option.toList_none, List.map_nil]
    exact ⟨i, b₁, rfl, hi, h₁⟩
  | some c =>
    -- the class goes to the node just read
    have hevents : es ++ r.events = es ++ [.mention r] ++ [.attach r.id c] := by
      simp [NodeRef.events, hc]
    obtain ⟨b₂, hadd, h₂⟩ :=
      h₁.addClass_of_mem (List.mem_of_getElem? hi) hr.id.trim_eq (hr.cls c hc) (.inl rfl)
    refine ⟨i, b₂, by simp only [hadd], ?_, hevents ▸ h₂⟩
    rw [hevents, mentionedIds_concat_of_ids rfl]
    exact hi

/-- Reading the links of a chain from the node at `previous` reads their events. -/
theorem lowerLinks (color : Option String) : ∀ (links : List (Link × NodeRef)) (previous : Nat)
    (source : String) (es : List Event) (b : Builder), Interns es b →
    (mentionedIds es)[previous]? = some source → (∀ x ∈ links, x.2.Trimmed) →
    Interns (es ++ linkEvents color source links) (Syntax.lowerLinks previous color links b)
  | [], _, _, es, b, h, _, _ => by simpa [linkEvents, Syntax.lowerLinks] using h
  | (lk, target) :: rest, previous, source, es, b, h, hprev, htrim => by
    obtain ⟨current, b₁, hint, hcur, h₁⟩ := h.internRef (htrim _ List.mem_cons_self)
    have h₂ := h₁.pushEdge (getElem?_mentionedIds_append hprev _) hcur lk.style lk.label
      (if rest.isEmpty then color else none)
    have h₃ := lowerLinks color rest current target.id _ _ h₂
      (by rw [mentionedIds_concat_of_ids rfl]; exact hcur)
      fun x hx => htrim x (List.mem_cons_of_mem _ hx)
    rw [Syntax.lowerLinks, hint]
    simpa [linkEvents, List.append_assoc] using h₃

/-- Reading a graph statement reads its events. -/
theorem lowerStatement (h : Interns es b) {s : Statement} (hs : ∀ r ∈ s.refs, r.Trimmed) :
    Interns (es ++ s.events) (Syntax.lowerStatement b s) := by
  cases s with
  | node n =>
    obtain ⟨i, b', hint, -, h'⟩ := h.internRef (hs n List.mem_cons_self)
    rw [Syntax.lowerStatement, hint]
    exact h'
  | chain head links color =>
    obtain ⟨i, b₁, hint, hi, h₁⟩ := h.internRef (hs head List.mem_cons_self)
    have h₂ := lowerLinks color links i head.id _ b₁ h₁ hi fun x hx =>
      hs x.2 (List.mem_cons_of_mem _ (List.mem_map_of_mem hx))
    rw [Syntax.lowerStatement, hint]
    simpa [Statement.events, List.append_assoc] using h₂

/-- A styling directive other than `class` leaves nodes, edges and the warnings read so far. -/
theorem applyDirective_of_ne (h : Interns es b) {d : Directive}
    (hd : ∀ nodes name, d ≠ .assignClass nodes name) (line : Nat) :
    Interns es (Syntax.applyDirective line b d) := by
  have hchart := chart_applyDirective hd line b
  refine ⟨?_, ?_, h.warnings.trans (grows_applyDirective b line d).warnings.sublist⟩
  · rw [hchart]
    exact h.nodes
  · rw [hchart]
    exact h.edges

/-- A `class` directive reads one event per node it names. -/
theorem applyDirective_assignClass (h : Interns es b) (line : Nat) {nodes : List String}
    {cls : String} (hnodes : ∀ n ∈ nodes, Text.trim n = n) (hc : Text.Trimmed cls) :
    Interns (es ++ nodes.map (.assign line · cls))
      (Syntax.applyDirective line b (.assignClass nodes cls)) := by
  rw [Syntax.applyDirective]
  induction nodes generalizing es b with
  | nil => simpa using h
  | cons n rest ih =>
    have hn : Text.trim n = n := hnodes n List.mem_cons_self
    rw [List.foldl_cons, List.map_cons, ← List.singleton_append, ← List.append_assoc]
    refine ih ?_ fun m hm => hnodes m (List.mem_cons_of_mem _ hm)
    -- one node: its class is attached when it is known, and a warning left when not
    by_cases hx : n ∈ mentionedIds es
    · obtain ⟨b', hadd, h'⟩ := h.addClass_of_mem hx hn hc (.inr ⟨line, rfl⟩)
      simp only [hadd]
      exact h'
    · simp only [h.addClass_of_not_mem hx hn]
      exact h.assign_unknown line hx cls

/-- Reading a statement reads its events. -/
theorem readStatement {st : Reading} (h : Interns es st.builder) (line : Nat) (raw : String) :
    Interns (es ++ statementEvents line raw) (Syntax.readStatement line st raw).builder := by
  unfold Syntax.readStatement statementEvents
  dsimp only
  by_cases hempty : (Text.trim raw).isEmpty = true
  · simpa [hempty] using h
  · simp only [hempty, if_false, Bool.false_eq_true]
    cases hitem : Item.ofStatement (Text.trim raw) with
    | openSubgraph | localDirection => simpa using h
    | closeSubgraph =>
      simp only [List.append_nil]
      split
      · exact h.warn _
      · exact h
    | unsupported => simpa using h.warn _
    | graph s => exact h.lowerStatement (parse?_trimmed (parse?_of_ofStatement hitem))
    | directive d =>
      cases d with
      | assignClass nodes cls =>
        obtain ⟨hnodes, hc⟩ := ofStatement_assignClass hitem
        exact h.applyDirective_assignClass line hnodes hc
      | style | linkStyle | classDef | incomplete =>
        simpa using h.applyDirective_of_ne (fun _ _ hd => by cases hd) line

theorem foldl_readStatement (n : Nat) : ∀ (statements : List String) {es : List Event}
    {st : Reading}, Interns es st.builder →
    Interns (es ++ statements.flatMap (statementEvents n))
      (statements.foldl (Syntax.readStatement n) st).builder
  | [], _, _, h => by simpa using h
  | raw :: rest, _, _, h => by
    rw [List.foldl_cons, List.flatMap_cons, ← List.append_assoc]
    exact foldl_readStatement n rest (h.readStatement n raw)

end Interns

theorem splitStatements_ne_nil : ∀ (cs : List Char) (q : Bool) (d : Nat) (current : List Char),
    splitStatements q d current cs ≠ []
  | [], _, _, _ => by simp [splitStatements]
  | c :: rest, q, d, current => by
    unfold splitStatements
    repeat' split
    all_goals first
      | exact splitStatements_ne_nil rest _ _ _
      | exact List.cons_ne_nil _ _

/-- Before the header, a line with statements is the header: its first statement names the
direction, the chart starts over, and its other statements are read. -/
theorem readLine_of_not_seenHeader {st : Reading} (h : st.seenHeader = false) (n : Nat)
    (text : String) :
    readLine st n text = match lineStatements text with
      | [] => st
      | header :: rest => rest.foldl (readStatement n)
        { st with
          builder := { chart := { direction := (headerDirection header).getD .topDown } }
          seenHeader := true } := by
  unfold readLine lineStatements
  dsimp only
  split
  · rfl
  · split
    · rfl
    · -- a line keeps at least one statement
      cases hsplit : statementsOf (withoutComment (Text.trim text)) with
      | nil =>
        simp only [statementsOf, List.map_eq_nil_iff] at hsplit
        exact absurd hsplit (splitStatements_ne_nil _ _ _ _)
      | cons header rest => simp [h]

theorem seenHeader_readLine_eq (st : Reading) (n : Nat) (text : String) :
    (readLine st n text).seenHeader = (st.seenHeader || !(lineStatements text).isEmpty) := by
  cases hs : st.seenHeader with
  | true => exact seenHeader_readLine hs n text
  | false =>
    rw [readLine_of_not_seenHeader hs]
    cases lineStatements text with
    | nil => simpa using hs
    | cons header rest => simp [seenHeader_foldl_readStatement]

namespace Interns

variable {es : List Event}

/-- Reading a line reads the events of its statements; the header's first statement has
none, and the chart starts over there from no events. -/
theorem readLine {st : Reading} (h : Interns es st.builder) (hseen : st.seenHeader = false → es = [])
    (n : Nat) (text : String) :
    Interns (es ++ (if st.seenHeader then lineStatements text
        else (lineStatements text).drop 1).flatMap (statementEvents n))
      (Syntax.readLine st n text).builder := by
  cases hs : st.seenHeader with
  | true =>
    rw [readLine_of_seenHeader hs]
    simpa using foldl_readStatement n _ h
  | false =>
    obtain rfl := hseen hs
    rw [readLine_of_not_seenHeader hs]
    cases lineStatements text with
    | nil => simpa using h
    | cons header rest =>
      simp only [Bool.false_eq_true, if_false, List.drop_one, List.tail_cons]
      exact foldl_readStatement n rest (start _)

/-- Reading lines reads the events of their statements after the header. -/
theorem readLines : ∀ (n : Nat) (lines : List String) {es : List Event} {st : Reading},
    Interns es st.builder → (st.seenHeader = false → es = []) →
    Interns (es ++ (bodyStatements st.seenHeader n lines).flatMap fun s => statementEvents s.1 s.2)
      (Syntax.readLines st n lines).builder
  | _, [], _, _, h, _ => by simpa [bodyStatements, Syntax.readLines] using h
  | n, l :: rest, es, st, h, hseen => by
    have h₁ := h.readLine hseen n l
    -- the header is still ahead only if neither this line nor an earlier one had statements
    have hseen₁ : (Syntax.readLine st n l).seenHeader = false →
        es ++ (if st.seenHeader then lineStatements l
          else (lineStatements l).drop 1).flatMap (statementEvents n) = [] := by
      rw [seenHeader_readLine_eq, Bool.or_eq_false_iff]
      rintro ⟨hs, hl⟩
      rw [hs, hseen hs]
      simp only [Bool.not_eq_false', List.isEmpty_iff] at hl
      simp [hl]
    have h₂ := readLines (n + 1) rest h₁ hseen₁
    rw [Syntax.readLines, bodyStatements, List.flatMap_append, ← List.append_assoc,
      ← seenHeader_readLine_eq]
    simpa [List.flatMap_map] using h₂

end Interns

/-- The chart a flowchart text is read into is the one its events give: its nodes are its
distinct ids in order of first mention, each with the first clean label and the first shape
other than a rectangle among its mentions and the classes attached to it once known; its edges
are those of its chains in order. The warnings hold those of the `class` directives that named
nodes not yet mentioned, in order. -/
theorem parseFlowchart_interns (input : String) :
    (parseFlowchart input).1.nodes = internedNodes (textEvents input) ∧
      (parseFlowchart input).1.edges = internedEdges (textEvents input) ∧
      (unknownClassWarnings (textEvents input)).Sublist (parseFlowchart input).2 := by
  have h₀ : Interns [] ({} : Reading).builder := Interns.start .topDown
  have h := Interns.readLines 1 (Text.lines input) h₀ fun _ => rfl
  rw [List.nil_append] at h
  obtain ⟨ends, hends, -⟩ := parseFlowchart_warnings input
  refine ⟨?_, ?_, ?_⟩
  · rw [parseFlowchart_chart]
    exact h.nodes
  · rw [parseFlowchart_chart]
    exact h.edges
  · rw [hends]
    exact h.warnings.trans (List.sublist_append_left _ _)

end Syntax

end FlowLayout
