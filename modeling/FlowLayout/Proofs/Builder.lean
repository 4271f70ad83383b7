import FlowLayout.Syntax.Document
import FlowLayout.Proofs.Grammar
/-!
# Reading keeps a chart consistent

A chart read from text has distinct, non-empty node ids without blanks, and every edge joins
two nodes by their ids (`Flowchart.Consistent`). The invariant depends only on the list of node
ids and on the edges, so every step that leaves both alone keeps it: warnings, styling side
tables, classes and label or shape updates of a known node. Interning adds an id only when no
node has it, and only a non-empty trimmed one; the grammar only hands it ids without blanks.
An edge is added only between two nodes found by index. The reset at the header starts from
an empty chart, which is consistent.
-/

namespace FlowLayout

/-- What reading a text keeps true of the chart: node ids are distinct, non-empty and without
blanks, and every edge joins two nodes by their ids. -/
structure Flowchart.Consistent (c : Flowchart) : Prop where
  nodup : (c.nodes.map (·.id)).Nodup
  nonempty : ∀ id ∈ c.nodes.map (·.id), id ≠ ""
  clean : ∀ id ∈ c.nodes.map (·.id), ∀ ch ∈ id.toList, Text.isBlank ch = false
  source : ∀ ed ∈ c.edges, ed.source ∈ c.nodes.map (·.id)
  target : ∀ ed ∈ c.edges, ed.target ∈ c.nodes.map (·.id)

namespace Flowchart.Consistent

theorem empty (d : Direction) : ({ direction := d } : Flowchart).Consistent where
  nodup := List.nodup_nil
  nonempty := by simp
  clean := by simp
  source := by simp
  target := by simp

/-- Only the node ids and the edges matter. -/
theorem of_ids {c c' : Flowchart} (h : c.Consistent)
    (hids : c'.nodes.map (·.id) = c.nodes.map (·.id)) (hedges : c'.edges = c.edges) :
    c'.Consistent where
  nodup := hids ▸ h.nodup
  nonempty := hids ▸ h.nonempty
  clean := hids ▸ h.clean
  source := hedges ▸ hids ▸ h.source
  target := hedges ▸ hids ▸ h.target

end Flowchart.Consistent

theorem map_id_modify (nodes : List Node) (i : Nat) (f : Node → Node)
    (hf : ∀ n, (f n).id = n.id) : (nodes.modify i f).map (·.id) = nodes.map (·.id) := by
  refine List.ext_getElem (by simp) fun j h₁ h₂ => ?_
  simp only [List.getElem_map, List.getElem_modify]
  split
  · exact hf _
  · rfl

/-- A fold of steps that each keep a property keeps it. -/
theorem foldl_invariant {β γ : Type} (P : β → Prop) (f : β → γ → β)
    (hf : ∀ b x, P b → P (f b x)) : ∀ (l : List γ) (b : β), P b → P (l.foldl f b)
  | [], _, hb => hb
  | x :: l, b, hb => foldl_invariant P f hf l (f b x) (hf b x hb)

namespace Syntax.Builder

variable {b : Builder}

theorem consistent_updateNode (h : b.chart.Consistent) (i : Nat) (f : Node → Node)
    (hf : ∀ n, (f n).id = n.id) : (b.updateNode i f).chart.Consistent :=
  h.of_ids (map_id_modify _ _ _ hf) rfl

theorem consistent_warn (h : b.chart.Consistent) (w : String) : (b.warn w).chart.Consistent := h

/-- Interning an id without blanks keeps the chart consistent. -/
theorem consistent_intern (h : b.chart.Consistent) {id : String} {label : Option String}
    {shape : NodeShape} (hid : ∀ ch ∈ id.toList, Text.isBlank ch = false) :
    (b.intern id label shape).2.chart.Consistent := by
  unfold intern
  dsimp only
  split
  · exact h
  · next hne =>
    split
    · exact consistent_updateNode h _ _ fun _ => rfl
    · next hnone =>
      -- a new node, with an id no node has
      have hfresh : Text.trim id ∉ b.chart.nodes.map (·.id) := by
        intro hmem
        obtain ⟨n, hn, hnid⟩ := List.mem_map.1 hmem
        have := List.findIdx?_eq_none_iff.1 hnone n hn
        simp [hnid] at this
      have hclean : ∀ ch ∈ (Text.trim id).toList, Text.isBlank ch = false := by
        intro ch hch
        rw [Text.trim, String.toList_ofList] at hch
        exact hid ch (Text.mem_of_mem_trimChars hch)
      refine ⟨?_, ?_, ?_, ?_, ?_⟩
      · rw [List.map_append, List.nodup_append]
        refine ⟨h.nodup, by simp, fun a ha x hx hax => hfresh ?_⟩
        rw [List.map_singleton, List.mem_singleton] at hx
        rw [hax, hx] at ha
        exact ha
      · intro x hx
        rw [List.map_append, List.mem_append] at hx
        rcases hx with hx | hx
        · exact h.nonempty x hx
        · rw [List.map_singleton, List.mem_singleton] at hx
          rw [hx]
          simpa using hne
      · intro x hx
        rw [List.map_append, List.mem_append] at hx
        rcases hx with hx | hx
        · exact h.clean x hx
        · rw [List.map_singleton, List.mem_singleton] at hx
          rw [hx]
          exact hclean
      · exact fun ed hed => List.map_append .. ▸ List.mem_append_left _ (h.source ed hed)
      · exact fun ed hed => List.map_append .. ▸ List.mem_append_left _ (h.target ed hed)

/-- An edge is added only between two nodes found by index. -/
theorem consistent_pushEdge (h : b.chart.Consistent) (source target : Nat) (style : EdgeStyle)
    (label color : Option String) : (b.pushEdge source target style label color).chart.Consistent := by
  unfold pushEdge
  split
  · next s t hs ht =>
    have hs' : s.id ∈ b.chart.nodes.map (·.id) := List.mem_map_of_mem (List.mem_of_getElem? hs)
    have ht' : t.id ∈ b.chart.nodes.map (·.id) := List.mem_map_of_mem (List.mem_of_getElem? ht)
    refine ⟨h.nodup, h.nonempty, h.clean, fun ed hed => ?_, fun ed hed => ?_⟩
    · rcases List.mem_append.1 hed with hed | hed
      · exact h.source ed hed
      · rw [List.mem_singleton.1 hed]; exact hs'
    · rcases List.mem_append.1 hed with hed | hed
      · exact h.target ed hed
      · rw [List.mem_singleton.1 hed]; exact ht'
  · exact h

theorem consistent_addClass (h : b.chart.Consistent) (id cls : String) :
    (b.addClass id cls).2.chart.Consistent := by
  unfold addClass
  split
  · exact h
  · refine consistent_updateNode h _ _ fun n => ?_
    split <;> rfl

theorem consistent_setNodeStyle (h : b.chart.Consistent) (id : String) (s : Style) :
    (b.setNodeStyle id s).chart.Consistent := h.of_ids rfl rfl

theorem consistent_setLinkStyle (h : b.chart.Consistent) (i : Nat) (s : Style) :
    (b.setLinkStyle i s).chart.Consistent := h.of_ids rfl rfl

theorem consistent_setDefaultLinkStyle (h : b.chart.Consistent) (s : Style) :
    (b.setDefaultLinkStyle s).chart.Consistent := h.of_ids rfl rfl

theorem consistent_defineClass (h : b.chart.Consistent) (name : String) (s : Style) :
    (b.defineClass name s).chart.Consistent := h.of_ids rfl rfl

end Syntax.Builder

namespace Syntax

open Builder

variable {b : Builder}

theorem consistent_internRef (h : b.chart.Consistent) {r : NodeRef} (hr : r.Clean) :
    (internRef b r).2.chart.Consistent := by
  have hint : (b.intern r.id r.label r.shape).2.chart.Consistent := consistent_intern h hr
  unfold internRef
  split
  · next b' heq => rw [heq] at hint; exact hint
  · next i b' heq =>
    rw [heq] at hint
    split
    · exact consistent_addClass hint _ _
    · exact hint

theorem consistent_lowerLinks (color : Option String) :
    ∀ (links : List (Link × NodeRef)) (previous : Nat) (b : Builder), b.chart.Consistent →
      (∀ x ∈ links, x.2.Clean) → (lowerLinks previous color links b).chart.Consistent
  | [], _, _, h, _ => h
  | (lk, target) :: rest, previous, b, h, hclean => by
    -- stated with the target itself, so that rewriting by the split needs no unfolding
    have hint : (internRef b target).2.chart.Consistent :=
      consistent_internRef h (hclean (lk, target) (List.mem_cons_self ..))
    unfold lowerLinks
    split
    · next b' heq => rw [heq] at hint; exact hint
    · next current b' heq =>
      rw [heq] at hint
      exact consistent_lowerLinks color rest _ _ (consistent_pushEdge hint _ _ _ _ _)
        fun x hx => hclean x (List.mem_cons_of_mem _ hx)

theorem consistent_lowerStatement (h : b.chart.Consistent) {st : Statement}
    (hst : ∀ r ∈ st.refs, r.Clean) : (lowerStatement b st).chart.Consistent := by
  cases st with
  | node n =>
    have hmem : n ∈ (Statement.node n).refs := List.mem_singleton_self n
    rw [lowerStatement]
    exact consistent_internRef h (hst n hmem)
  | chain head links color =>
    have hint := consistent_internRef h (hst head (List.mem_cons_self ..))
    rw [lowerStatement]
    split
    · next b' heq => rw [heq] at hint; exact hint
    · next i b' heq =>
      rw [heq] at hint
      exact consistent_lowerLinks color links i _ hint fun x hx =>
        hst x.2 (List.mem_cons_of_mem _ (List.mem_map_of_mem hx))

theorem consistent_applyDirective (h : b.chart.Consistent) (line : Nat) (d : Directive) :
    (applyDirective line b d).chart.Consistent := by
  cases d with
  | style node decls => exact consistent_setNodeStyle h _ _
  | linkStyle targets decls =>
    refine foldl_invariant (fun b : Builder => b.chart.Consistent) _ (fun b t hb => ?_) _ _ h
    split
    · exact consistent_setDefaultLinkStyle hb _
    · exact consistent_setLinkStyle hb _ _
    · exact consistent_warn hb _
  | classDef names decls =>
    exact foldl_invariant (fun b : Builder => b.chart.Consistent) _
      (fun b n hb => consistent_defineClass hb _ _) _ _ h
  | assignClass nodes name =>
    refine foldl_invariant (fun b : Builder => b.chart.Consistent) _ (fun b n hb => ?_) _ _ h
    have hadd := consistent_addClass hb n name
    split
    · next b' heq => rw [heq] at hadd; exact hadd
    · next b' heq => rw [heq] at hadd; exact consistent_warn hadd _
  | incomplete kind => exact consistent_warn h _

/-- A graph statement is a statement the grammar parsed. -/
theorem parse?_of_ofStatement {statement : String} {st : Statement}
    (h : Item.ofStatement statement = .graph st) : Statement.parse? statement = some st := by
  unfold Item.ofStatement at h
  split at h
  · cases h
  · split at h
    · cases h
    · split at h
      · cases h
      · split at h
        · cases h
        · split at h
          · next st' hst => cases h; exact hst
          · cases h

theorem consistent_readStatement (line : Nat) {st : Reading} (h : st.builder.chart.Consistent)
    (raw : String) : (readStatement line st raw).builder.chart.Consistent := by
  unfold readStatement
  dsimp only
  split
  · exact h
  · split
    · exact h
    · split
      · exact consistent_warn h _
      · exact h
    · exact h
    · exact consistent_applyDirective h _ _
    · next s hs => exact consistent_lowerStatement h (parse?_clean (parse?_of_ofStatement hs))
    · exact consistent_warn h _

theorem consistent_readLine {st : Reading} (h : st.builder.chart.Consistent) (line : Nat)
    (text : String) : (readLine st line text).builder.chart.Consistent := by
  unfold readLine
  dsimp only
  split
  · exact h
  · split
    · exact h
    · split
      · exact foldl_invariant (fun st : Reading => st.builder.chart.Consistent) _
          (fun st raw hst => consistent_readStatement line hst raw) _ _ h
      · -- the header line starts the reading over from an empty chart
        exact foldl_invariant (fun st : Reading => st.builder.chart.Consistent) _
          (fun st raw hst => consistent_readStatement line hst raw) _ _
          (Flowchart.Consistent.empty _)

theorem consistent_readLines :
    ∀ (st : Reading) (n : Nat) (lines : List String), st.builder.chart.Consistent →
      (readLines st n lines).builder.chart.Consistent
  | _, _, [], h => h
  | _, n, l :: rest, h => by
    rw [readLines]
    exact consistent_readLines _ _ rest (consistent_readLine h n l)

/-- A chart read from a flowchart text is consistent. -/
theorem consistent_parseFlowchart (input : String) : (parseFlowchart input).1.Consistent := by
  unfold parseFlowchart
  have h := consistent_readLines {} 1 (Text.lines input) (Flowchart.Consistent.empty _)
  dsimp only [Builder.finish]
  split
  · exact consistent_warn h _
  · exact h

end Syntax

end FlowLayout
