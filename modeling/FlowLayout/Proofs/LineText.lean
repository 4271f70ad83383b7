import Mathlib.Data.List.Infix
import FlowLayout.Proofs.StatementText
import FlowLayout.Proofs.Grammar
import FlowLayout.Proofs.Interning
/-!
# Lines as written

Before a statement is read, its line is freed of its `%%` comment and cut at `;`, by two
scanners that skip what stands inside double quotes, brackets, parentheses and braces
(`stripComment`, `splitStatements`). This module says which written lines the scanners leave as
written, and so what a whole line means.

* Both scanners move through a line by the same steps: an opening or closing bracket changes
  the depth (`depthStep`), and only a `;` or a `%%` at depth zero cuts. A stretch with no quote
  and no cut at depth zero (`Sheltered`) is taken along whole by both
  (`splitStatements_sheltered`, `stripComment_sheltered`); stretches that come back to depth
  zero (`Level`) join into one.
* Every delimiter pair but `> ]` is a bracket pair to the scanners (`delimiters_scan`), so a
  label inside one may hold `;` and `%%`. The opener `>` is none, so a `>t]` label is read at
  depth zero, where a `;` or a `%%` in it cuts the statement (`statementsOf_asymmetric_label_cut`).
  A written statement whose `>t]` labels hold no cut (`CutFree`), and whose `|text|` labels
  hold no cut, quote or bracket (`StatementText.Uncut`), is level (`StatementText.level`).
* A line as written (`LineText`) is blanks, statements each followed by `;` and blanks, a last
  statement, and perhaps a `%%` comment after blanks. Once the header has been read, such a
  line whose statements are read as documented (`StatementText.Readable`: the excluded inputs
  of the grammar avoided, no cut in a label read at depth zero, no keyword as the first id) is
  read as the meanings of its statements lowered one after another, and the chart takes in
  their events (`readLine_as_documented`).
-/

namespace FlowLayout.Syntax

open Text

/-- Facts about the characters of a literal are decided one listed character at a time, never
by running through every character there is. -/
local instance (priority := high) decidableForallMemOfList {β : Type} (p : β → Prop)
    [DecidablePred p] (l : List β) : Decidable (∀ x ∈ l, p x) :=
  List.decidableBAll p l

/-! ### The scanners' steps -/

/-- How a character moves the depth of the line scanners: brackets, parentheses and braces open
and close, and the depth never drops below zero. -/
def depthStep (d : Nat) (c : Char) : Nat :=
  if c == '[' || c == '(' || c == '{' then d + 1
  else if c == ']' || c == ')' || c == '}' then d - 1 else d

/-- The depth after a stretch of characters. -/
def depthAfter (d : Nat) (cs : List Char) : Nat := cs.foldl depthStep d

@[simp] theorem depthAfter_nil (d : Nat) : depthAfter d [] = d := rfl

@[simp] theorem depthAfter_cons (d : Nat) (c : Char) (cs : List Char) :
    depthAfter d (c :: cs) = depthAfter (depthStep d c) cs := rfl

@[simp] theorem depthAfter_append (d : Nat) (s t : List Char) :
    depthAfter d (s ++ t) = depthAfter (depthAfter d s) t := List.foldl_append

/-- A stretch read from depth `d` outside quotes that holds no quote, and at depth zero no `;`
and no `%` that is not followed, within the stretch, by another character than `%`. -/
def Sheltered : Nat → List Char → Prop
  | _, [] => True
  | d, c :: cs => c ≠ '"' ∧ (d = 0 → c ≠ ';' ∧ (c = '%' → cs ≠ [] ∧ cs.head? ≠ some '%')) ∧
      Sheltered (depthStep d c) cs

instance Sheltered.decidable : ∀ (d : Nat) (cs : List Char), Decidable (Sheltered d cs)
  | _, [] => isTrue trivial
  | d, c :: cs =>
    have := Sheltered.decidable (depthStep d c) cs
    inferInstanceAs (Decidable (c ≠ '"' ∧
      (d = 0 → c ≠ ';' ∧ (c = '%' → cs ≠ [] ∧ cs.head? ≠ some '%')) ∧ Sheltered (depthStep d c) cs))

theorem Sheltered.append : ∀ {d : Nat} {s t : List Char}, Sheltered d s →
    Sheltered (depthAfter d s) t → Sheltered d (s ++ t)
  | _, [], _, _, ht => ht
  | _, c :: s, _, ⟨hq, hcut, hs⟩, ht => by
    refine ⟨hq, fun hd => ⟨(hcut hd).1, fun hc => ?_⟩, hs.append ht⟩
    -- a `%` sheltered by the next character of `s` stays sheltered with more after it
    obtain ⟨hne, hnext⟩ := (hcut hd).2 hc
    exact ⟨by simp [hne], by rwa [List.append_eq, List.head?_append_of_ne_nil _ hne]⟩

/-- A stretch that both scanners take along whole from depth zero, and that ends there. -/
structure Level (cs : List Char) : Prop where
  sheltered : Sheltered 0 cs
  depth : depthAfter 0 cs = 0

theorem Level.append {s t : List Char} (hs : Level s) (ht : Level t) : Level (s ++ t) where
  sheltered := hs.sheltered.append (by rw [hs.depth]; exact ht.sheltered)
  depth := by rw [depthAfter_append, hs.depth, ht.depth]

theorem Level.nil : Level [] := ⟨trivial, rfl⟩

/-- One step of the splitter, where the character neither is a quote nor cuts. -/
theorem splitStatements_step {d : Nat} {c : Char} (hq : c ≠ '"') (hcut : d = 0 → c ≠ ';')
    (current s : List Char) :
    splitStatements false d current (c :: s) =
      splitStatements false (depthStep d c) (c :: current) s := by
  have hq' : (c == '"') = false := beq_eq_false_iff_ne.2 hq
  rw [splitStatements.eq_2, depthStep]
  simp only [Bool.false_eq_true, if_false, hq']
  split
  · rfl
  · split
    · rfl
    · rw [if_neg]
      simp only [Bool.and_eq_true, beq_iff_eq]
      rintro ⟨hc, hd⟩
      exact hcut hd hc

/-- One step of the comment stripper, where the character neither is a quote nor starts a
`%%` at depth zero. -/
theorem stripComment_step {d : Nat} {c : Char} (hq : c ≠ '"') {s : List Char}
    (hcut : d = 0 → c = '%' → s.head? ≠ some '%') (before : List Char) :
    stripComment false d before (c :: s) = stripComment false (depthStep d c) (c :: before) s := by
  have hq' : (c == '"') = false := beq_eq_false_iff_ne.2 hq
  rw [stripComment.eq_2, depthStep]
  simp only [Bool.false_eq_true, if_false, hq']
  split
  · rfl
  · split
    · rfl
    · rw [if_neg]
      simp only [Bool.and_eq_true, beq_iff_eq]
      rintro ⟨⟨hc, hd⟩, hs⟩
      exact hcut hd hc hs

theorem splitStatements_semicolon (current s : List Char) :
    splitStatements false 0 current (';' :: s) = current.reverse :: splitStatements false 0 [] s := by
  rw [splitStatements.eq_2]
  rfl

theorem stripComment_mark (before s : List Char) :
    stripComment false 0 before ('%' :: '%' :: s) = dropBlankEnd before.reverse := by
  rw [stripComment.eq_2]
  rfl

/-- The splitter takes a sheltered stretch along whole. -/
theorem splitStatements_sheltered : ∀ {d : Nat} {cs : List Char}, Sheltered d cs →
    ∀ current rest, splitStatements false d current (cs ++ rest) =
      splitStatements false (depthAfter d cs) (cs.reverse ++ current) rest
  | _, [], _, _, _ => rfl
  | _, c :: cs, ⟨hq, hcut, h⟩, current, rest => by
    rw [List.cons_append, splitStatements_step hq (fun hd => (hcut hd).1),
      splitStatements_sheltered h]
    simp

/-- The comment stripper takes a sheltered stretch along whole. -/
theorem stripComment_sheltered : ∀ {d : Nat} {cs : List Char}, Sheltered d cs →
    ∀ before rest, stripComment false d before (cs ++ rest) =
      stripComment false (depthAfter d cs) (cs.reverse ++ before) rest
  | _, [], _, _, _ => rfl
  | d, c :: cs, ⟨hq, hcut, h⟩, before, rest => by
    have hnext : d = 0 → c = '%' → (cs ++ rest).head? ≠ some '%' := fun hd hc => by
      obtain ⟨hne, hhead⟩ := (hcut hd).2 hc
      rwa [List.head?_append_of_ne_nil _ hne]
    rw [List.cons_append, stripComment_step hq hnext, stripComment_sheltered h]
    simp

/-! ### Characters the scanners pass by -/

/-- The characters the line scanners look at: the quote, the cuts and the brackets. -/
def scanMarks : List Char := ['"', ';', '%', '(', ')', '[', ']', '{', '}']

/-- A character other than a bracket, parenthesis or brace moves no depth. -/
theorem depthStep_of_not_bracket {c : Char} (h : c ∉ ['(', ')', '[', ']', '{', '}']) (d : Nat) :
    depthStep d c = d := by
  simp only [List.mem_cons, List.not_mem_nil, or_false, not_or] at h
  obtain ⟨h₁, h₂, h₃, h₄, h₅, h₆⟩ := h
  simp [depthStep, h₁, h₂, h₃, h₄, h₅, h₆]

theorem brackets_scanned : ∀ x ∈ ['(', ')', '[', ']', '{', '}'], x ∈ scanMarks := by
  decide

theorem depthStep_of_not_mem {c : Char} (h : c ∉ scanMarks) (d : Nat) : depthStep d c = d :=
  depthStep_of_not_bracket (fun hb => h (brackets_scanned c hb)) d

/-- A stretch of characters the scanners do not look at is sheltered at every depth and keeps
it. -/
theorem sheltered_of_calm : ∀ {cs : List Char}, (∀ c ∈ cs, c ∉ scanMarks) → ∀ d,
    Sheltered d cs ∧ depthAfter d cs = d
  | [], _, _ => ⟨trivial, rfl⟩
  | c :: cs, h, d => by
    have hc := h c List.mem_cons_self
    have hq : c ≠ '"' := fun e => hc (e ▸ by decide)
    have hs : c ≠ ';' := fun e => hc (e ▸ by decide)
    have hp : c ≠ '%' := fun e => hc (e ▸ by decide)
    have ih := sheltered_of_calm (fun x hx => h x (List.mem_cons_of_mem _ hx)) d
    rw [depthAfter_cons, depthStep_of_not_mem hc]
    exact ⟨⟨hq, fun _ => ⟨hs, fun e => absurd e hp⟩, by rw [depthStep_of_not_mem hc]; exact ih.1⟩,
      ih.2⟩

theorem Level.of_calm {cs : List Char} (h : ∀ c ∈ cs, c ∉ scanMarks) : Level cs :=
  ⟨(sheltered_of_calm h 0).1, (sheltered_of_calm h 0).2⟩

/-- No character the scanners look at is a word or class character, a blank, or a character of
an arrow, a class suffix or a pipe. -/
theorem scanMarks_apart : ∀ c ∈ scanMarks, isClassChar c = false ∧ isWordChar c = false ∧
    isInlineBlank c = false ∧ c ∉ ['-', '.', '=', '>', ':', '|'] := by
  decide +kernel

theorem not_mem_scanMarks_of_class {c : Char} (h : isClassChar c = true) : c ∉ scanMarks :=
  fun hc => absurd h (by rw [(scanMarks_apart c hc).1]; decide)

theorem not_mem_scanMarks_of_word {c : Char} (h : isWordChar c = true) : c ∉ scanMarks :=
  fun hc => absurd h (by rw [(scanMarks_apart c hc).2.1]; decide)

theorem not_mem_scanMarks_of_blank {c : Char} (h : isInlineBlank c = true) : c ∉ scanMarks :=
  fun hc => absurd h (by rw [(scanMarks_apart c hc).2.2.1]; decide)

theorem not_mem_scanMarks_of_mark {c : Char} (h : c ∈ ['-', '.', '=', '>', ':', '|']) :
    c ∉ scanMarks :=
  fun hc => (scanMarks_apart c hc).2.2.2 h

theorem Blanks.level {b : List Char} (hb : Blanks b) : Level b :=
  .of_calm fun c hc => not_mem_scanMarks_of_blank (hb c hc)

/-- An id is made of word characters and the joiners between its words. -/
theorem IdText.idChar (i : IdText) : ∀ c ∈ i.text, IdChar c := by
  intro c hc
  simp only [IdText.text, List.mem_append, List.mem_flatMap, List.mem_cons] at hc
  rcases hc with hc | ⟨p, hp, hc | hc⟩
  · exact .inl (i.first_word.2 c hc)
  · exact .inr (hc ▸ (i.joined_words p hp).1)
  · exact .inl ((i.joined_words p hp).2.2 c hc)

theorem IdText.level (i : IdText) : Level i.text := by
  refine .of_calm fun c hc => ?_
  rcases i.idChar c hc with h | rfl | rfl
  · exact not_mem_scanMarks_of_word h
  · decide
  · decide

theorem classText_level {cls : Option (List Char)} (hname : ∀ n ∈ cls, ClassName n) :
    Level (classText cls) := by
  cases cls with
  | none => exact .nil
  | some n =>
    refine .of_calm fun c hc => ?_
    simp only [classText, List.mem_cons] at hc
    rcases hc with rfl | rfl | rfl | hc
    · decide
    · decide
    · decide
    · exact not_mem_scanMarks_of_class ((hname n rfl).2 c hc)

theorem LinkWords.calm {q : List Char} (hq : LinkWords q) : ∀ c ∈ q, c ∉ scanMarks := by
  intro c hc
  rcases hq.1 c hc with rfl | h
  · decide
  · exact not_mem_scanMarks_of_word (by simp [isWordChar, h])

/-- A link is made of arrow characters and its words. -/
theorem LinkText.level (l : LinkText) : Level l.text := by
  refine .of_calm fun c hc hm => ?_
  have harrow := (scanMarks_apart c hm).2.2.2
  simp only [List.mem_cons, List.not_mem_nil, or_false, not_or] at harrow
  cases l with
  | solid n | thick n | dotted n =>
    simp only [LinkText.text, List.mem_cons, List.mem_append, List.mem_replicate] at hc
    grind
  | solidLabeled q hq n | thickLabeled q hq n | dottedLabeled q hq n =>
    have hq' : c ∉ q := fun h => hq.calm c h hm
    simp only [LinkText.text, List.mem_cons, List.mem_append, List.mem_replicate] at hc
    grind

/-! ### Labels and delimiter pairs -/

/-- To the scanners every delimiter pair but `> ]` is a bracket pair: its opener leaves depth
zero and its closer comes back there. No closer starts with `%`. -/
theorem delimiters_scan : ∀ k : Fin delimiters.length,
    Sheltered 0 (delimiters.get k).1.toList ∧
    Sheltered (depthAfter 0 (delimiters.get k).1.toList) (delimiters.get k).2.1.toList ∧
    depthAfter (depthAfter 0 (delimiters.get k).1.toList) (delimiters.get k).2.1.toList = 0 ∧
    (delimiters.get k).2.1.toList.head? ≠ some '%' ∧
    (depthAfter 0 (delimiters.get k).1.toList = 0 → (delimiters.get k).1 = ">") := by
  decide +kernel

/-- Each closer is a non-empty run of characters that are not blank. -/
theorem delimiters_closers_solid : ∀ k : Fin delimiters.length,
    (delimiters.get k).2.1.toList ≠ [] ∧ ∀ y ∈ (delimiters.get k).2.1.toList, isBlank y = false := by
  decide +kernel

/-- The characters that change the scanners' state at every depth: the quote and the
brackets. -/
def stateMarks : List Char := ['"', '(', ')', '[', ']', '{', '}']

/-- Text with no `;` and no `%%`: at depth zero neither scanner cuts in it. -/
def CutFree (t : List Char) : Prop := ';' ∉ t ∧ ¬ ['%', '%'] <:+: t

theorem CutFree.of_cons {x : Char} {t : List Char} (h : CutFree (x :: t)) : CutFree t :=
  ⟨fun hs => h.1 (List.mem_cons_of_mem _ hs), fun hi => h.2 (hi.trans (List.suffix_cons x t).isInfix)⟩

theorem stateMarks_stop_labels : ∀ x ∈ stateMarks, x ∈ labelStops := by
  decide

/-- A label followed by its closer: read at depth `e`, it holds no quote and no bracket, and at
depth zero no cut; so it is sheltered and moves no depth. -/
theorem sheltered_label {e : Nat} {close : List Char} (hclose : Sheltered e close)
    (hne : close ≠ []) (hpct : close.head? ≠ some '%') :
    ∀ {t : List Char}, (∀ c ∈ t, c ∉ stateMarks) → (e = 0 → CutFree t) →
      Sheltered e (t ++ close) ∧ depthAfter e (t ++ close) = depthAfter e close
  | [], _, _ => ⟨hclose, rfl⟩
  | x :: t, ht, hcut => by
    have hx : x ∉ stateMarks := ht x List.mem_cons_self
    have hq : x ≠ '"' := fun h => hx (h ▸ List.mem_cons_self)
    have hstep : depthStep e x = e := depthStep_of_not_bracket (fun h => hx (List.mem_cons_of_mem _ h)) e
    have ih := sheltered_label hclose hne hpct (fun y hy => ht y (List.mem_cons_of_mem _ hy))
      fun he => (hcut he).of_cons
    refine ⟨⟨hq, fun he => ⟨fun h => (hcut he).1 (h ▸ List.mem_cons_self), fun hx => ?_⟩,
      by rw [hstep]; exact ih.1⟩, by rw [List.cons_append, depthAfter_cons, hstep]; exact ih.2⟩
    -- a `%` of the label is followed by a character of the label other than `%`, or by the closer
    refine ⟨by simp [hne], ?_⟩
    cases t with
    | nil => simpa using hpct
    | cons y t =>
      intro h
      simp only [List.append_eq, List.cons_append, List.head?_cons, Option.some.injEq] at h
      subst hx h
      exact (hcut he).2 (List.prefix_append ['%', '%'] t).isInfix

/-- The labels of a node reference that the scanners read at depth zero, those after `>`, hold
no `;` and no `%%`. -/
def RefText.Uncut (r : RefText) : Prop :=
  ∀ p ∈ r.shape, (delimiters.get p.1).1 = ">" → CutFree p.2

theorem shapeText_level {shape : Option (Fin delimiters.length × List Char)}
    (hlabel : ∀ p ∈ shape, LabelText p.2)
    (huncut : ∀ p ∈ shape, (delimiters.get p.1).1 = ">" → CutFree p.2) :
    Level (shapeText shape) := by
  cases shape with
  | none => exact .nil
  | some p =>
    obtain ⟨k, t⟩ := p
    obtain ⟨hopen, hclose, hdepth, hpct, hangle⟩ := delimiters_scan k
    -- the label is read at the depth the opener leaves, zero only after `>`
    have hlab := sheltered_label hclose (delimiters_closers_solid k).1 hpct
      (fun c hc hm => hlabel _ rfl c hc (stateMarks_stop_labels c hm)) fun he => huncut _ rfl (hangle he)
    refine ⟨?_, ?_⟩
    · rw [shapeText, List.append_assoc]
      exact hopen.append hlab.1
    · rw [shapeText, List.append_assoc, depthAfter_append, hlab.2, hdepth]

theorem RefText.level (r : RefText) (h : r.Uncut) : Level r.text :=
  (r.id.level.append (shapeText_level r.shape_label h)).append (classText_level r.cls_name)

/-! ### Statements the scanners take whole -/

/-- A segment whose node is uncut and whose `|text|`, read at depth zero, holds no quote, no
bracket and no cut. -/
def SegmentText.Uncut (sg : SegmentText) : Prop :=
  sg.target.Uncut ∧ ∀ p ∈ sg.pipe, (∀ c ∈ p, c ∉ stateMarks) ∧ CutFree p

theorem pipeText_level {pipe : Option (List Char)}
    (h : ∀ p ∈ pipe, (∀ c ∈ p, c ∉ stateMarks) ∧ CutFree p) : Level (pipeText pipe) := by
  cases pipe with
  | none => exact .nil
  | some p =>
    have hbar : Level ['|'] := .of_calm fun c hc => by
      rw [List.mem_singleton.1 hc]
      decide
    -- the text is a label closed by the second bar, which no scanner stops at
    have hlab := sheltered_label hbar.sheltered (List.cons_ne_nil _ _) (by decide) (h p rfl).1
      fun _ => (h p rfl).2
    exact hbar.append ⟨hlab.1, hlab.2.trans hbar.depth⟩

theorem SegmentText.level (sg : SegmentText) (h : sg.Uncut) : Level sg.text :=
  ((((sg.lead_blanks.level.append sg.link.level).append sg.mid_blanks.level).append
    (pipeText_level h.2)).append sg.gap_blanks.level).append (sg.target.level h.1)

theorem segments_level : ∀ segs : List SegmentText, (∀ sg ∈ segs, sg.Uncut) →
    Level (segs.flatMap SegmentText.text)
  | [], _ => .nil
  | sg :: more, h => by
    rw [List.flatMap_cons]
    exact (sg.level (h sg List.mem_cons_self)).append
      (segments_level more fun x hx => h x (List.mem_cons_of_mem _ hx))

theorem tailText_level {tail : Option (List Char × List Char)}
    (htail : ∀ p ∈ tail, p.1 ≠ [] ∧ Blanks p.1 ∧ ClassName p.2) : Level (tailText tail) := by
  cases tail with
  | none => exact .nil
  | some p =>
    obtain ⟨b, n⟩ := p
    obtain ⟨-, hb, hn⟩ := htail _ rfl
    have hclass : Level (classText (some n)) := classText_level fun _ h => Option.some.inj h ▸ hn
    exact hb.level.append hclass

/-- A statement whose labels read at depth zero hold no cut: those after `>` in its node
references, and its `|text|` labels. -/
def StatementText.Uncut : StatementText → Prop
  | .node r _ _ => r.Uncut
  | .chain head first more _ _ _ _ => head.Uncut ∧ ∀ sg ∈ first :: more, sg.Uncut

/-- Both scanners take a statement with no cut in its labels along whole. -/
theorem StatementText.level (s : StatementText) (h : s.Uncut) : Level s.text := by
  cases s with
  | node r trail htrail => exact (r.level h).append htrail.level
  | chain head first more tail trail htail htrail =>
    exact (((head.level h.1).append (segments_level _ h.2)).append (tailText_level htail)).append
      htrail.level

/-- A `;` in a `>t]` label cuts its statement: to the splitter the opener `>` is no bracket. -/
theorem statementsOf_asymmetric_label_cut : statementsOf "A>x;y]" = ["A>x", "y]"] := by
  decide

/-! ### The ends of a statement -/

/-- The node reference a statement starts with. -/
def StatementText.head : StatementText → RefText
  | .node r _ _ => r
  | .chain head _ _ _ _ _ _ => head

/-- The blanks that end a statement. -/
def StatementText.trail : StatementText → List Char
  | .node _ trail _ => trail
  | .chain _ _ _ _ trail _ _ => trail

/-- A statement without the blanks that end it. -/
def StatementText.bare : StatementText → StatementText
  | .node r _ _ => .node r [] fun _ h => absurd h List.not_mem_nil
  | .chain head first more tail _ htail _ =>
    .chain head first more tail [] htail fun _ h => absurd h List.not_mem_nil

theorem StatementText.text_bare (s : StatementText) : s.text = s.bare.text ++ s.trail := by
  cases s <;> simp [StatementText.text, StatementText.bare, StatementText.trail]

theorem StatementText.trail_blanks (s : StatementText) : Blanks s.trail := by
  cases s with
  | node r trail htrail => exact htrail
  | chain head first more tail trail htail htrail => exact htrail

@[simp] theorem StatementText.meaning_bare (s : StatementText) : s.bare.meaning = s.meaning := by
  cases s <;> rfl

@[simp] theorem StatementText.head_bare (s : StatementText) : s.bare.head = s.head := by
  cases s <;> rfl

theorem StatementText.Uncut.bare {s : StatementText} (h : s.Uncut) : s.bare.Uncut := by
  cases s <;> exact h

theorem TrapezoidsClear.of_prefix {rest rest' : List Char} (hp : rest' <+: rest) :
    ∀ {r : RefText} {segs : List SegmentText}, TrapezoidsClear r segs rest →
      TrapezoidsClear r segs rest'
  | _, [], h => fun ht hi => h ht (hi.trans hp.isInfix)
  | _, _ :: _, h =>
    ⟨fun ht hi => h.1 ht (hi.trans ((List.prefix_append_right_inj _).2 hp).isInfix),
      of_prefix hp h.2⟩

theorem StatementText.Clear.bare {s : StatementText} (h : s.Clear) : s.bare.Clear := by
  cases s with
  | node r trail htrail => exact TrapezoidsClear.of_prefix (List.nil_prefix) h
  | chain head first more tail trail htail htrail =>
    exact ⟨TrapezoidsClear.of_prefix ((List.prefix_append_right_inj _).2 List.nil_prefix) h.1,
      h.2⟩

/-- A list whose last character is not blank. -/
def EndsSolid (cs : List Char) : Prop := ∃ y, cs.getLast? = some y ∧ isBlank y = false

theorem EndsSolid.append_left {t : List Char} (h : EndsSolid t) (s : List Char) :
    EndsSolid (s ++ t) := by
  obtain ⟨y, hy, hb⟩ := h
  exact ⟨y, by rw [List.getLast?_append, hy]; rfl, hb⟩

theorem endsSolid_of_forall {cs : List Char} (hne : cs ≠ []) (h : ∀ c ∈ cs, isBlank c = false) :
    EndsSolid cs :=
  ⟨cs.getLast hne, List.getLast?_eq_some_getLast hne, h _ (List.getLast_mem hne)⟩

theorem EndsSolid.dropWhile_reverse {cs : List Char} (h : EndsSolid cs) :
    cs.reverse.dropWhile isBlank = cs.reverse := by
  obtain ⟨y, hy, hyb⟩ := h
  rw [← List.head?_reverse] at hy
  cases hr : cs.reverse with
  | nil => simp [hr] at hy
  | cons z r =>
    rw [hr, List.head?_cons, Option.some.injEq] at hy
    subst hy
    exact List.dropWhile_cons_of_neg (by rw [hyb]; exact Bool.false_ne_true)

/-- Blanks after a list that ends in a character that is not blank are all that trimming its
end removes. -/
theorem dropBlankEnd_append_blanks {cs b : List Char} (h : EndsSolid cs)
    (hb : ∀ c ∈ b, isBlank c = true) : dropBlankEnd (cs ++ b) = cs := by
  rw [dropBlankEnd, List.reverse_append,
    List.dropWhile_append_of_pos fun c hc => hb c (List.mem_reverse.1 hc), h.dropWhile_reverse,
    List.reverse_reverse]

/-- Trimming the end of a list that goes on after a character that is not blank stops after that
character. -/
theorem dropBlankEnd_append_of_solid {xs : List Char} (h : EndsSolid xs) (ys : List Char) :
    ∃ zs, dropBlankEnd (xs ++ ys) = xs ++ zs := by
  rw [dropBlankEnd, List.reverse_append, List.dropWhile_append]
  split
  · exact ⟨[], by rw [h.dropWhile_reverse, List.reverse_reverse, List.append_nil]⟩
  · exact ⟨(ys.reverse.dropWhile isBlank).reverse, by rw [List.reverse_append, List.reverse_reverse]⟩

theorem inlineBlank_isBlank {c : Char} (h : isInlineBlank c = true) : isBlank c = true := by
  have hc : c = ' ' ∨ c = '\t' := by simpa [isInlineBlank] using h
  rcases hc with rfl | rfl <;> decide

theorem classChar_not_blank {c : Char} (h : isClassChar c = true) : isBlank c = false := by
  simp only [isClassChar, Bool.or_eq_true, beq_iff_eq] at h
  rcases h with ((h | rfl) | rfl) | rfl
  · exact isAlphanumeric_not_blank h
  all_goals decide

theorem classText_solid {n : List Char} (hn : ClassName n) : EndsSolid (classText (some n)) := by
  refine endsSolid_of_forall (List.cons_ne_nil _ _) fun c hc => ?_
  simp only [classText, List.mem_cons] at hc
  rcases hc with rfl | rfl | rfl | hc
  · decide
  · decide
  · decide
  · exact classChar_not_blank (hn.2 c hc)

/-- A node reference ends in its class, its closer, or its id. -/
theorem RefText.text_solid (r : RefText) : EndsSolid r.text := by
  cases hcls : r.cls with
  | some n =>
    rw [RefText.text, hcls]
    exact (classText_solid (r.cls_name n hcls)).append_left _
  | none =>
    rw [RefText.text, hcls, show classText none = [] from rfl, List.append_nil]
    cases hshape : r.shape with
    | some p =>
      obtain ⟨k, t⟩ := p
      obtain ⟨hne, hsolid⟩ := delimiters_closers_solid k
      rw [shapeText, ← List.append_assoc]
      exact (endsSolid_of_forall hne hsolid).append_left _
    | none =>
      rw [show shapeText none = [] from rfl, List.append_nil]
      exact endsSolid_of_forall (List.append_ne_nil_of_left_ne_nil r.id.first_word.1 _)
        fun c hc => idChar_not_blank (r.id.idChar c hc)

theorem segments_solid : ∀ segs : List SegmentText, segs ≠ [] →
    EndsSolid (segs.flatMap SegmentText.text)
  | [], h => absurd rfl h
  | [sg], _ => by
    rw [List.flatMap_singleton]
    exact sg.target.text_solid.append_left _
  | sg :: sg' :: more, _ => by
    rw [List.flatMap_cons]
    exact (segments_solid (sg' :: more) (List.cons_ne_nil _ _)).append_left _

/-- A statement without its trailing blanks ends in a character that is not blank. -/
theorem StatementText.bare_solid (s : StatementText) : EndsSolid s.bare.text := by
  cases s with
  | node r trail htrail =>
    simpa [StatementText.bare, StatementText.text] using r.text_solid
  | chain head first more tail trail htail htrail =>
    simp only [StatementText.bare, StatementText.text, List.append_nil]
    cases tail with
    | none =>
      rw [show tailText none = [] from rfl, List.append_nil]
      exact (segments_solid _ (List.cons_ne_nil _ _)).append_left _
    | some p =>
      obtain ⟨b, n⟩ := p
      rw [show tailText (some (b, n)) = b ++ classText (some n) from rfl, ← List.append_assoc]
      exact (classText_solid (htail _ rfl).2.2).append_left _

/-- A statement without its trailing blanks is its first id and what stops that id. -/
theorem StatementText.bare_text_id (s : StatementText) :
    ∃ x, s.bare.text = s.head.id.text ++ x ∧ IdStop x := by
  cases s with
  | node r trail htrail =>
    refine ⟨shapeText r.shape ++ (classText r.cls ++ []), ?_, idStop_after_id _ _ (.inl rfl)⟩
    simp [StatementText.bare, StatementText.text, StatementText.head, RefText.text]
  | chain head first more tail trail htail htrail =>
    refine ⟨shapeText head.shape ++ (classText head.cls ++
      (first.text ++ (more.flatMap SegmentText.text ++ (tailText tail ++ [])))), ?_,
      idStop_after_id _ _ (first.follow _)⟩
    simp [StatementText.bare, StatementText.text, StatementText.head, RefText.text]

/-- A statement starts with the first character of its first id, a word character. -/
theorem StatementText.bare_text_cons (s : StatementText) :
    ∃ c r, s.bare.text = c :: r ∧ isWordChar c = true := by
  obtain ⟨x, hx, -⟩ := s.bare_text_id
  obtain ⟨hne, hw⟩ := s.head.id.first_word
  obtain ⟨c, w, hfirst⟩ := List.exists_cons_of_ne_nil hne
  refine ⟨c, w ++ (s.head.id.joined.flatMap (fun p => p.1 :: p.2) ++ x), ?_,
    hw c (hfirst ▸ List.mem_cons_self)⟩
  rw [hx, IdText.text, hfirst]
  simp

/-- Trimming a statement after blanks leaves it without the blanks at either end. -/
theorem StatementText.trimChars_text {b : List Char} (hb : Blanks b) (s : StatementText) :
    trimChars (b ++ s.text) = s.bare.text := by
  obtain ⟨c, r, hcr, hc⟩ := s.bare_text_cons
  have hcb : isBlank c = false := idChar_not_blank (.inl hc)
  rw [trimChars, List.dropWhile_append_of_pos fun x hx => inlineBlank_isBlank (hb x hx),
    s.text_bare, hcr, List.cons_append,
    List.dropWhile_cons_of_neg (by rw [hcb]; exact Bool.false_ne_true), ← List.cons_append, ← hcr,
    dropBlankEnd_append_blanks s.bare_solid fun x hx => inlineBlank_isBlank (s.trail_blanks x hx)]

@[simp] theorem StatementText.bare_bare (s : StatementText) : s.bare.bare = s.bare := by
  cases s <;> rfl

/-! ### Keywords -/

/-- The words that start a statement other than a graph statement. -/
def statementKeywords : List String :=
  ["subgraph", "end", "direction", "style", "linkStyle", "classDef", "class"]

theorem statementKeywords_words :
    ∀ kw ∈ statementKeywords, ∀ c ∈ kw.toList, isWordChar c = true := by
  decide +kernel

/-- A word at the start of an id and what stops the id lies within the id. -/
theorem prefix_id_of_words {kw x : List Char} (hkw : ∀ c ∈ kw, isWordChar c = true) (i : IdText)
    (hx : IdStop x) (h : kw <+: i.text ++ x) : kw <+: i.text := by
  rcases List.prefix_or_prefix_of_prefix h (List.prefix_append _ _) with h' | ⟨u, hu⟩
  · exact h'
  · -- the word would go on past the id, into what stops it
    cases u with
    | nil => rw [← hu, List.append_nil]
    | cons y u =>
      rw [← hu, List.prefix_append_right_inj] at h
      obtain ⟨v, hv⟩ := h
      rw [← hv] at hx
      exact absurd (hkw y (by rw [← hu]; simp)) (by rw [hx.1]; decide)

/-- A keyword is not read at the start of a statement that starts with another id. -/
theorem afterKeyword_id {kw : String} (hkw : ∀ c ∈ kw.toList, isWordChar c = true) (i : IdText)
    {x : List Char} (hx : IdStop x) (hne : i.text ≠ kw.toList) :
    afterKeyword (String.ofList (i.text ++ x)) kw = none := by
  unfold afterKeyword
  rw [String.toList_ofList]
  split
  · next hpre =>
    obtain ⟨u, hu⟩ := prefix_id_of_words hkw i hx (List.isPrefixOf_iff_prefix.1 hpre)
    -- after the keyword the id goes on, with a character that is not blank
    cases u with
    | nil => exact absurd (by rw [← hu, List.append_nil]) hne
    | cons y u =>
      have hy : IdChar y := i.idChar y (by rw [← hu]; simp)
      rw [← hu, List.append_assoc, ← String.length_toList, List.drop_left]
      simp [idChar_not_blank hy]
  · rfl

/-- A statement that starts with an id other than a keyword is read as a graph statement when it
parses. -/
theorem ofStatement_graph {i : IdText} {x : List Char} (hx : IdStop x)
    (hkw : String.ofList i.text ∉ statementKeywords) {st : Statement}
    (hparse : Statement.parse? (String.ofList (i.text ++ x)) = some st) :
    Item.ofStatement (String.ofList (i.text ++ x)) = .graph st := by
  have hnone : ∀ kw ∈ statementKeywords, afterKeyword (String.ofList (i.text ++ x)) kw = none :=
    fun kw hmem => afterKeyword_id (statementKeywords_words kw hmem) i hx fun h =>
      hkw (by rw [h, String.ofList_toList]; exact hmem)
  have hend : (String.ofList (i.text ++ x) == "end") = false := by
    rw [beq_eq_false_iff_ne]
    intro h
    have htext : i.text ++ x = "end".toList := by rw [← h, String.toList_ofList]
    -- the statement would be the keyword, and the id all of it
    have hpre := prefix_id_of_words (statementKeywords_words "end" (by decide)) i hx
      (htext ▸ List.prefix_refl _)
    have hid : i.text <+: "end".toList := htext ▸ List.prefix_append _ _
    exact hkw (by
      rw [hid.eq_of_length (le_antisymm hid.length_le hpre.length_le), String.ofList_toList]
      decide)
  unfold Item.ofStatement Directive.ofStatement?
  rw [hnone "subgraph" (by decide), hend, hnone "direction" (by decide), hnone "style" (by decide),
    hnone "linkStyle" (by decide), hnone "classDef" (by decide), hnone "class" (by decide), hparse]
  rfl

/-! ### Statements read as documented -/

/-- A statement read as documented: it avoids the excluded inputs of the grammar, holds no cut
in a label read at depth zero, and does not start with a keyword. -/
structure StatementText.Readable (s : StatementText) : Prop where
  clear : s.Clear
  uncut : s.Uncut
  not_keyword : String.ofList s.head.id.text ∉ statementKeywords

theorem StatementText.Readable.ofStatement {s : StatementText} (h : s.Readable) :
    Item.ofStatement (String.ofList s.bare.text) = .graph s.meaning := by
  obtain ⟨x, hx, hstop⟩ := s.bare_text_id
  have hparse := Statement.parse?_text s.bare h.clear.bare
  rw [s.meaning_bare, hx] at hparse
  rw [hx, ofStatement_graph hstop h.not_keyword hparse]

/-- Reading a statement depends on its text trimmed only. -/
theorem readStatement_trim (n : Nat) (st : Reading) (raw : String) :
    readStatement n st (trim raw) = readStatement n st raw := by
  unfold readStatement
  rw [trim_trim]

theorem statementEvents_trim (n : Nat) (raw : String) :
    statementEvents n (trim raw) = statementEvents n raw := by
  unfold statementEvents
  rw [trim_trim]

theorem isEmpty_ofList_eq_false {cs : List Char} (h : cs ≠ []) :
    (String.ofList cs).isEmpty = false := by
  rw [String.isEmpty_eq_false_iff, ne_eq, ← String.toList_inj, String.toList_ofList]
  simpa using h

theorem StatementText.bare_ne_empty (s : StatementText) :
    (String.ofList s.bare.text).isEmpty = false := by
  obtain ⟨c, r, hcr, -⟩ := s.bare_text_cons
  exact isEmpty_ofList_eq_false (by rw [hcr]; exact List.cons_ne_nil _ _)

theorem StatementText.trim_bare (s : StatementText) :
    trim (String.ofList s.bare.text) = String.ofList s.bare.text := by
  have h := s.bare.trimChars_text (b := []) fun _ h => absurd h List.not_mem_nil
  rw [List.nil_append, bare_bare] at h
  rw [trim, String.toList_ofList, h]

/-- A statement read as documented is lowered as its meaning. -/
theorem StatementText.Readable.readStatement {s : StatementText} (h : s.Readable) (n : Nat)
    (st : Reading) :
    Syntax.readStatement n st (String.ofList s.bare.text) =
      { st with builder := lowerStatement st.builder s.meaning } := by
  unfold Syntax.readStatement
  simp only [s.trim_bare, s.bare_ne_empty, Bool.false_eq_true, if_false, h.ofStatement]

theorem StatementText.Readable.statementEvents {s : StatementText} (h : s.Readable) (n : Nat) :
    Syntax.statementEvents n (String.ofList s.bare.text) = s.meaning.events := by
  unfold Syntax.statementEvents
  simp only [s.trim_bare, s.bare_ne_empty, Bool.false_eq_true, if_false, h.ofStatement]

/-! ### Lines -/

/-- A line as written: blanks, statements each followed by `;` and blanks, a last statement,
and perhaps a `%%` comment after blanks. -/
structure LineText where
  indent : List Char
  init : List (StatementText × List Char)
  last : StatementText
  comment : Option (List Char × List Char)
  indent_blanks : Blanks indent
  init_blanks : ∀ p ∈ init, Blanks p.2
  comment_blanks : ∀ p ∈ comment, Blanks p.1

/-- Statements each followed by `;` and blanks. -/
def separatedText (init : List (StatementText × List Char)) : List Char :=
  init.flatMap fun p => p.1.text ++ ';' :: p.2

/-- The characters of a comment, after its blanks. -/
def commentText : Option (List Char × List Char) → List Char
  | some (b, c) => b ++ '%' :: '%' :: c
  | none => []

/-- The characters of a line. -/
def LineText.text (ln : LineText) : List Char :=
  ln.indent ++ separatedText ln.init ++ ln.last.text ++ commentText ln.comment

/-- The statements of a line, in order. -/
def LineText.statements (ln : LineText) : List StatementText := ln.init.map Prod.fst ++ [ln.last]

/-- What the statements of a line mean, in order. -/
def LineText.meanings (ln : LineText) : List Statement := ln.statements.map StatementText.meaning

/-- A line whose statements are all read as documented. -/
def LineText.Readable (ln : LineText) : Prop := ∀ s ∈ ln.statements, s.Readable

@[simp] theorem separatedText_nil : separatedText [] = [] := rfl

@[simp] theorem separatedText_cons (s : StatementText) (b : List Char)
    (init : List (StatementText × List Char)) :
    separatedText ((s, b) :: init) = s.text ++ ';' :: (b ++ separatedText init) := by
  simp [separatedText]

/-- The splitter cuts statements separated by `;` apart; trimmed, the pieces are the statements
without their blanks. -/
theorem splitStatements_separated {last : StatementText} (hlast : last.Uncut) :
    ∀ {lead : List Char} (init : List (StatementText × List Char)), Blanks lead →
      (∀ p ∈ init, p.1.Uncut ∧ Blanks p.2) →
      (splitStatements false 0 lead.reverse (separatedText init ++ last.text)).map trimChars =
        init.map (fun p => p.1.bare.text) ++ [last.bare.text]
  | lead, [], hlead, _ => by
    have hlevel := last.level hlast
    rw [separatedText_nil, List.nil_append, ← List.append_nil last.text,
      splitStatements_sheltered hlevel.sheltered, hlevel.depth]
    simp [splitStatements, last.trimChars_text hlead]
  | lead, (s, b) :: init, hlead, h => by
    have hlevel := s.level (h (s, b) List.mem_cons_self).1
    have hb : Blanks b := (h (s, b) List.mem_cons_self).2
    -- the statement is taken along, the `;` cuts, and the blanks after it open the next piece
    simp only [separatedText_cons, List.append_assoc, List.cons_append]
    rw [splitStatements_sheltered hlevel.sheltered, hlevel.depth, splitStatements_semicolon,
      splitStatements_sheltered hb.level.sheltered, hb.level.depth,
      List.append_nil, List.map_cons,
      splitStatements_separated hlast init hb fun p hp => h p (List.mem_cons_of_mem _ hp),
      List.reverse_append, List.reverse_reverse, List.reverse_reverse, s.trimChars_text hlead]
    rfl

/-- The comment stripper takes statements separated by `;` along whole. -/
theorem stripComment_separated {tail : List Char} (htail : Level tail) (rest : List Char) :
    ∀ (init : List (StatementText × List Char)) (before : List Char),
      (∀ p ∈ init, p.1.Uncut ∧ Blanks p.2) →
      stripComment false 0 before (separatedText init ++ tail ++ rest) =
        stripComment false 0 ((separatedText init ++ tail).reverse ++ before) rest
  | [], before, _ => by
    rw [separatedText_nil, List.nil_append, stripComment_sheltered htail.sheltered, htail.depth]
  | (s, b) :: init, before, h => by
    have hlevel := s.level (h (s, b) List.mem_cons_self).1
    have hb : Blanks b := (h (s, b) List.mem_cons_self).2
    simp only [separatedText_cons, List.append_assoc, List.cons_append]
    rw [stripComment_sheltered hlevel.sheltered, hlevel.depth,
      stripComment_step (by decide) (fun _ h => absurd h (by decide)),
      show depthStep 0 ';' = 0 from rfl, stripComment_sheltered hb.level.sheltered, hb.level.depth,
      ← List.append_assoc (separatedText init), stripComment_separated htail rest init _ fun p hp =>
        h p (List.mem_cons_of_mem _ hp)]
    simp

/-- The statements of a line start with a word character. -/
theorem separatedText_start (init : List (StatementText × List Char)) (last : StatementText) :
    ∃ c r, separatedText init ++ last.text = c :: r ∧ isWordChar c = true := by
  cases init with
  | nil =>
    obtain ⟨c, r, hcr, hc⟩ := last.bare_text_cons
    exact ⟨c, r ++ last.trail, by rw [separatedText_nil, List.nil_append, last.text_bare, hcr,
      List.cons_append], hc⟩
  | cons p init =>
    obtain ⟨s, b⟩ := p
    obtain ⟨c, r, hcr, hc⟩ := s.bare_text_cons
    refine ⟨c, r ++ s.trail ++ ';' :: (b ++ separatedText init) ++ last.text, ?_, hc⟩
    rw [separatedText_cons, s.text_bare, hcr]
    simp

theorem LineText.uncut_init {ln : LineText} (h : ∀ s ∈ ln.statements, s.Uncut) :
    ∀ p ∈ ln.init, p.1.Uncut ∧ Blanks p.2 := fun p hp =>
  ⟨h p.1 (List.mem_append_left _ (List.mem_map_of_mem hp)), ln.init_blanks p hp⟩

theorem LineText.uncut_last {ln : LineText} (h : ∀ s ∈ ln.statements, s.Uncut) : ln.last.Uncut :=
  h ln.last (List.mem_append_right _ (List.mem_singleton_self _))

/-- A trimmed line starts with its first statement. -/
theorem LineText.trimChars_text (ln : LineText) :
    trimChars ln.text = dropBlankEnd (separatedText ln.init ++ ln.last.text ++ commentText ln.comment) := by
  obtain ⟨c, r, hcr, hc⟩ := separatedText_start ln.init ln.last
  have hcb : isBlank c = false := idChar_not_blank (.inl hc)
  rw [trimChars, LineText.text, List.append_assoc, List.append_assoc,
    List.dropWhile_append_of_pos fun x hx => inlineBlank_isBlank (ln.indent_blanks x hx),
    ← List.append_assoc, hcr, List.cons_append,
    List.dropWhile_cons_of_neg (by rw [hcb]; exact Bool.false_ne_true)]

theorem LineText.trimChars_cons (ln : LineText) :
    ∃ c r, trimChars ln.text = c :: r ∧ isWordChar c = true := by
  obtain ⟨c, r, hcr, hc⟩ := separatedText_start ln.init ln.last
  have hsolid : EndsSolid [c] := endsSolid_of_forall (List.cons_ne_nil _ _) fun x hx => by
    rw [List.mem_singleton.1 hx]
    exact idChar_not_blank (.inl hc)
  obtain ⟨zs, hzs⟩ := dropBlankEnd_append_of_solid hsolid (r ++ commentText ln.comment)
  refine ⟨c, zs, ?_, hc⟩
  rw [ln.trimChars_text, hcr, List.cons_append,
    show c :: (r ++ commentText ln.comment) = [c] ++ (r ++ commentText ln.comment) from rfl, hzs]
  rfl

/-- Trimmed and freed of its comment, a line is its statements without the blanks after the
last. -/
theorem LineText.stripComment_text (ln : LineText) (h : ∀ s ∈ ln.statements, s.Uncut) :
    stripComment false 0 [] (trimChars ln.text) = separatedText ln.init ++ ln.last.bare.text := by
  have hinit := LineText.uncut_init h
  have hlast := ln.last.level (LineText.uncut_last h)
  have htrail : ∀ c ∈ ln.last.trail, isBlank c = true := fun c hc =>
    inlineBlank_isBlank (ln.last.trail_blanks c hc)
  rw [ln.trimChars_text]
  cases hcm : ln.comment with
  | none =>
    rw [show commentText none = [] from rfl, List.append_nil, ln.last.text_bare,
      ← List.append_assoc, dropBlankEnd_append_blanks (ln.last.bare_solid.append_left _) htrail,
      ← List.append_nil (separatedText ln.init ++ ln.last.bare.text),
      stripComment_separated (ln.last.bare.level (LineText.uncut_last h).bare) [] ln.init [] hinit]
    simp [stripComment]
  | some p =>
    obtain ⟨b, c⟩ := p
    have hb : Blanks b := (ln.comment_blanks (b, c) (by rw [hcm]; rfl))
    -- trimming the end stops at the `%%` at the latest, and the stripper cuts there
    have hsolid : EndsSolid (separatedText ln.init ++ (ln.last.text ++ b) ++ ['%', '%']) :=
      (endsSolid_of_forall (by simp) fun x hx => by
        simp only [List.mem_cons, List.not_mem_nil, or_false, or_self] at hx
        rw [hx]
        decide).append_left _
    obtain ⟨zs, hzs⟩ := dropBlankEnd_append_of_solid hsolid c
    have htrimmed : dropBlankEnd (separatedText ln.init ++ ln.last.text ++ commentText (some (b, c))) =
        separatedText ln.init ++ (ln.last.text ++ b) ++ '%' :: '%' :: zs := by
      have hbody : separatedText ln.init ++ ln.last.text ++ commentText (some (b, c)) =
          separatedText ln.init ++ (ln.last.text ++ b) ++ ['%', '%'] ++ c := by
        simp [commentText]
      rw [hbody, hzs]
      simp
    have hblank : ∀ x ∈ ln.last.trail ++ b, isBlank x = true := fun x hx => by
      rcases List.mem_append.1 hx with hx | hx
      · exact htrail x hx
      · exact inlineBlank_isBlank (hb x hx)
    rw [htrimmed, stripComment_separated (hlast.append hb.level) _ ln.init [] hinit,
      stripComment_mark, List.append_nil, List.reverse_reverse, ln.last.text_bare]
    simp only [List.append_assoc]
    rw [← List.append_assoc (separatedText ln.init),
      dropBlankEnd_append_blanks (ln.last.bare_solid.append_left _) hblank]

/-- Trimmed, the statements a written line is cut into are its statements without their
blanks. -/
theorem LineText.lineStatements_trim (ln : LineText) (h : ∀ s ∈ ln.statements, s.Uncut) :
    (lineStatements (String.ofList ln.text)).map trim =
      ln.statements.map fun s => String.ofList s.bare.text := by
  obtain ⟨c, r, hcr, hc⟩ := ln.trimChars_cons
  have htrim : trim (String.ofList ln.text) = String.ofList (c :: r) := by
    rw [trim, String.toList_ofList, hcr]
  have hne : (String.ofList (c :: r)).isEmpty = false := isEmpty_ofList_eq_false (List.cons_ne_nil _ _)
  -- the line starts with a word character, not with the `%%` of a comment line
  have hcomment : isCommentLine (String.ofList (c :: r)) = false := by
    rw [isCommentLine, String.startsWith_string_eq_false_iff, String.toList_ofList]
    rintro ⟨t, ht⟩
    rw [String.toList_ofList] at ht
    have hc' : c = '%' := (List.cons.inj ht).1.symm
    rw [hc'] at hc
    exact absurd hc (by decide)
  have hstrip : withoutComment (String.ofList (c :: r)) =
      String.ofList (separatedText ln.init ++ ln.last.bare.text) := by
    rw [withoutComment, String.toList_ofList, ← hcr, ln.stripComment_text h]
  have hsplit := @splitStatements_separated ln.last.bare (LineText.uncut_last h).bare [] ln.init
    (fun _ h => absurd h List.not_mem_nil) (LineText.uncut_init h)
  rw [List.reverse_nil, StatementText.bare_bare] at hsplit
  have hne' : (String.ofList (separatedText ln.init ++ ln.last.bare.text)).isEmpty = false := by
    obtain ⟨c', r', hcr', -⟩ := ln.last.bare_text_cons
    exact isEmpty_ofList_eq_false (by simp [hcr'])
  unfold lineStatements
  simp only [htrim, hne, hcomment, Bool.or_false, Bool.false_eq_true, if_false, hstrip, hne']
  rw [statementsOf, String.toList_ofList, List.map_map,
    show trim ∘ String.ofList = String.ofList ∘ trimChars from funext fun cs => by
      simp [trim],
    ← List.map_map, hsplit]
  simp [LineText.statements]

/-- Statements read as documented, one after another, are lowered as their meanings one after
another. -/
theorem foldl_readStatement_documented (n : Nat) :
    ∀ (statements : List StatementText), (∀ s ∈ statements, s.Readable) → ∀ st : Reading,
      (statements.map fun s => String.ofList s.bare.text).foldl (readStatement n) st =
        { st with builder := (statements.map StatementText.meaning).foldl lowerStatement st.builder }
  | [], _, _ => rfl
  | s :: more, h, st => by
    rw [List.map_cons, List.foldl_cons, (h s List.mem_cons_self).readStatement,
      foldl_readStatement_documented n more (fun x hx => h x (List.mem_cons_of_mem _ hx))]
    rfl

/-- After the header a written line whose statements are read as documented is read as the
meanings of its statements, lowered one after another. -/
theorem LineText.readLine {ln : LineText} (h : ln.Readable) {st : Reading}
    (hseen : st.seenHeader = true) (n : Nat) :
    Syntax.readLine st n (String.ofList ln.text) =
      { st with builder := ln.meanings.foldl lowerStatement st.builder } := by
  have htrim := ln.lineStatements_trim fun s hs => (h s hs).uncut
  rw [readLine_of_seenHeader hseen,
    show readStatement n = fun st raw => readStatement n st (trim raw) from
      funext fun st => funext fun raw => (readStatement_trim n st raw).symm,
    ← List.foldl_map, htrim, foldl_readStatement_documented n _ h]
  rfl

/-- The events of a written line are those of the meanings of its statements. -/
theorem LineText.statementEvents_eq {ln : LineText} (h : ln.Readable) (n : Nat) :
    (lineStatements (String.ofList ln.text)).flatMap (statementEvents n) =
      ln.meanings.flatMap Statement.events := by
  have htrim := ln.lineStatements_trim fun s hs => (h s hs).uncut
  rw [show statementEvents n = fun raw => statementEvents n (trim raw) from
      funext fun raw => (statementEvents_trim n raw).symm,
    ← List.flatMap_map, htrim, List.flatMap_map, LineText.meanings, List.flatMap_map]
  exact List.flatMap_congr fun s hs => (h s hs).statementEvents n

/-- Once the header has been read, every written line whose statements are read as documented
is read so: its comment and the blanks around its statements are dropped, it is cut at its
separators and nowhere else, and each statement is lowered as its meaning, in order. The chart
then takes in the events of those meanings: their node references in order, and the edges of
their chains. -/
theorem readLine_as_documented (ln : LineText) (h : ln.Readable) {st : Reading}
    (hseen : st.seenHeader = true) (n : Nat) :
    readLine st n (String.ofList ln.text) =
        { st with builder := ln.meanings.foldl lowerStatement st.builder } ∧
      ∀ {es : List Event}, Interns es st.builder →
        Interns (es ++ ln.meanings.flatMap Statement.events)
          (readLine st n (String.ofList ln.text)).builder := by
  refine ⟨ln.readLine h hseen n, fun {es} hes => ?_⟩
  have hread := hes.readLine (fun hs => absurd hseen (by rw [hs]; decide)) n (String.ofList ln.text)
  rwa [if_pos hseen, ln.statementEvents_eq h n] at hread

/-- A line of two statements whose first label holds a `;` and a `%%` inside brackets, with a
comment: it is cut at its separator only, and read as two chains. -/
theorem bracketed_marks_line_read :
    ∃ ln : LineText, ln.Readable ∧
      String.ofList ln.text = "A[a;b %% c] --> B;  B -.-> C %% note" ∧
      readLine { seenHeader := true } 2 "A[a;b %% c] --> B;  B -.-> C %% note" =
        { seenHeader := true
          builder := lowerStatement
            (lowerStatement {}
              (.chain { id := "A", label := some "a;b %% c" } [({ style := .solid }, { id := "B" })]
                none))
            (.chain { id := "B" } [({ style := .dotted }, { id := "C" })] none) } := by
  let node (c : Char) (hc : isWordChar c = true) : RefText :=
    { id := ⟨[c], [], ⟨List.cons_ne_nil _ _, fun x hx => List.mem_singleton.1 hx ▸ hc⟩,
        fun _ h => absurd h List.not_mem_nil⟩
      shape := none, cls := none
      shape_label := fun _ h => absurd h (Option.not_mem_none _)
      cls_name := fun _ h => absurd h (Option.not_mem_none _) }
  let boxed : RefText :=
    { node 'A' rfl with
      shape := some (⟨8, by decide⟩, "a;b %% c".toList)
      shape_label := fun p hp => by
        cases hp
        unfold LabelText
        decide }
  let segment (l : LinkText) (target : RefText) : SegmentText :=
    { lead := [' '], link := l, mid := [' '], pipe := none, gap := [], target
      lead_blanks := by unfold Blanks; decide, mid_blanks := by unfold Blanks; decide
      gap_blanks := fun _ h => absurd h List.not_mem_nil
      pipe_text := fun _ h => absurd h (Option.not_mem_none _) }
  let first : StatementText :=
    .chain boxed (segment (.solid 0) (node 'B' rfl)) [] none []
      (fun _ h => absurd h (Option.not_mem_none _)) fun _ h => absurd h List.not_mem_nil
  let last : StatementText :=
    .chain (node 'B' rfl) (segment (.dotted 0) (node 'C' rfl)) [] none [' ']
      (fun _ h => absurd h (Option.not_mem_none _)) (by unfold Blanks; decide)
  let ln : LineText :=
    { indent := [], init := [(first, [' ', ' '])], last, comment := some ([], " note".toList)
      indent_blanks := fun _ h => absurd h List.not_mem_nil
      init_blanks := fun p hp => by
        rw [List.mem_singleton.1 hp]
        unfold Blanks
        decide
      comment_blanks := fun _ h => by
        cases h
        exact fun _ h => absurd h List.not_mem_nil }
  -- no node is a trapezoid, has a class or opens a `>` label, and no link is a labelled one
  have hplain : ∀ c hc, ¬ (node c hc).IsTrapezoid := by
    rintro c hc ⟨t, h⟩
    cases h
  have hsegment : ∀ l c hc, (segment l (node c hc)).Uncut := by
    intro l c hc
    refine ⟨?_, ?_⟩ <;>
    · rintro p hp
      cases hp
  have hfirst : first.Readable := by
    refine ⟨?_, ?_, by decide⟩
    · refine ⟨⟨?_, fun h => absurd h (hplain 'B' rfl)⟩, ⟨?_, trivial⟩, ?_⟩
      · rintro ⟨t, h⟩
        simp [boxed] at h
      · intro h
        cases h
      · intro sg hsg
        rw [List.mem_singleton.1 hsg]
        trivial
    · refine ⟨?_, fun sg hsg => by rw [List.mem_singleton.1 hsg]; exact hsegment _ 'B' rfl⟩
      rintro p hp h
      cases hp
      exact absurd h (by decide)
  have hlast : last.Readable := by
    refine ⟨?_, ?_, by decide⟩
    · refine ⟨⟨fun h => absurd h (hplain 'B' rfl), fun h => absurd h (hplain 'C' rfl)⟩,
        ⟨?_, trivial⟩, ?_⟩
      · intro h
        cases h
      · intro sg hsg
        rw [List.mem_singleton.1 hsg]
        trivial
    · refine ⟨?_, fun sg hsg => by rw [List.mem_singleton.1 hsg]; exact hsegment _ 'C' rfl⟩
      rintro p hp
      cases hp
  have hread : ln.Readable := by
    intro s hs
    rcases List.mem_append.1 hs with hs | hs
    · simp only [ln, List.map_cons, List.map_nil, List.mem_singleton] at hs
      rw [hs]
      exact hfirst
    · rw [List.mem_singleton.1 hs]
      exact hlast
  have htext : String.ofList ln.text = "A[a;b %% c] --> B;  B -.-> C %% note" := by decide
  have hmeanings : ln.meanings =
      [.chain { id := "A", label := some "a;b %% c" } [({ style := .solid }, { id := "B" })] none,
        .chain { id := "B" } [({ style := .dotted }, { id := "C" })] none] := by
    decide
  refine ⟨ln, hread, htext, ?_⟩
  have h := (@readLine_as_documented ln hread { seenHeader := true } rfl 2).1
  rw [htext, hmeanings] at h
  exact h

end FlowLayout.Syntax
