import Mathlib.Data.List.Infix
import FlowLayout.Syntax.Statement
/-!
# Statements as written

The written forms of the statement grammar, as its documentation lists them, and what the
grammar reads from each of them.

* An id is a word of alphanumeric or `_` characters, then further words each after a single
  `-` or `.` (`IdText`).
* A node reference is an id, an optional label in one of the delimiter pairs of `delimiters`,
  and an optional `:::class` (`RefText`). A label holds no newline, no delimiter, no slash,
  backslash, quote or bar (`LabelText`).
* A link is `--`…`>`, `==`…`>` or `-.`…`->`, or one of the labelled forms `-- q -->`,
  `== q ==>` and `-. q .->`, where `q` is letters, digits and spaces, not only spaces
  (`LinkText`). A link may be followed by `|text|`, which becomes its label.
* A statement is a lone node reference, or a chain of a node and segments, each a link and
  the node it leads to, optionally closed by a blank and a `:::name` that colours the last
  edge (`StatementText`). Spaces and tabs may stand between the parts.

`Statement.parse?_text` says that the text of every written statement is read as its meaning
(`StatementText.meaning`), with three inputs excluded:

* the `[/ /]` pair is tried before `[/ \]` and looks for its `/]` in all of the rest of the
  statement, so no `/]` may follow a trapezoid node (`TrapezoidsClear`);
* a class name takes dashes, so a link starting with a dash may not directly follow a class
  name (`DashLinksSpaced`);
* the label text of a dotted link stops at the last `.-`, so a labelled dotted link closed by
  more than one dot keeps all but the last of them in its label (`LinkText.SingleDot`).

`parse?_trapezoid_read_as_parallelogram` and `parse?_dotted_label_keeps_dot` are the first and
the last at their smallest inputs.
-/

namespace FlowLayout.Syntax

/-- Facts about the characters of a literal are decided one listed character at a time, never
by running through every character there is. -/
local instance (priority := high) decidableForallMem {β : Type} (p : β → Prop)
    [DecidablePred p] (l : List β) : Decidable (∀ x ∈ l, p x) :=
  List.decidableBAll p l

/-! ### The written forms -/

/-- A word of an id: one or more word characters. -/
def IsWord (w : List Char) : Prop := w ≠ [] ∧ ∀ c ∈ w, isWordChar c = true

/-- An id as written: a word, then further words each after a single `-` or `.`. -/
structure IdText where
  first : List Char
  joined : List (Char × List Char)
  first_word : IsWord first
  joined_words : ∀ p ∈ joined, (p.1 = '-' ∨ p.1 = '.') ∧ IsWord p.2

/-- The characters of an id. -/
def IdText.text (i : IdText) : List Char := i.first ++ i.joined.flatMap fun p => p.1 :: p.2

/-- The characters a shape label may not hold. -/
def labelStops : List Char := "\n()[]\x7b\x7d<>/\\\"|".toList

/-- A shape label: no newline, delimiter, slash, backslash, quote or bar. -/
def LabelText (t : List Char) : Prop := ∀ c ∈ t, c ∉ labelStops

/-- A class name: one or more alphanumeric, `_`, `-` or `#` characters. -/
def ClassName (n : List Char) : Prop := n ≠ [] ∧ ∀ c ∈ n, isClassChar c = true

/-- The label text inside a link: letters, digits and spaces, not only spaces. -/
def LinkWords (q : List Char) : Prop :=
  (∀ c ∈ q, c = ' ' ∨ Text.isAlphanumeric c = true) ∧ ∃ c ∈ q, c ≠ ' '

/-- Spaces and tabs. -/
def Blanks (b : List Char) : Prop := ∀ c ∈ b, isInlineBlank c = true

/-- A node reference as written: an id, an optional delimiter pair (by its place in
`delimiters`) with its label, and an optional class. -/
structure RefText where
  id : IdText
  shape : Option (Fin delimiters.length × List Char)
  cls : Option (List Char)
  shape_label : ∀ p ∈ shape, LabelText p.2
  cls_name : ∀ n ∈ cls, ClassName n

/-- The characters of a shape and its label. -/
def shapeText : Option (Fin delimiters.length × List Char) → List Char
  | some (k, t) => (delimiters.get k).1.toList ++ t ++ (delimiters.get k).2.1.toList
  | none => []

/-- The characters of a class suffix. -/
def classText : Option (List Char) → List Char
  | some n => ':' :: ':' :: ':' :: n
  | none => []

/-- The characters of a node reference. -/
def RefText.text (r : RefText) : List Char := r.id.text ++ shapeText r.shape ++ classText r.cls

/-- What a node reference means: its id, label, shape (a rectangle without delimiters) and
class. -/
def RefText.meaning (r : RefText) : NodeRef where
  id := String.ofList r.id.text
  label := r.shape.map fun p => String.ofList p.2
  shape := (r.shape.map fun p => (delimiters.get p.1).2.2).getD .rectangle
  cls := r.cls.map String.ofList

/-- Whether the node is drawn as a trapezoid, the pair `[/ \]`. -/
def RefText.IsTrapezoid (r : RefText) : Prop := ∃ t, r.shape = some (⟨6, by decide⟩, t)

/-- A link as written; `extra` counts the dashes, equals signs or dots beyond the shortest
arrow. -/
inductive LinkText where
  | solid (extra : Nat)
  | thick (extra : Nat)
  | dotted (extra : Nat)
  | solidLabeled (q : List Char) (hq : LinkWords q) (extra : Nat)
  | thickLabeled (q : List Char) (hq : LinkWords q) (extra : Nat)
  | dottedLabeled (q : List Char) (hq : LinkWords q) (extra : Nat)

/-- The characters of a link. -/
def LinkText.text : LinkText → List Char
  | .solid n => '-' :: '-' :: List.replicate n '-' ++ ['>']
  | .thick n => '=' :: '=' :: List.replicate n '=' ++ ['>']
  | .dotted n => '-' :: '.' :: List.replicate n '.' ++ ['-', '>']
  | .solidLabeled q _ n => '-' :: '-' :: q ++ '-' :: '-' :: List.replicate n '-' ++ ['>']
  | .thickLabeled q _ n => '=' :: '=' :: q ++ '=' :: '=' :: List.replicate n '=' ++ ['>']
  | .dottedLabeled q _ n => '-' :: '.' :: q ++ List.replicate (n + 1) '.' ++ ['-', '>']

/-- Whether the link starts with a dash. -/
def LinkText.startsWithDash : LinkText → Bool
  | .thick _ | .thickLabeled .. => false
  | _ => true

/-- What a link means: its style, and the label text without its leading spaces. -/
def LinkText.meaning : LinkText → Link
  | .solid _ => { style := .solid }
  | .thick _ => { style := .thick }
  | .dotted _ => { style := .dotted }
  | .solidLabeled q _ _ => { style := .solid, label := some (String.ofList (q.dropWhile (· == ' '))) }
  | .thickLabeled q _ _ => { style := .thick, label := some (String.ofList (q.dropWhile (· == ' '))) }
  | .dottedLabeled q _ _ => { style := .dotted, label := some (String.ofList (q.dropWhile (· == ' '))) }

/-- A labelled dotted link is closed by a single dot before its `->`. -/
def LinkText.SingleDot : LinkText → Prop
  | .dottedLabeled _ _ n => n = 0
  | _ => True

/-- A segment as written: blanks, a link, blanks, an optional `|text|`, blanks and the node
the link leads to. -/
structure SegmentText where
  lead : List Char
  link : LinkText
  mid : List Char
  pipe : Option (List Char)
  gap : List Char
  target : RefText
  lead_blanks : Blanks lead
  mid_blanks : Blanks mid
  gap_blanks : Blanks gap
  pipe_text : ∀ p ∈ pipe, '|' ∉ p

/-- The characters of a `|text|` label. -/
def pipeText : Option (List Char) → List Char
  | some p => '|' :: p ++ ['|']
  | none => []

/-- The characters of a segment. -/
def SegmentText.text (s : SegmentText) : List Char :=
  s.lead ++ s.link.text ++ s.mid ++ pipeText s.pipe ++ s.gap ++ s.target.text

/-- What a segment means: the link, labelled by its `|text|` if it has one, and its node. -/
def SegmentText.meaning (s : SegmentText) : Link × NodeRef :=
  (match s.pipe with
    | some p => { s.link.meaning with label := some (String.ofList p) }
    | none => s.link.meaning,
   s.target.meaning)

/-- A statement as written: a lone node, or a chain with at least one segment and an optional
colour class after a blank; either may end in blanks. -/
inductive StatementText where
  | node (r : RefText) (trail : List Char) (htrail : Blanks trail)
  | chain (head : RefText) (first : SegmentText) (more : List SegmentText)
      (tail : Option (List Char × List Char)) (trail : List Char)
      (htail : ∀ p ∈ tail, p.1 ≠ [] ∧ Blanks p.1 ∧ ClassName p.2) (htrail : Blanks trail)

/-- The characters of a colour class after a chain. -/
def tailText : Option (List Char × List Char) → List Char
  | some (b, n) => b ++ ':' :: ':' :: ':' :: n
  | none => []

/-- The characters of a statement. -/
def StatementText.text : StatementText → List Char
  | .node r trail _ => r.text ++ trail
  | .chain head first more tail trail _ _ =>
    head.text ++ (first :: more).flatMap SegmentText.text ++ tailText tail ++ trail

/-- What a statement means. In a chain, a colour class after it colours the last edge;
without one, the last node's class does, and that node keeps no class. -/
def StatementText.meaning : StatementText → Statement
  | .node r _ _ => .node r.meaning
  | .chain head first more tail _ _ _ =>
    let links := (first :: more).map SegmentText.meaning
    match tail with
    | some (_, n) => .chain head.meaning links (some (String.ofList n))
    | none =>
      let last := ((first :: more).getLast (List.cons_ne_nil _ _)).meaning
      .chain head.meaning (links.dropLast ++ [(last.1, { last.2 with cls := none })]) last.2.cls

/-! ### The excluded inputs -/

/-- No `/]` follows a trapezoid node in the rest of the statement. -/
def TrapezoidsClear : RefText → List SegmentText → List Char → Prop
  | r, [], rest => r.IsTrapezoid → ¬ ['/', ']'] <:+: rest
  | r, s :: more, rest =>
    (r.IsTrapezoid → ¬ ['/', ']'] <:+: (s :: more).flatMap SegmentText.text ++ rest) ∧
      TrapezoidsClear s.target more rest

/-- A link starting with a dash has a blank before it when it follows a class name. -/
def DashLinksSpaced : RefText → List SegmentText → Prop
  | _, [] => True
  | r, s :: more =>
    (r.cls.isSome → s.link.startsWithDash → s.lead ≠ []) ∧ DashLinksSpaced s.target more

/-- A statement avoids the excluded inputs. -/
def StatementText.Clear : StatementText → Prop
  | .node r trail _ => TrapezoidsClear r [] trail
  | .chain head first more tail trail _ _ =>
    TrapezoidsClear head (first :: more) (tailText tail ++ trail) ∧
      DashLinksSpaced head (first :: more) ∧ ∀ sg ∈ first :: more, sg.link.SingleDot

/-! ### Literals, runs and searches -/

theorem skipInline_blanks_append {b : List Char} (hb : Blanks b) (s : List Char) :
    skipInline (b ++ s) = skipInline s :=
  List.dropWhile_append_of_pos hb

theorem skipInline_cons {c : Char} (hc : isInlineBlank c = false) (s : List Char) :
    skipInline (c :: s) = c :: s :=
  List.dropWhile_cons_of_neg (by rw [hc]; exact Bool.false_ne_true)

theorem expect_append (lit : String) (s : List Char) : expect lit (lit.toList ++ s) = some s := by
  unfold expect
  rw [if_pos (List.isPrefixOf_iff_prefix.2 (List.prefix_append _ _)), ← String.length_toList,
    List.drop_left]

theorem expect_eq_none {lit : String} {s : List Char} (h : ¬ lit.toList <+: s) :
    expect lit s = none := by
  unfold expect
  rw [if_neg fun h' => h (List.isPrefixOf_iff_prefix.1 h')]

/-- The search for `pat` splits the input around the occurrence it finds. -/
theorem breakAt_eq_some {pat : List Char} :
    ∀ {s a b : List Char}, breakAt pat s = some (a, b) → s = a ++ pat ++ b
  | [], _, _, h => by simp [breakAt] at h
  | c :: s, a, b, h => by
    unfold breakAt at h
    split at h
    · next hpre =>
      simp only [Option.some.injEq, Prod.mk.injEq] at h
      obtain ⟨rfl, rfl⟩ := h
      obtain ⟨u, hu⟩ := List.isPrefixOf_iff_prefix.1 hpre
      rw [← hu, List.drop_left, List.nil_append]
    · obtain ⟨⟨a', b'⟩, hfound, hab⟩ := Option.map_eq_some_iff.1 h
      simp only [Prod.mk.injEq] at hab
      obtain ⟨rfl, rfl⟩ := hab
      rw [breakAt_eq_some hfound]
      simp

theorem breakAt_eq_none_of_not_infix {pat s : List Char} (h : ¬ pat <:+: s) :
    breakAt pat s = none := by
  cases hb : breakAt pat s with
  | none => rfl
  | some p => exact absurd ⟨p.1, p.2, (breakAt_eq_some hb).symm⟩ h

/-- A search through text without the pattern's first character finds what the rest holds. -/
theorem breakAt_append_of_not_mem {p : Char} {ps : List Char} :
    ∀ {u : List Char} (rest : List Char), p ∉ u →
      breakAt (p :: ps) (u ++ rest) = (breakAt (p :: ps) rest).map fun q => (u ++ q.1, q.2)
  | [], rest, _ => by simp
  | c :: u, rest, hu => by
    have hc : c ≠ p := fun h => hu (h ▸ List.mem_cons_self ..)
    have hnot : (p :: ps).isPrefixOf (c :: (u ++ rest)) = false := by
      simp [List.isPrefixOf, hc.symm]
    rw [List.cons_append, breakAt, if_neg (by rw [hnot]; exact Bool.false_ne_true),
      breakAt_append_of_not_mem rest fun h => hu (List.mem_cons_of_mem _ h), Option.map_map]
    rfl

theorem breakAt_text {p : Char} {ps t : List Char} (ht : p ∉ t) (rest : List Char) :
    breakAt (p :: ps) (t ++ (p :: ps ++ rest)) = some (t, rest) := by
  have hfound : breakAt (p :: ps) (p :: ps ++ rest) = some ([], rest) := by
    have hpre : (p :: ps).isPrefixOf (p :: ps ++ rest) = true :=
      List.isPrefixOf_iff_prefix.2 (List.prefix_append _ _)
    rw [List.cons_append, breakAt, ← List.cons_append, if_pos hpre, List.drop_left]
  rw [breakAt_append_of_not_mem _ ht, hfound]
  simp

/-! ### Ids -/

/-- Where an id ends: at the end of the text, or before a character that is not a word
character and not a joiner followed by one. -/
def IdStop : List Char → Prop
  | [] => True
  | c :: r => isWordChar c = false ∧ ((c = '-' ∨ c = '.') → ∀ d r', r = d :: r' → isWordChar d = false)

theorem idTail_cons_word {c : Char} (hc : isWordChar c = true) (r : List Char) :
    idTail (c :: r) = (c :: (idTail r).1, (idTail r).2) := by
  cases r <;> simp [idTail, hc]

theorem idTail_cons_joiner {c d : Char} (hc : isWordChar c = false) (hj : c = '-' ∨ c = '.')
    (hd : isWordChar d = true) (r : List Char) :
    idTail (c :: d :: r) = (c :: d :: (idTail r).1, (idTail r).2) := by
  have hjoin : (c == '-' || c == '.') = true := by rcases hj with rfl | rfl <;> rfl
  simp [idTail, hc, hjoin, hd]

theorem idTail_stop : ∀ {s : List Char}, IdStop s → idTail s = ([], s)
  | [], _ => rfl
  | [c], ⟨hc, _⟩ => by simp [idTail, hc]
  | c :: d :: r, ⟨hc, hjoin⟩ => by
    by_cases hj : c = '-' ∨ c = '.'
    · have hjoin' : (c == '-' || c == '.') = true := by rcases hj with rfl | rfl <;> rfl
      simp [idTail, hc, hjoin', hjoin hj d r rfl]
    · have hjoin' : (c == '-' || c == '.') = false := by simpa using hj
      simp [idTail, hc, hjoin']

theorem idTail_word_append {w : List Char} (hw : ∀ c ∈ w, isWordChar c = true) (s : List Char) :
    idTail (w ++ s) = (w ++ (idTail s).1, (idTail s).2) := by
  induction w with
  | nil => rfl
  | cons c w ih =>
    rw [List.cons_append, idTail_cons_word (hw c (List.mem_cons_self ..)),
      ih fun x hx => hw x (List.mem_cons_of_mem _ hx)]
    rfl

theorem idTail_joined {s : List Char} (hs : IdStop s) :
    ∀ (L : List (Char × List Char)), (∀ p ∈ L, (p.1 = '-' ∨ p.1 = '.') ∧ IsWord p.2) →
      idTail (L.flatMap (fun p => p.1 :: p.2) ++ s) = (L.flatMap fun p => p.1 :: p.2, s)
  | [], _ => idTail_stop hs
  | (j, w) :: L, hL => by
    obtain ⟨hj, hne, hw⟩ := hL (j, w) (List.mem_cons_self ..)
    obtain ⟨d, w', rfl⟩ := List.exists_cons_of_ne_nil hne
    have hjw : isWordChar j = false := by rcases hj with rfl | rfl <;> rfl
    have hrest := idTail_word_append (fun x hx => hw x (List.mem_cons_of_mem _ hx))
      (L.flatMap (fun p => p.1 :: p.2) ++ s)
    rw [idTail_joined hs L fun p hp => hL p (List.mem_cons_of_mem _ hp)] at hrest
    simp only [List.flatMap_cons, List.cons_append, List.append_assoc]
    rw [idTail_cons_joiner hjw hj (hw d (List.mem_cons_self ..)), hrest]

/-- An id is read whole, up to where it ends. -/
theorem identifier_text (i : IdText) {s : List Char} (hs : IdStop s) :
    identifier (i.text ++ s) = some (i.text, s) := by
  obtain ⟨hne, hw⟩ := i.first_word
  obtain ⟨c, w, hfirst⟩ := List.exists_cons_of_ne_nil hne
  have hwords : ∀ x ∈ w, isWordChar x = true := fun x hx => hw x (hfirst ▸ List.mem_cons_of_mem _ hx)
  have htail := idTail_word_append hwords (i.joined.flatMap (fun p => p.1 :: p.2) ++ s)
  rw [idTail_joined hs _ i.joined_words] at htail
  rw [IdText.text, hfirst, List.append_assoc, List.cons_append, identifier,
    if_pos (hw c (hfirst ▸ List.mem_cons_self ..)), htail]
  simp

/-! ### Delimiter pairs -/

/-- The characters that open a delimiter pair. -/
def openerStarts : List Char := "([\x7b>".toList

/-- No opening character can continue an id, a blank, a link or a class suffix. -/
theorem openerStarts_stop : ∀ x ∈ openerStarts, isWordChar x = false ∧ x ≠ '-' ∧ x ≠ '.' ∧
    x ≠ ':' ∧ x ≠ '=' ∧ isInlineBlank x = false := by
  decide +kernel

/-- Each pair opens with an opening character and at most one more character, and all of its
characters stop a label. -/
theorem delimiters_openers : ∀ d ∈ delimiters, d.1.toList ≠ [] ∧ d.1.length ≤ 2 ∧
    (∀ x ∈ d.1.toList.take 1, x ∈ openerStarts) ∧ ∀ x ∈ d.1.toList, x ∈ labelStops := by
  decide +kernel

/-- Each pair closes with a character that stops a label and is neither blank nor a quote. -/
theorem delimiters_closers : ∀ d ∈ delimiters, d.2.1.toList ≠ [] ∧
    ∀ y ∈ d.2.1.toList.take 1, y ∈ labelStops ∧ y ≠ '"' ∧ isInlineBlank y = false := by
  decide +kernel

/-- An earlier pair never opens a text written with a later one, with or without a label,
except `[/ /]` before `[/ \]`. -/
theorem delimiters_unshadowed : ∀ j k : Fin delimiters.length, j < k → ¬ (j.val = 5 ∧ k.val = 6) →
    (delimiters.get j).1.toList.isPrefixOf (delimiters.get k).1.toList = false ∧
    (delimiters.get j).1.toList.isPrefixOf
      ((delimiters.get k).1.toList ++ (delimiters.get k).2.1.toList.take 1) = false := by
  decide +kernel

theorem exists_closer (k : Fin delimiters.length) :
    ∃ y ys, (delimiters.get k).2.1.toList = y :: ys ∧ y ∈ labelStops ∧ y ≠ '"' ∧
      isInlineBlank y = false := by
  obtain ⟨hne, hy⟩ := delimiters_closers _ (List.get_mem _ _)
  obtain ⟨y, ys, hys⟩ := List.exists_cons_of_ne_nil hne
  obtain ⟨hstop, hq, hb⟩ := hy y (by rw [hys]; exact List.mem_singleton_self y)
  exact ⟨y, ys, hys, hstop, hq, hb⟩

theorem firstM_eq_some {α β : Type} {f : α → Option β} {b : β} :
    ∀ (L : List α) (k : Fin L.length), (∀ j : Fin L.length, j < k → f (L.get j) = none) →
      f (L.get k) = some b → L.firstM f = some b
  | a :: L, ⟨0, _⟩, _, hk => by
    have ha : f a = some b := hk
    simp [List.firstM, ha]
  | a :: L, ⟨k + 1, hlt⟩, hbefore, hk => by
    have ha : f a = none := hbefore ⟨0, by simp⟩ (Fin.mk_lt_mk.2 (Nat.succ_pos k))
    have hrest := firstM_eq_some L ⟨k, by simpa using hlt⟩
      (fun j hj => by simpa using hbefore j.succ (Fin.mk_lt_mk.2 (Nat.succ_lt_succ hj))) hk
    simp [List.firstM, ha, hrest]

theorem firstM_eq_none {α β : Type} {f : α → Option β} :
    ∀ (L : List α), (∀ a ∈ L, f a = none) → L.firstM f = none
  | [], _ => rfl
  | a :: L, h => by
    simp [List.firstM, h a (List.mem_cons_self ..), firstM_eq_none L fun x hx =>
      h x (List.mem_cons_of_mem _ hx)]

/-- A quoted label needs a quote after the blanks; text without one, closed by a character that
is neither blank nor a quote, has none. -/
theorem quotedLabel_eq_none (close : String) {t : List Char} (ht : '"' ∉ t) {y : Char}
    (hy : y ≠ '"') (hyb : isInlineBlank y = false) (rest : List Char) :
    quotedLabel close (t ++ y :: rest) = none := by
  have hstart : ∃ z zs, skipInline (t ++ y :: rest) = z :: zs ∧ z ≠ '"' := by
    induction t with
    | nil => exact ⟨y, rest, skipInline_cons hyb rest, hy⟩
    | cons x t ih =>
      have hx : x ≠ '"' := fun h => ht (h ▸ List.mem_cons_self ..)
      cases hxb : isInlineBlank x
      · exact ⟨x, t ++ y :: rest, skipInline_cons hxb _, hx⟩
      · rw [List.cons_append, skipInline, List.dropWhile_cons_of_pos hxb]
        exact ih fun h => ht (List.mem_cons_of_mem _ h)
  obtain ⟨z, zs, hskip, hz⟩ := hstart
  have hquote : expect "\"" (z :: zs) = none := by
    refine expect_eq_none fun h => hz ?_
    exact (List.cons_prefix_cons.1 h).1.symm
  unfold quotedLabel
  rw [hskip, hquote]
  rfl

/-- A label written in a pair is read up to the first closing delimiter. -/
theorem shapedLabel_text (k : Fin delimiters.length) {t : List Char} (ht : LabelText t)
    (rest : List Char) :
    shapedLabel (delimiters.get k).1 (delimiters.get k).2.1
      ((delimiters.get k).1.toList ++ (t ++ ((delimiters.get k).2.1.toList ++ rest))) =
        some (t, rest) := by
  obtain ⟨y, ys, hys, hstop, hq, hb⟩ := exists_closer k
  have hquote : '"' ∉ t := fun h => ht _ h (by decide)
  have hyt : y ∉ t := fun h => ht y h hstop
  have hnotquoted := quotedLabel_eq_none (delimiters.get k).2.1 hquote hq hb (ys ++ rest)
  rw [← List.cons_append] at hnotquoted
  unfold shapedLabel
  rw [expect_append, Option.bind_eq_bind, Option.bind_some, hys, hnotquoted, breakAt_text hyt]
  rfl

/-- A pair tried before the one a label is written in does not open the text, unless it is
`[/ /]` before `[/ \]`: the opening characters differ, or the longer opening would need a
label character that stops labels. -/
theorem not_prefix_of_earlier {j k : Fin delimiters.length} (hjk : j < k)
    (hsame : ¬ (j.val = 5 ∧ k.val = 6)) {t : List Char} (ht : LabelText t) (rest : List Char) :
    ¬ (delimiters.get j).1.toList <+:
      (delimiters.get k).1.toList ++ (t ++ ((delimiters.get k).2.1.toList ++ rest)) := by
  intro h
  obtain ⟨hshort, hlabel⟩ := delimiters_unshadowed j k hjk hsame
  obtain ⟨-, hjlen, -, hjstops⟩ := delimiters_openers _ (List.get_mem delimiters j)
  obtain ⟨hkne, -⟩ := delimiters_openers _ (List.get_mem delimiters k)
  obtain ⟨y, ys, hys, -⟩ := exists_closer k
  have hklen : 1 ≤ (delimiters.get k).1.toList.length := List.length_pos_iff.2 hkne
  have hjlen' : (delimiters.get j).1.toList.length ≤ (delimiters.get k).1.toList.length + 1 := by
    rw [String.length_toList]
    omega
  -- the opening compared against the written opening and one more character
  have hcut : ∀ x rest', t ++ ((delimiters.get k).2.1.toList ++ rest) = x :: rest' →
      (delimiters.get j).1.toList <+: (delimiters.get k).1.toList ++ [x] := fun x rest' hx =>
    List.prefix_of_prefix_length_le h ⟨rest', by rw [hx]; simp⟩ (by simpa using hjlen')
  cases t with
  | nil =>
    have hpre := hcut y (ys ++ rest) (by rw [hys]; rfl)
    have hlabel' : (delimiters.get j).1.toList.isPrefixOf
        ((delimiters.get k).1.toList ++ [y]) = false := by
      rw [hys] at hlabel
      exact hlabel
    rw [← List.isPrefixOf_iff_prefix, hlabel'] at hpre
    exact Bool.false_ne_true hpre
  | cons x t =>
    rcases List.prefix_concat_iff.1 (hcut x _ rfl) with heq | hpre
    · have hx : x ∈ (delimiters.get j).1.toList := by rw [heq]; simp
      exact ht x (List.mem_cons_self ..) (hjstops x hx)
    · rw [← List.isPrefixOf_iff_prefix, hshort] at hpre
      exact Bool.false_ne_true hpre

/-- The `[/ /]` pair does not read a trapezoid label when no `/]` follows it. -/
theorem shapedLabel_slash_trapezoid {t : List Char} (ht : LabelText t) {rest : List Char}
    (hrest : breakAt ['/', ']'] rest = none) :
    shapedLabel (delimiters.get ⟨5, by decide⟩).1 (delimiters.get ⟨5, by decide⟩).2.1
      ((delimiters.get ⟨6, by decide⟩).1.toList ++
        (t ++ ((delimiters.get ⟨6, by decide⟩).2.1.toList ++ rest))) = none := by
  have hquote : '"' ∉ t := fun h => ht _ h (by decide)
  have hslash : '/' ∉ t ++ ['\\', ']'] := by
    rw [List.mem_append]
    rintro (h | h)
    · exact ht _ h (by decide)
    · revert h
      decide
  have hnotquoted := quotedLabel_eq_none "/]" hquote (y := '\\') (by decide) (by decide) (']' :: rest)
  have hsearch : breakAt ['/', ']'] (t ++ ['\\', ']'] ++ rest) =
      (breakAt ['/', ']'] rest).map fun q => (t ++ ['\\', ']'] ++ q.1, q.2) :=
    breakAt_append_of_not_mem rest hslash
  rw [hrest, List.append_assoc] at hsearch
  show (expect "[/" ('[' :: '/' :: (t ++ ('\\' :: ']' :: rest)))).bind
    (fun s => quotedLabel "/]" s <|> breakAt ['/', ']'] s) = none
  rw [show '[' :: '/' :: (t ++ ('\\' :: ']' :: rest)) = "[/".toList ++ (t ++ ('\\' :: ']' :: rest))
    from rfl, expect_append, Option.bind_some, hnotquoted]
  exact hsearch

/-- A label in a delimiter pair is read as that pair's shape; a trapezoid needs no `/]` after
it. -/
theorem shapeAndLabel_text (k : Fin delimiters.length) {t : List Char} (ht : LabelText t)
    (rest : List Char) (htrap : k.val = 6 → breakAt ['/', ']'] rest = none) :
    shapeAndLabel (shapeText (some (k, t)) ++ rest) =
      some ((t, (delimiters.get k).2.2), rest) := by
  rw [shapeText, List.append_assoc, List.append_assoc]
  unfold shapeAndLabel
  refine firstM_eq_some delimiters k (fun j hjk => ?_) ?_
  · show Option.map _ (shapedLabel (delimiters.get j).1 (delimiters.get j).2.1 _) = none
    by_cases hsame : j.val = 5 ∧ k.val = 6
    · obtain ⟨hj, hk⟩ := hsame
      obtain rfl : j = ⟨5, by decide⟩ := Fin.ext hj
      obtain rfl : k = ⟨6, by decide⟩ := Fin.ext hk
      rw [shapedLabel_slash_trapezoid ht (htrap rfl)]
      rfl
    · unfold shapedLabel
      rw [expect_eq_none (not_prefix_of_earlier hjk hsame ht rest)]
      rfl
  · show Option.map _ (shapedLabel (delimiters.get k).1 (delimiters.get k).2.1 _) = _
    rw [shapedLabel_text k ht rest]
    rfl

/-- No pair opens text that starts with anything but an opening character. -/
theorem shapeAndLabel_eq_none {s : List Char} (h : ∀ x ∈ openerStarts, ∀ r, s ≠ x :: r) :
    shapeAndLabel s = none := by
  unfold shapeAndLabel
  refine firstM_eq_none delimiters fun d hd => ?_
  obtain ⟨hne, -, hfirst, -⟩ := delimiters_openers d hd
  obtain ⟨x, xs, hxs⟩ := List.exists_cons_of_ne_nil hne
  have hnot : ¬ d.1.toList <+: s := by
    rintro ⟨r, hr⟩
    rw [hxs] at hr
    exact h x (hfirst x (by rw [hxs]; exact List.mem_singleton_self x)) _ hr.symm
  show Option.map _ (shapedLabel d.1 d.2.1 s) = none
  unfold shapedLabel
  rw [expect_eq_none hnot]
  rfl

/-! ### Class suffixes -/

theorem classSuffix_text {n : List Char} (hn : ClassName n) {rest : List Char}
    (hr : ∀ c r, rest = c :: r → isClassChar c = false) :
    classSuffix (classText (some n) ++ rest) = some (n, rest) := by
  have hstop : rest.takeWhile isClassChar = [] ∧ rest.dropWhile isClassChar = rest := by
    cases rest with
    | nil => exact ⟨rfl, rfl⟩
    | cons c r =>
      have hc : ¬ isClassChar c = true := by rw [hr c r rfl]; exact Bool.false_ne_true
      exact ⟨List.takeWhile_cons_of_neg hc, List.dropWhile_cons_of_neg hc⟩
  have hspan : (n ++ rest).span isClassChar = (n, rest) := by
    rw [List.span_eq_takeWhile_dropWhile, List.takeWhile_append_of_pos hn.2,
      List.dropWhile_append_of_pos hn.2, hstop.1, hstop.2, List.append_nil]
  have hempty : n.isEmpty = false := List.isEmpty_eq_false_iff.2 hn.1
  unfold classSuffix
  rw [show classText (some n) ++ rest = ":::".toList ++ (n ++ rest) from rfl, expect_append,
    Option.bind_eq_bind, Option.bind_some]
  simp only [hspan, hempty]
  rfl

theorem classSuffix_eq_none {s : List Char} (h : ∀ r, s ≠ ':' :: r) : classSuffix s = none := by
  have hnot : ¬ ":::".toList <+: s := by
    rintro ⟨r, hr⟩
    exact h _ hr.symm
  unfold classSuffix
  rw [expect_eq_none hnot]
  rfl

/-! ### Node references -/

/-- A link starts with `--` or `-.` when it starts with a dash, and with `==` otherwise. -/
theorem LinkText.text_start (l : LinkText) : ∃ c d r, l.text = c :: d :: r ∧
    (c = '-' ∧ (d = '-' ∨ d = '.') ∧ l.startsWithDash = true ∨
      c = '=' ∧ d = '=' ∧ l.startsWithDash = false) := by
  cases l with
  | solid n => exact ⟨'-', '-', _, rfl, .inl ⟨rfl, .inl rfl, rfl⟩⟩
  | thick n => exact ⟨'=', '=', _, rfl, .inr ⟨rfl, rfl, rfl⟩⟩
  | dotted n => exact ⟨'-', '.', _, rfl, .inl ⟨rfl, .inr rfl, rfl⟩⟩
  | solidLabeled q hq n => exact ⟨'-', '-', _, rfl, .inl ⟨rfl, .inl rfl, rfl⟩⟩
  | thickLabeled q hq n => exact ⟨'=', '=', _, rfl, .inr ⟨rfl, rfl, rfl⟩⟩
  | dottedLabeled q hq n => exact ⟨'-', '.', _, rfl, .inl ⟨rfl, .inr rfl, rfl⟩⟩

/-- What may follow a node reference: nothing, a blank, or a link. -/
def NodeFollow (s : List Char) : Prop :=
  s = [] ∨ (∃ c r, s = c :: r ∧ isInlineBlank c = true) ∨
    ∃ (l : LinkText) (r : List Char), s = l.text ++ r

/-- The characters that may start what follows a node: none continues an id or opens a pair
or a class, and only the dash continues a class name. -/
theorem follow_chars : ∀ c ∈ " \t-=".toList, isWordChar c = false ∧ c ≠ ':' ∧
    c ∉ openerStarts ∧ (c ≠ '-' → isClassChar c = false) := by
  decide +kernel

namespace NodeFollow

variable {s : List Char}

/-- What follows a node starts with a blank, a dash followed by a dash or a dot, or an equals
sign; a dash only when a dash link follows. -/
theorem cases (h : NodeFollow s) : s = [] ∨ ∃ c r, s = c :: r ∧ c ∈ " \t-=".toList ∧
    (c = '-' → (∃ d r', r = d :: r' ∧ (d = '-' ∨ d = '.')) ∧
      ∃ (l : LinkText) (r' : List Char), s = l.text ++ r' ∧ l.startsWithDash = true) := by
  rcases h with rfl | ⟨c, r, rfl, hc⟩ | ⟨l, r, rfl⟩
  · exact .inl rfl
  · have hc' : c = ' ' ∨ c = '\t' := by simpa [isInlineBlank] using hc
    refine .inr ⟨c, r, rfl, by rcases hc' with rfl | rfl <;> decide, ?_⟩
    rintro rfl
    rcases hc' with h | h <;> exact absurd h (by decide)
  · obtain ⟨c, d, r', hl, hcd⟩ := l.text_start
    rw [hl]
    refine .inr ⟨c, d :: (r' ++ r), rfl, ?_, ?_⟩
    · rcases hcd with ⟨rfl, -⟩ | ⟨rfl, -⟩ <;> decide
    · rintro rfl
      rcases hcd with ⟨-, hd, hdash⟩ | ⟨h, -⟩
      · exact ⟨⟨d, _, rfl, hd⟩, l, r, by rw [hl], hdash⟩
      · exact absurd h (by decide)

theorem idStop (h : NodeFollow s) : IdStop s := by
  rcases h.cases with rfl | ⟨c, r, rfl, hc, hdash⟩
  · trivial
  · refine ⟨(follow_chars c hc).1, fun hj => ?_⟩
    have hc' : c = '-' := by
      rcases hj with rfl | rfl
      · rfl
      · exact absurd hc (by decide)
    obtain ⟨⟨d, r', rfl, hd⟩, -⟩ := hdash hc'
    intro d' r'' h
    simp only [List.cons.injEq] at h
    obtain ⟨rfl, rfl⟩ := h
    rcases hd with rfl | rfl <;> rfl

theorem not_opener (h : NodeFollow s) : ∀ x ∈ openerStarts, ∀ r, s ≠ x :: r := by
  rintro x hx r' rfl
  rcases h.cases with h | ⟨c, r, h, hc, -⟩
  · exact List.cons_ne_nil _ _ h
  · simp only [List.cons.injEq] at h
    obtain ⟨rfl, -⟩ := h
    exact (follow_chars x hc).2.2.1 hx

theorem not_colon (h : NodeFollow s) : ∀ r, s ≠ ':' :: r := by
  rintro r' rfl
  rcases h.cases with h | ⟨c, r, h, hc, -⟩
  · exact List.cons_ne_nil _ _ h
  · simp only [List.cons.injEq] at h
    obtain ⟨rfl, -⟩ := h
    exact (follow_chars ':' hc).2.1 rfl

/-- After a class name only a link without a leading dash, a blank or nothing may come. -/
theorem classStop (h : NodeFollow s)
    (hdash : ∀ (l : LinkText) (r : List Char), s = l.text ++ r → l.startsWithDash = false) :
    ∀ c r, s = c :: r → isClassChar c = false := by
  rintro c' r' rfl
  rcases h.cases with h | ⟨c, r, h, hc, hlink⟩
  · exact absurd h (List.cons_ne_nil _ _)
  · simp only [List.cons.injEq] at h
    obtain ⟨rfl, rfl⟩ := h
    refine (follow_chars c' hc).2.2.2 fun hc' => ?_
    obtain ⟨-, l, r, hl, hdash'⟩ := hlink hc'
    rw [hdash l r hl] at hdash'
    exact Bool.false_ne_true hdash'

end NodeFollow

theorem idStop_cons {x : Char} (hw : isWordChar x = false) (hj : x ≠ '-' ∧ x ≠ '.')
    (r : List Char) : IdStop (x :: r) :=
  ⟨hw, fun h => by rcases h with rfl | rfl <;> simp at hj⟩

/-- What follows the id of a node reference stops it: an opening character, a class suffix, or
what may follow a node. -/
theorem idStop_after_id (shape : Option (Fin delimiters.length × List Char))
    (cls : Option (List Char)) {rest : List Char} (hf : NodeFollow rest) :
    IdStop (shapeText shape ++ (classText cls ++ rest)) := by
  cases shape with
  | some p =>
    obtain ⟨hne, -, hfirst, -⟩ := delimiters_openers _ (List.get_mem delimiters p.1)
    obtain ⟨x, xs, hxs⟩ := List.exists_cons_of_ne_nil hne
    have hx := openerStarts_stop x (hfirst x (by rw [hxs]; exact List.mem_singleton_self x))
    obtain ⟨k, t⟩ := p
    simp only [shapeText, hxs, List.cons_append, List.append_assoc]
    exact idStop_cons hx.1 ⟨hx.2.1, hx.2.2.1⟩ _
  | none =>
    cases cls with
    | none => exact hf.idStop
    | some n => exact idStop_cons (by decide) ⟨by decide, by decide⟩ _

/-- The shape part of a node reference is read as written. -/
theorem shapeAndLabel_shapeText (shape : Option (Fin delimiters.length × List Char))
    (hlabel : ∀ p ∈ shape, LabelText p.2) {rest : List Char}
    (hnone : shape = none → shapeAndLabel rest = none)
    (htrap : ∀ t, shape = some (⟨6, by decide⟩, t) → breakAt ['/', ']'] rest = none) :
    shapeAndLabel (shapeText shape ++ rest) =
      shape.map fun p => ((p.2, (delimiters.get p.1).2.2), rest) := by
  cases shape with
  | none => exact hnone rfl
  | some p =>
    obtain ⟨k, t⟩ := p
    refine shapeAndLabel_text k (hlabel _ rfl) rest fun hk => htrap t ?_
    rw [show k = ⟨6, by decide⟩ from Fin.ext hk]

/-- The class part of a node reference is read as written. -/
theorem classSuffix_classText (cls : Option (List Char)) (hname : ∀ n ∈ cls, ClassName n)
    {rest : List Char} (hnone : ∀ r, rest ≠ ':' :: r)
    (hstop : cls.isSome → ∀ c r, rest = c :: r → isClassChar c = false) :
    classSuffix (classText cls ++ rest) = cls.map fun n => (n, rest) := by
  cases cls with
  | none => exact classSuffix_eq_none hnone
  | some n => exact classSuffix_text (hname n rfl) (hstop rfl)

/-- A node reference is read whole when what follows it may follow a node: after a class
name no dash link, after a trapezoid no `/]`. -/
theorem nodeRef_text (r : RefText) {rest : List Char} (hf : NodeFollow rest)
    (hdash : r.cls.isSome → ∀ (l : LinkText) (s : List Char), rest = l.text ++ s →
      l.startsWithDash = false)
    (htrap : r.IsTrapezoid → breakAt ['/', ']'] rest = none) :
    nodeRef (r.text ++ rest) = some (r.meaning, rest) := by
  obtain ⟨i, shape, cls, hlabel, hname⟩ := r
  have hcls := classSuffix_classText cls hname hf.not_colon fun h => hf.classStop (hdash h)
  -- without a class, what follows the shape is what follows the node
  have hafter : ∀ x ∈ openerStarts, ∀ r, classText cls ++ rest ≠ x :: r := by
    cases cls with
    | none => exact hf.not_opener
    | some n =>
      rintro x hx r h
      simp only [classText, List.cons_append, List.cons.injEq] at h
      exact (openerStarts_stop x hx).2.2.2.1 h.1.symm
  have hsh : shapeAndLabel (shapeText shape ++ (classText cls ++ rest)) =
      shape.map fun p => ((p.2, (delimiters.get p.1).2.2), classText cls ++ rest) :=
    shapeAndLabel_shapeText shape hlabel (fun _ => shapeAndLabel_eq_none hafter) fun t ht => by
      have hnoslash : '/' ∉ classText cls := by
        cases cls with
        | none => exact List.not_mem_nil
        | some n =>
          intro h
          simp only [classText, List.mem_cons] at h
          rcases h with h | h | h | h
          · exact absurd h (by decide)
          · exact absurd h (by decide)
          · exact absurd h (by decide)
          · have := (hname n rfl).2 _ h
            revert this
            decide
      rw [breakAt_append_of_not_mem _ hnoslash, htrap ⟨t, ht⟩]
      rfl
  have hid := identifier_text i (idStop_after_id shape cls hf)
  unfold nodeRef
  rw [RefText.text, List.append_assoc, List.append_assoc, hid, Option.bind_eq_bind,
    Option.bind_some]
  dsimp only
  rw [hsh]
  cases shape <;> cases cls <;>
    simp only [Option.map_none, Option.map_some, shapeText, List.nil_append, hcls] <;> rfl

/-! ### Links -/

/-- None of the characters that shape an arrow is a space or alphanumeric. -/
theorem arrow_chars : ∀ c ∈ "-.=>".toList, c ≠ ' ' ∧ Text.isAlphanumeric c = false := by
  decide +kernel

namespace LinkWords

variable {q : List Char}

theorem not_arrow (hq : LinkWords q) : ∀ c ∈ q, c ∉ "-.=>".toList := by
  intro c hc harrow
  rcases hq.1 c hc with h | h
  · exact (arrow_chars c harrow).1 h
  · rw [(arrow_chars c harrow).2] at h
    exact Bool.false_ne_true h

/-- Link words start with a space or an alphanumeric character, not with an arrow's. -/
theorem exists_cons (hq : LinkWords q) : ∃ x q', q = x :: q' ∧ x ∉ "-.=>".toList := by
  obtain ⟨c, hc, -⟩ := hq.2
  obtain ⟨x, q', rfl⟩ := List.exists_cons_of_ne_nil (List.ne_nil_of_mem hc)
  exact ⟨x, q', rfl, hq.not_arrow x (List.mem_cons_self ..)⟩

/-- The blanks before link words are spaces, and the words are not only spaces. -/
theorem skipInline_append (hq : LinkWords q) (s : List Char) :
    skipInline (q ++ s) = q.dropWhile (· == ' ') ++ s ∧ q.dropWhile (· == ' ') ≠ [] := by
  obtain ⟨hchars, hword⟩ := hq
  induction q with
  | nil => simp at hword
  | cons c q ih =>
    by_cases hc : c = ' '
    · subst hc
      have hword' : ∃ x ∈ q, x ≠ ' ' := by
        obtain ⟨x, hx, hne⟩ := hword
        exact ⟨x, (List.mem_cons.1 hx).resolve_left hne, hne⟩
      rw [List.cons_append, skipInline, List.dropWhile_cons_of_pos rfl,
        List.dropWhile_cons_of_pos (by decide)]
      exact ih (fun x hx => hchars x (List.mem_cons_of_mem _ hx)) hword'
    · have halnum : Text.isAlphanumeric c = true := (hchars c (List.mem_cons_self ..)).resolve_left hc
      have hblank : isInlineBlank c = false := by
        have htab : c ≠ '\t' := by
          rintro rfl
          exact absurd halnum (by decide)
        simp [isInlineBlank, hc, htab]
      rw [List.cons_append, skipInline_cons hblank,
        List.dropWhile_cons_of_neg (by simpa using hc)]
      exact ⟨rfl, List.cons_ne_nil _ _⟩

end LinkWords

theorem takeUntil_append_of_not_mem {p : Char} {ps : List Char} :
    ∀ {t : List Char} (s : List Char), p ∉ t →
      takeUntil (p :: ps) (t ++ s) = (t ++ (takeUntil (p :: ps) s).1, (takeUntil (p :: ps) s).2)
  | [], _, _ => rfl
  | c :: t, s, ht => by
    have hc : c ≠ p := fun h => ht (h ▸ List.mem_cons_self ..)
    have hnot : (p :: ps).isPrefixOf (c :: (t ++ s)) = false := by
      simp [List.isPrefixOf, hc.symm]
    rw [List.cons_append, takeUntil, if_neg (by rw [hnot]; exact Bool.false_ne_true),
      takeUntil_append_of_not_mem s fun h => ht (List.mem_cons_of_mem _ h)]
    rfl

theorem takeUntil_of_prefix {stop s : List Char} (hne : stop ≠ []) (h : stop <+: s) :
    takeUntil stop s = ([], s) := by
  cases s with
  | nil => exact absurd (List.prefix_nil.1 h) hne
  | cons c s => rw [takeUntil, if_pos (List.isPrefixOf_iff_prefix.2 h)]

theorem inlineText_of_takeUntil {stop : String} {s t r : List Char}
    (h : takeUntil stop.toList s = (t, r)) (ht : t ≠ []) : inlineText stop s = some (t, r) := by
  unfold inlineText
  rw [h]
  simp [ht]

theorem solidArrow_text (n : Nat) (s : List Char) :
    solidArrow ('-' :: '-' :: List.replicate n '-' ++ '>' :: s) = some s := by
  have hdrop : (List.replicate n '-' ++ '>' :: s).dropWhile (· == '-') = '>' :: s := by
    rw [List.dropWhile_append_of_pos (by simp), List.dropWhile_cons_of_neg (by decide)]
  unfold solidArrow
  rw [show '-' :: '-' :: List.replicate n '-' ++ '>' :: s = "--".toList ++ (List.replicate n '-' ++ '>' :: s) from rfl, expect_append,
    Option.bind_eq_bind, Option.bind_some, hdrop]
  rfl

theorem thickArrow_text (n : Nat) (s : List Char) :
    thickArrow ('=' :: '=' :: List.replicate n '=' ++ '>' :: s) = some s := by
  have hdrop : (List.replicate n '=' ++ '>' :: s).dropWhile (· == '=') = '>' :: s := by
    rw [List.dropWhile_append_of_pos (by simp), List.dropWhile_cons_of_neg (by decide)]
  unfold thickArrow
  rw [show '=' :: '=' :: List.replicate n '=' ++ '>' :: s = "==".toList ++ (List.replicate n '=' ++ '>' :: s) from rfl, expect_append,
    Option.bind_eq_bind, Option.bind_some, hdrop]
  rfl

theorem dottedArrow_text (n : Nat) (s : List Char) :
    dottedArrow ('-' :: '.' :: List.replicate n '.' ++ '-' :: '>' :: s) = some s := by
  have hdrop : (List.replicate n '.' ++ '-' :: '>' :: s).dropWhile (· == '.') = '-' :: '>' :: s := by
    rw [List.dropWhile_append_of_pos (by simp), List.dropWhile_cons_of_neg (by decide)]
  unfold dottedArrow
  rw [show '-' :: '.' :: List.replicate n '.' ++ '-' :: '>' :: s = "-.".toList ++ (List.replicate n '.' ++ '-' :: '>' :: s) from rfl, expect_append,
    Option.bind_eq_bind, Option.bind_some, hdrop]
  rfl

/-- An arrow test fails on link words: they start with none of the arrow's characters. -/
theorem arrow_eq_none_of_words {q : List Char} (hq : LinkWords q) (lit : String) (s : List Char)
    (hlit : ∃ c cs, lit.toList = c :: cs ∧ c ∈ "-.=>".toList) (p : Char → Bool)
    (hp : ∀ c, c ∉ "-.=>".toList → p c = false) :
    expect lit ((q ++ s).dropWhile p) = none := by
  obtain ⟨x, q', rfl, hx⟩ := hq.exists_cons
  obtain ⟨c, cs, hlit, hc⟩ := hlit
  refine expect_eq_none fun h => hx ?_
  rw [List.cons_append, List.dropWhile_cons_of_neg (by rw [hp x hx]; exact Bool.false_ne_true),
    hlit] at h
  exact (List.cons_prefix_cons.1 h).1 ▸ hc

/-- A labelled link reads its opening, the words up to the stop, and its closing. -/
theorem labeledLink_text {opening stop : String} {close : List Char → Option (List Char)}
    {style : EdgeStyle} {q x t r s : List Char} (hq : LinkWords q)
    (htake : takeUntil stop.toList (q.dropWhile (· == ' ') ++ x) = (t, r)) (ht : t ≠ [])
    (hclose : close r = some s) :
    labeledLink opening stop close style (opening.toList ++ (q ++ x)) =
      some ({ style, label := some (String.ofList t) }, s) := by
  unfold labeledLink
  rw [expect_append, Option.bind_eq_bind, Option.bind_some, (hq.skipInline_append x).1,
    inlineText_of_takeUntil htake ht]
  simp only [Option.bind_eq_bind, Option.bind_some, hclose]
  rfl

theorem labeledLink_eq_none {opening stop : String} {close : List Char → Option (List Char)}
    {style : EdgeStyle} {s : List Char} (h : expect opening s = none) :
    labeledLink opening stop close style s = none := by
  unfold labeledLink
  rw [h]
  rfl

/-- The words of a labelled link up to a stop whose first character they do not hold. -/
theorem takeUntil_words {q : List Char} (hq : LinkWords q) {p : Char} (hp : p ∈ "-.=>".toList)
    (ps s : List Char) (hs : p :: ps <+: s) :
    takeUntil (p :: ps) (q.dropWhile (· == ' ') ++ s) = (q.dropWhile (· == ' '), s) := by
  have hnot : p ∉ q.dropWhile (· == ' ') := fun h =>
    hq.not_arrow p ((List.dropWhile_sublist _).subset h) hp
  rw [takeUntil_append_of_not_mem s hnot, takeUntil_of_prefix (List.cons_ne_nil _ _) hs]
  simp

/-- A character that shapes no arrow is neither a dash, a dot nor an equals sign. -/
theorem beq_eq_false_of_not_arrow {p : Char} (hp : p ∈ "-.=>".toList) :
    ∀ c, c ∉ "-.=>".toList → (c == p) = false := by
  intro c hc
  rw [beq_eq_false_iff_ne]
  rintro rfl
  exact hc hp

/-- Every written link closed as documented is read as its meaning, whatever follows it. -/
theorem link_text (l : LinkText) (hl : l.SingleDot) (s : List Char) :
    link (l.text ++ s) = some (l.meaning, s) := by
  unfold link
  cases l with
  | solid n =>
    have h : (LinkText.solid n).text ++ s = '-' :: '-' :: List.replicate n '-' ++ '>' :: s := by
      simp [LinkText.text]
    rw [h, solidArrow_text]
    rfl
  | thick n =>
    have h : (LinkText.thick n).text ++ s = '=' :: '=' :: List.replicate n '=' ++ '>' :: s := by
      simp [LinkText.text]
    rw [h, thickArrow_text]
    rfl
  | dotted n =>
    have h : (LinkText.dotted n).text ++ s =
        '-' :: '.' :: List.replicate n '.' ++ '-' :: '>' :: s := by
      simp [LinkText.text]
    rw [h, dottedArrow_text]
    rfl
  | solidLabeled q hq n =>
    have h : (LinkText.solidLabeled q hq n).text ++ s =
        "--".toList ++ (q ++ ('-' :: '-' :: List.replicate n '-' ++ '>' :: s)) := by
      simp [LinkText.text]
    -- the plain solid arrow would need a `>` where the words start
    have hsolid : solidArrow ("--".toList ++ (q ++ ('-' :: '-' :: List.replicate n '-' ++ '>' :: s)))
        = none := by
      unfold solidArrow
      rw [expect_append, Option.bind_eq_bind, Option.bind_some]
      exact arrow_eq_none_of_words hq ">" _ ⟨'>', [], rfl, by decide⟩ _
        (beq_eq_false_of_not_arrow (by decide))
    have htake : takeUntil "--".toList (q.dropWhile (· == ' ') ++
        ('-' :: '-' :: List.replicate n '-' ++ '>' :: s)) =
        (q.dropWhile (· == ' '), '-' :: '-' :: List.replicate n '-' ++ '>' :: s) :=
      takeUntil_words hq (p := '-') (by decide) ['-'] _ ⟨List.replicate n '-' ++ '>' :: s, rfl⟩
    have hlabel : labeledLink "--" "--" solidArrow .solid
        ("--".toList ++ (q ++ ('-' :: '-' :: List.replicate n '-' ++ '>' :: s))) =
        some ((LinkText.solidLabeled q hq n).meaning, s) :=
      labeledLink_text hq htake (hq.skipInline_append []).2 (solidArrow_text n s)
    rw [h, hsolid, hlabel]
    rfl
  | thickLabeled q hq n =>
    have h : (LinkText.thickLabeled q hq n).text ++ s =
        "==".toList ++ (q ++ ('=' :: '=' :: List.replicate n '=' ++ '>' :: s)) := by
      simp [LinkText.text]
    have hthick : thickArrow ("==".toList ++ (q ++ ('=' :: '=' :: List.replicate n '=' ++ '>' :: s)))
        = none := by
      unfold thickArrow
      rw [expect_append, Option.bind_eq_bind, Option.bind_some]
      exact arrow_eq_none_of_words hq ">" _ ⟨'>', [], rfl, by decide⟩ _
        (beq_eq_false_of_not_arrow (by decide))
    have htake : takeUntil "==".toList (q.dropWhile (· == ' ') ++
        ('=' :: '=' :: List.replicate n '=' ++ '>' :: s)) =
        (q.dropWhile (· == ' '), '=' :: '=' :: List.replicate n '=' ++ '>' :: s) :=
      takeUntil_words hq (p := '=') (by decide) ['='] _ ⟨List.replicate n '=' ++ '>' :: s, rfl⟩
    have hlabel : labeledLink "==" "==" thickArrow .thick
        ("==".toList ++ (q ++ ('=' :: '=' :: List.replicate n '=' ++ '>' :: s))) =
        some ((LinkText.thickLabeled q hq n).meaning, s) :=
      labeledLink_text hq htake (hq.skipInline_append []).2 (thickArrow_text n s)
    rw [h, hthick, labeledLink_eq_none rfl, labeledLink_eq_none rfl, hlabel]
    rfl
  | dottedLabeled q hq n =>
    -- with a single closing dot the label runs to the `.-` that closes the link
    obtain rfl : n = 0 := hl
    have h : (LinkText.dottedLabeled q hq 0).text ++ s =
        "-.".toList ++ (q ++ ('.' :: '-' :: '>' :: s)) := by
      simp [LinkText.text]
    have hdotted : dottedArrow ("-.".toList ++ (q ++ ('.' :: '-' :: '>' :: s))) = none := by
      unfold dottedArrow
      rw [expect_append, Option.bind_eq_bind, Option.bind_some]
      exact arrow_eq_none_of_words hq "->" _ ⟨'-', ['>'], rfl, by decide⟩ _
        (beq_eq_false_of_not_arrow (by decide))
    have htake : takeUntil ".-".toList (q.dropWhile (· == ' ') ++ ('.' :: '-' :: '>' :: s)) =
        (q.dropWhile (· == ' '), '.' :: '-' :: '>' :: s) :=
      takeUntil_words hq (p := '.') (by decide) ['-'] _ ⟨'>' :: s, rfl⟩
    have hlabel : labeledLink "-." ".-" dottedClose .dotted
        ("-.".toList ++ (q ++ ('.' :: '-' :: '>' :: s))) =
        some ((LinkText.dottedLabeled q hq 0).meaning, s) :=
      labeledLink_text hq htake (hq.skipInline_append []).2
        (show dottedClose ('.' :: '-' :: '>' :: s) = some s from rfl)
    rw [h, hdotted, labeledLink_eq_none rfl, hlabel]
    rfl

/-! ### Segments -/

theorem RefText.text_cons (r : RefText) :
    ∃ c cs, r.text = c :: cs ∧ isInlineBlank c = false ∧ c ≠ '|' := by
  obtain ⟨hne, hw⟩ := r.id.first_word
  obtain ⟨c, w, hfirst⟩ := List.exists_cons_of_ne_nil hne
  have hc := hw c (hfirst ▸ List.mem_cons_self ..)
  refine ⟨c, _, by rw [RefText.text, IdText.text, hfirst]; rfl, ?_, ?_⟩
  · cases hb : isInlineBlank c
    · rfl
    · have hc' : c = ' ' ∨ c = '\t' := by simpa [isInlineBlank] using hb
      rcases hc' with rfl | rfl <;> exact absurd hc (by decide)
  · rintro rfl
    exact absurd hc (by decide)

theorem LinkText.text_not_blank (l : LinkText) :
    ∃ c cs, l.text = c :: cs ∧ isInlineBlank c = false := by
  obtain ⟨c, d, r, hl, hcd⟩ := l.text_start
  refine ⟨c, d :: r, hl, ?_⟩
  rcases hcd with ⟨rfl, -⟩ | ⟨rfl, -⟩ <;> rfl

theorem pipeLabel_text {p : List Char} (hp : '|' ∉ p) (s : List Char) :
    pipeLabel (pipeText (some p) ++ s) = some (p, s) := by
  have hspan : (p ++ '|' :: s).span (· != '|') = (p, '|' :: s) := by
    have hall : ∀ c ∈ p, (c != '|') = true := fun c hc => by
      simp only [bne_iff_ne, ne_eq]
      rintro rfl
      exact hp hc
    rw [List.span_eq_takeWhile_dropWhile, List.takeWhile_append_of_pos hall,
      List.dropWhile_append_of_pos hall, List.takeWhile_cons_of_neg (by decide),
      List.dropWhile_cons_of_neg (by decide), List.append_nil]
  unfold pipeLabel
  rw [show pipeText (some p) ++ s = "|".toList ++ (p ++ '|' :: s) by simp [pipeText],
    expect_append, Option.bind_eq_bind, Option.bind_some]
  simp only [hspan]
  rw [show '|' :: s = "|".toList ++ s from rfl, expect_append]
  rfl

theorem pipeLabel_eq_none {s : List Char} (h : ∀ r, s ≠ '|' :: r) : pipeLabel s = none := by
  have hnot : ¬ "|".toList <+: s := by
    rintro ⟨r, hr⟩
    exact h r hr.symm
  unfold pipeLabel
  rw [expect_eq_none hnot]
  rfl

/-- A segment is read whole, its `|text|` replacing the link's label, when what follows its
node may follow a node. -/
theorem segment_text (sg : SegmentText) (hdot : sg.link.SingleDot) {rest : List Char}
    (hf : NodeFollow rest) (hdash : sg.target.cls.isSome → ∀ (l : LinkText) (s : List Char), rest = l.text ++ s →
      l.startsWithDash = false)
    (htrap : sg.target.IsTrapezoid → breakAt ['/', ']'] rest = none) :
    segment (sg.text ++ rest) = some (sg.meaning, rest) := by
  obtain ⟨lead, lk, mid, pipe, gap, target, hlead, hmid, hgap, hpipe⟩ := sg
  obtain ⟨c, cs, htext, hcb, hcbar⟩ := target.text_cons
  obtain ⟨d, ds, hltext, hdb⟩ := lk.text_not_blank
  have hnode := nodeRef_text target hf hdash htrap
  -- blanks before the node are skipped, and the node does not start a `|text|`
  have hnodeStart : skipInline (target.text ++ rest) = target.text ++ rest := by
    rw [htext, List.cons_append, skipInline_cons hcb]
  have hgap' : skipInline (gap ++ (target.text ++ rest)) = target.text ++ rest := by
    rw [skipInline_blanks_append hgap, hnodeStart]
  have hlink : skipInline (lead ++ (lk.text ++ (mid ++ (pipeText pipe ++
      (gap ++ (target.text ++ rest)))))) =
      lk.text ++ (mid ++ (pipeText pipe ++ (gap ++ (target.text ++ rest)))) := by
    rw [skipInline_blanks_append hlead, hltext, List.cons_append, skipInline_cons hdb]
  unfold segment
  simp only [SegmentText.text, List.append_assoc]
  rw [hlink, link_text lk hdot, Option.bind_eq_bind, Option.bind_some]
  dsimp only
  rw [skipInline_blanks_append hmid]
  cases pipe with
  | none =>
    rw [show pipeText none = [] from rfl, List.nil_append, hgap',
      pipeLabel_eq_none (by rw [htext]; rintro r h; exact hcbar (List.cons.inj h).1)]
    dsimp only
    rw [hnodeStart, hnode]
    rfl
  | some p =>
    have hbar : skipInline (pipeText (some p) ++ (gap ++ (target.text ++ rest))) =
        pipeText (some p) ++ (gap ++ (target.text ++ rest)) := by
      rw [show pipeText (some p) = '|' :: (p ++ ['|']) from rfl, List.cons_append,
        skipInline_cons (by decide)]
    rw [hbar, pipeLabel_text (hpipe p rfl)]
    dsimp only
    rw [hgap', hnode]
    rfl

/-! ### Chains -/

/-- What ends a statement: nothing, or a blank. -/
def Quiet (s : List Char) : Prop := s = [] ∨ ∃ c r, s = c :: r ∧ isInlineBlank c = true

theorem Quiet.nodeFollow {s : List Char} (h : Quiet s) : NodeFollow s := by
  rcases h with h | h
  · exact .inl h
  · exact .inr (.inl h)

theorem Quiet.not_link {s : List Char} (h : Quiet s) (l : LinkText) (x : List Char) :
    s ≠ l.text ++ x := by
  obtain ⟨c, cs, hl, hc⟩ := l.text_not_blank
  rw [hl]
  rcases h with rfl | ⟨d, r, rfl, hd⟩
  · exact fun h => List.cons_ne_nil c (cs ++ x) h.symm
  · intro h
    rw [List.cons_append, List.cons.injEq] at h
    rw [h.1, hc] at hd
    exact Bool.false_ne_true hd

/-- The first character of a link says whether it starts with a dash. -/
theorem LinkText.startsWithDash_eq {l l' : LinkText} {x y : List Char}
    (h : l.text ++ x = l'.text ++ y) : l.startsWithDash = l'.startsWithDash := by
  obtain ⟨c, d, r, hl, hcd⟩ := l.text_start
  obtain ⟨c', d', r', hl', hcd'⟩ := l'.text_start
  rw [hl, hl'] at h
  simp only [List.cons_append, List.cons.injEq] at h
  rcases hcd with ⟨rfl, -, h₁⟩ | ⟨rfl, -, h₁⟩ <;> rcases hcd' with ⟨hc, -, h₂⟩ | ⟨hc, -, h₂⟩ <;>
    rw [h₁, h₂] <;> first | rfl | (rw [← h.1] at hc; exact absurd hc (by decide))

/-- A segment may follow a node: it starts with a blank or with its link. -/
theorem SegmentText.follow (sg : SegmentText) (x : List Char) : NodeFollow (sg.text ++ x) := by
  cases hlead : sg.lead with
  | nil =>
    refine .inr (.inr ⟨sg.link, sg.mid ++ pipeText sg.pipe ++ sg.gap ++ sg.target.text ++ x, ?_⟩)
    simp [SegmentText.text, hlead]
  | cons c r =>
    refine .inr (.inl ⟨c, r ++ sg.link.text ++ sg.mid ++ pipeText sg.pipe ++ sg.gap ++
      sg.target.text ++ x, by simp [SegmentText.text, hlead], ?_⟩)
    exact sg.lead_blanks c (by rw [hlead]; exact List.mem_cons_self ..)

/-- A segment after a class name starts with a link without a dash, or with a blank. -/
theorem SegmentText.dash_of_spaced (sg : SegmentText) {x : List Char}
    (h : sg.link.startsWithDash = true → sg.lead ≠ []) (l : LinkText) (y : List Char)
    (hl : sg.text ++ x = l.text ++ y) : l.startsWithDash = false := by
  cases hlead : sg.lead with
  | nil =>
    have heq : sg.link.text ++ (sg.mid ++ pipeText sg.pipe ++ sg.gap ++ sg.target.text ++ x) =
        l.text ++ y := by
      rw [← hl]
      simp [SegmentText.text, hlead]
    rw [← LinkText.startsWithDash_eq heq]
    cases hdash : sg.link.startsWithDash
    · rfl
    · exact absurd hlead (h hdash)
  | cons c r =>
    have hblank := sg.lead_blanks c (by rw [hlead]; exact List.mem_cons_self ..)
    have hquiet : Quiet (sg.text ++ x) :=
      .inr ⟨c, r ++ (sg.link.text ++ (sg.mid ++ (pipeText sg.pipe ++ (sg.gap ++
        (sg.target.text ++ x))))), by simp [SegmentText.text, hlead], hblank⟩
    exact absurd hl (hquiet.not_link l y)

theorem flatMap_follow {rest : List Char} (hf : NodeFollow rest) :
    ∀ segs : List SegmentText, NodeFollow (segs.flatMap SegmentText.text ++ rest)
  | [] => hf
  | sg :: more => by
    rw [List.flatMap_cons, List.append_assoc]
    exact sg.follow _

theorem TrapezoidsClear.head {r : RefText} {segs : List SegmentText} {rest : List Char}
    (h : TrapezoidsClear r segs rest) :
    r.IsTrapezoid → breakAt ['/', ']'] (segs.flatMap SegmentText.text ++ rest) = none := by
  cases segs with
  | nil => exact fun ht => breakAt_eq_none_of_not_infix (h ht)
  | cons sg more => exact fun ht => breakAt_eq_none_of_not_infix (h.1 ht)

theorem DashLinksSpaced.head {r : RefText} {segs : List SegmentText} {rest : List Char}
    (h : DashLinksSpaced r segs) (hquiet : Quiet rest) :
    r.cls.isSome → ∀ (l : LinkText) (y : List Char),
      segs.flatMap SegmentText.text ++ rest = l.text ++ y → l.startsWithDash = false := by
  intro hcls l y hl
  cases segs with
  | nil => exact absurd hl (hquiet.not_link l y)
  | cons sg more =>
    rw [List.flatMap_cons, List.append_assoc] at hl
    exact sg.dash_of_spaced (h.1 hcls) l y hl

theorem expect_eq_none_of_head {lit : String} {x : Char} {xs s : List Char}
    (hlit : lit.toList = x :: xs) (h : ∀ r, s ≠ x :: r) : expect lit s = none := by
  refine expect_eq_none fun ⟨r, hr⟩ => h (xs ++ r) ?_
  rw [← hr, hlit]
  rfl

/-- Nothing is a link unless it starts with a dash or an equals sign. -/
theorem link_eq_none {s : List Char} (hdash : ∀ r, s ≠ '-' :: r) (heq : ∀ r, s ≠ '=' :: r) :
    link s = none := by
  have hsolid : solidArrow s = none := by
    unfold solidArrow
    rw [expect_eq_none_of_head rfl hdash]
    rfl
  have hthick : thickArrow s = none := by
    unfold thickArrow
    rw [expect_eq_none_of_head rfl heq]
    rfl
  have hdotted : dottedArrow s = none := by
    unfold dottedArrow
    rw [expect_eq_none_of_head rfl hdash]
    rfl
  unfold link
  rw [hsolid, hthick, hdotted, labeledLink_eq_none (expect_eq_none_of_head rfl hdash),
    labeledLink_eq_none (expect_eq_none_of_head rfl hdash),
    labeledLink_eq_none (expect_eq_none_of_head rfl heq)]
  rfl

/-- The end of a chain, blanks and perhaps a colour class, starts no segment. -/
theorem segment_tail (tail : Option (List Char × List Char)) {trail : List Char}
    (htail : ∀ p ∈ tail, p.1 ≠ [] ∧ Blanks p.1 ∧ ClassName p.2) (htrail : Blanks trail) :
    segment (tailText tail ++ trail) = none := by
  have hstart : skipInline (tailText tail ++ trail) = [] ∨
      ∃ r, skipInline (tailText tail ++ trail) = ':' :: r := by
    cases tail with
    | none =>
      left
      rw [show tailText none = [] from rfl, List.nil_append, ← List.append_nil trail,
        skipInline_blanks_append htrail]
      rfl
    | some p =>
      obtain ⟨b, n⟩ := p
      right
      refine ⟨':' :: ':' :: (n ++ trail), ?_⟩
      rw [show tailText (some (b, n)) = b ++ ':' :: ':' :: ':' :: n from rfl, List.append_assoc,
        skipInline_blanks_append (htail _ rfl).2.1]
      exact skipInline_cons (by decide) _
  have hlink : link (skipInline (tailText tail ++ trail)) = none := by
    refine link_eq_none ?_ ?_ <;>
    · intro r h
      rcases hstart with h' | ⟨r', h'⟩ <;> rw [h'] at h
      · exact List.cons_ne_nil _ _ h.symm
      · exact absurd (List.cons.inj h).1 (by decide)
  unfold segment
  rw [hlink]
  rfl

/-- The segments of a chain are read one by one, with fuel to spare. -/
theorem segments_text {rest : List Char} (hquiet : Quiet rest) (hend : segment rest = none) :
    ∀ (r : RefText) (segs : List SegmentText) (fuel : Nat), segs.length < fuel →
      TrapezoidsClear r segs rest → DashLinksSpaced r segs → (∀ sg ∈ segs, sg.link.SingleDot) →
      segments fuel (segs.flatMap SegmentText.text ++ rest) = (segs.map SegmentText.meaning, rest)
  | _, [], 0, hlen, _, _, _ => absurd hlen (Nat.lt_irrefl 0)
  | _, [], fuel + 1, _, _, _, _ => by
    rw [List.flatMap_nil, List.nil_append, segments, hend]
    rfl
  | _, sg :: more, 0, hlen, _, _, _ => absurd hlen (Nat.not_lt_zero _)
  | _, sg :: more, fuel + 1, hlen, htrap, hdash, hdot => by
    have hseg := segment_text sg (hdot sg List.mem_cons_self)
      (flatMap_follow hquiet.nodeFollow more) (hdash.2.head hquiet) htrap.2.head
    rw [List.flatMap_cons, List.append_assoc, segments, hseg]
    dsimp only
    rw [segments_text hquiet hend sg.target more fuel (by simpa using hlen) htrap.2 hdash.2
      fun x hx => hdot x (List.mem_cons_of_mem _ hx)]
    rfl

/-! ### Statements -/

theorem skipInline_blanks {b : List Char} (hb : Blanks b) : skipInline b = [] := by
  rw [← List.append_nil b, skipInline_blanks_append hb]
  rfl

theorem Blanks.quiet {b : List Char} (hb : Blanks b) : Quiet b := by
  cases b with
  | nil => exact .inl rfl
  | cons c r => exact .inr ⟨c, r, rfl, hb c (List.mem_cons_self ..)⟩

/-- Each segment takes at least one character, so a run of segments is no shorter than their
number. -/
theorem length_le_flatMap_text : ∀ segs : List SegmentText,
    segs.length ≤ (segs.flatMap SegmentText.text).length
  | [] => Nat.le_refl 0
  | sg :: more => by
    obtain ⟨c, cs, hl, -⟩ := sg.link.text_not_blank
    have hpos : 1 ≤ sg.text.length := by
      simp only [SegmentText.text, List.length_append, hl, List.length_cons]
      omega
    rw [List.flatMap_cons, List.length_append, List.length_cons]
    have := length_le_flatMap_text more
    omega

/-- The end of a chain: the colour class after it if written, and then only blanks. -/
theorem tail_end (tail : Option (List Char × List Char)) {trail : List Char}
    (htail : ∀ p ∈ tail, p.1 ≠ [] ∧ Blanks p.1 ∧ ClassName p.2) (htrail : Blanks trail) :
    classSuffix (skipInline (tailText tail ++ trail)) = tail.map (fun p => (p.2, trail)) ∧
      (tail = none → skipInline (tailText tail ++ trail) = []) := by
  cases tail with
  | none =>
    have hskip : skipInline (tailText none ++ trail) = [] := skipInline_blanks htrail
    exact ⟨by rw [hskip]; exact classSuffix_eq_none fun r h => List.cons_ne_nil _ _ h.symm,
      fun _ => hskip⟩
  | some p =>
    obtain ⟨b, n⟩ := p
    obtain ⟨-, hb, hn⟩ := htail _ rfl
    have hskip : skipInline (tailText (some (b, n)) ++ trail) = classText (some n) ++ trail := by
      rw [show tailText (some (b, n)) = b ++ ':' :: ':' :: ':' :: n from rfl, List.append_assoc,
        skipInline_blanks_append hb]
      exact skipInline_cons (by decide) _
    refine ⟨?_, fun h => absurd h (Option.some_ne_none _)⟩
    rw [hskip, classSuffix_text hn]
    · rfl
    · intro c r hr
      rcases htrail.quiet with h | ⟨c', r', h, hc⟩
      · rw [h] at hr
        exact absurd hr.symm (List.cons_ne_nil _ _)
      · rw [hr, List.cons.injEq] at h
        rw [← h.1] at hc
        have hc' : c = ' ' ∨ c = '\t' := by simpa [isInlineBlank] using hc
        rcases hc' with rfl | rfl <;> rfl

/-- Without a colour class after it, a chain is coloured by its last node's class. -/
theorem chainColor_none (segs : List SegmentText) (h : segs ≠ []) :
    chainColor (segs.map SegmentText.meaning) none =
      ((segs.map SegmentText.meaning).dropLast ++
        [((segs.getLast h).meaning.1, { (segs.getLast h).meaning.2 with cls := none })],
        (segs.getLast h).meaning.2.cls) := by
  unfold chainColor
  rw [List.getLast?_map, List.getLast?_eq_some_getLast h]
  rfl

/-- A written chain is read as its meaning. -/
theorem readChain_chain (head : RefText) (first : SegmentText) (more : List SegmentText)
    (tail : Option (List Char × List Char)) (trail : List Char)
    (htail : ∀ p ∈ tail, p.1 ≠ [] ∧ Blanks p.1 ∧ ClassName p.2) (htrail : Blanks trail)
    (htrap : TrapezoidsClear head (first :: more) (tailText tail ++ trail))
    (hdash : DashLinksSpaced head (first :: more)) (hdot : ∀ sg ∈ first :: more, sg.link.SingleDot) :
    readChain (StatementText.chain head first more tail trail htail htrail).text =
      some (StatementText.chain head first more tail trail htail htrail).meaning := by
  have hquiet : Quiet (tailText tail ++ trail) := by
    cases tail with
    | none => exact htrail.quiet
    | some p =>
      obtain ⟨b, n⟩ := p
      obtain ⟨hne, hb, -⟩ := htail _ rfl
      obtain ⟨c, r, rfl⟩ := List.exists_cons_of_ne_nil hne
      exact .inr ⟨c, _, rfl, hb c (List.mem_cons_self ..)⟩
  have hnode := nodeRef_text head (flatMap_follow hquiet.nodeFollow (first :: more))
    (hdash.head hquiet) htrap.head
  have hsegs := segments_text hquiet (segment_tail tail htail htrail) head (first :: more)
    (((first :: more).flatMap SegmentText.text ++ (tailText tail ++ trail)).length + 1)
    (by have := length_le_flatMap_text (first :: more); simp only [List.length_append]; omega)
    htrap hdash hdot
  obtain ⟨hcls, hend⟩ := tail_end tail htail htrail
  unfold readChain
  simp only [StatementText.text, List.append_assoc]
  rw [hnode, Option.bind_eq_bind, Option.bind_some]
  dsimp only
  rw [hsegs]
  dsimp only
  simp only [List.map_cons, List.isEmpty_cons, Bool.false_eq_true, if_false]
  rw [← List.map_cons, hcls]
  cases tail with
  | none =>
    simp only [Option.map_none, hend rfl, List.isEmpty_nil, Bool.not_true, Bool.false_eq_true,
      if_false]
    rw [chainColor_none _ (List.cons_ne_nil _ _)]
    rfl
  | some p =>
    obtain ⟨b, n⟩ := p
    simp only [Option.map_some, skipInline_blanks htrail, List.isEmpty_nil, Bool.not_true,
      Bool.false_eq_true, if_false]
    rfl

/-- A lone node is not a chain: no segment follows it. -/
theorem readChain_node (r : RefText) {trail : List Char} (htrail : Blanks trail)
    (htrap : TrapezoidsClear r [] trail) : readChain (r.text ++ trail) = none := by
  have hnode := nodeRef_text r htrail.quiet.nodeFollow
    (fun _ l y h => absurd h (htrail.quiet.not_link l y)) (TrapezoidsClear.head htrap)
  have hend : segment trail = none :=
    segment_tail none (fun _ h => absurd h (Option.not_mem_none _)) htrail
  unfold readChain
  rw [hnode, Option.bind_eq_bind, Option.bind_some]
  dsimp only
  rw [segments, hend]
  rfl

theorem readStandalone_node (r : RefText) {trail : List Char} (htrail : Blanks trail)
    (htrap : TrapezoidsClear r [] trail) : readStandalone (r.text ++ trail) = some (.node r.meaning) := by
  have hnode := nodeRef_text r htrail.quiet.nodeFollow
    (fun _ l y h => absurd h (htrail.quiet.not_link l y)) (TrapezoidsClear.head htrap)
  unfold readStandalone
  rw [hnode, Option.bind_eq_bind, Option.bind_some]
  dsimp only
  rw [skipInline_blanks htrail]
  rfl

/-- Every written statement that avoids the excluded inputs is read as its meaning: node
references with their ids, labels, shapes and classes, links with their styles and labels (a
`|text|` replacing the inline one), and the colour of a chain's last edge. -/
theorem Statement.parse?_text (st : StatementText) (h : st.Clear) :
    Statement.parse? (String.ofList st.text) = some st.meaning := by
  unfold Statement.parse?
  rw [String.toList_ofList]
  cases st with
  | node r trail htrail =>
    rw [StatementText.text, readChain_node r htrail h, readStandalone_node r htrail h]
    rfl
  | chain head first more tail trail htail htrail =>
    rw [readChain_chain head first more tail trail htail htrail h.1 h.2.1 h.2.2]
    rfl

/-- A dotted link closed by two dots keeps one of them in its label. -/
theorem parse?_dotted_label_keeps_dot :
    Statement.parse? "A -. maybe ..-> B" =
      some (.chain { id := "A" } [({ style := .dotted, label := some "maybe ." }, { id := "B" })]
        none) := by
  decide +kernel

/-- A trapezoid followed by a parallelogram: the `[/ /]` pair reaches the later `/]`, so the
statement is read as one parallelogram node and no edge. -/
theorem parse?_trapezoid_read_as_parallelogram :
    Statement.parse? "A[/x\\] --> B[/y/]" =
      some (.node { id := "A", label := some "x\\] --> B[/y", shape := .parallelogram }) := by
  decide +kernel

end FlowLayout.Syntax
