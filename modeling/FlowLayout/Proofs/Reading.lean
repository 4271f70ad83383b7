import Mathlib.Data.List.DropRight
import Mathlib.Data.List.TakeWhile
import FlowLayout.Proofs.Builder
/-!
# Reading a flowchart line by line

The lines of a text cut right after a line feed are the lines of its first part followed by
those of the rest (`Text.lines_append`), and reading lines is a left fold, so reading such a
text is reading its first part and going on from there (`readLines_append`).

The header is the first significant line: the first that, trimmed, is neither empty nor a
`%%` comment. Reading it sets `seenHeader`, which no later step clears
(`seenHeader_readLines`). From then on a line is read as a fold of `readStatement` over its
statements (`readLine_of_seenHeader`), so no later line starts the chart over.
-/

namespace FlowLayout

namespace Text

/-! ### Lines -/

theorem splitLines_append_newline : ∀ (xs r current : List Char),
    splitLines (xs ++ '\n' :: r) current = splitLines (xs ++ ['\n']) current ++ splitLines r []
  | [], r, current => by simp [splitLines]
  | x :: xs, r, current => by
    by_cases hx : x = '\n'
    · subst hx
      simp [splitLines, splitLines_append_newline xs r []]
    · simp [splitLines, splitLines_append_newline xs r (x :: current)]

theorem splitLines_of_newline_not_mem : ∀ {xs : List Char}, '\n' ∉ xs → ∀ current : List Char,
    splitLines (xs ++ ['\n']) current = [stripReturn (current.reverse ++ xs)]
  | [], _, current => by simp [splitLines]
  | x :: xs, h, current => by
    have hx : x ≠ '\n' := fun e => h (e ▸ List.mem_cons_self)
    have hxs : '\n' ∉ xs := fun m => h (List.mem_cons_of_mem _ m)
    simp [splitLines, splitLines_of_newline_not_mem hxs]

/-- Cutting a text right after a line feed cuts its list of lines there. -/
theorem lines_append {p : String} (hp : p.toList.getLast? = some '\n') (r : String) :
    lines (p ++ r) = lines p ++ lines r := by
  obtain ⟨xs, hxs⟩ := List.getLast?_eq_some_iff.1 hp
  simp only [lines, String.toList_append, hxs, List.append_assoc, List.singleton_append]
  rw [splitLines_append_newline xs r.toList [], List.map_append]

/-- A line without a line feed, ended by one, is one line, without a carriage return at its
end. -/
theorem lines_line {d : String} (hd : '\n' ∉ d.toList) :
    lines (d ++ "\n") = [String.ofList (stripReturn d.toList)] := by
  simp [lines, splitLines_of_newline_not_mem hd]

/-- Lines of a text cut after whole lines: the cut falls between lines. -/
theorem lines_append_of_whole {m : String} (hm : m = "" ∨ m.toList.getLast? = some '\n')
    (r : String) : lines (m ++ r) = lines m ++ lines r := by
  rcases hm with rfl | hm
  · simp [lines, splitLines]
  · exact lines_append hm r

/-- A line put in right after a line feed is one more line there. -/
theorem lines_insert {p d : String} (hp : p.toList.getLast? = some '\n') (hd : '\n' ∉ d.toList)
    (r : String) :
    lines (p ++ d ++ "\n" ++ r) = lines p ++ String.ofList (stripReturn d.toList) :: lines r := by
  have hdl : (d ++ "\n").toList.getLast? = some '\n' := by simp
  rw [String.append_assoc, String.append_assoc, lines_append hp, ← String.append_assoc,
    lines_append hdl, lines_line hd]
  rfl

/-! ### Trimming -/

theorem dropBlankEnd_isPrefix (cs : List Char) : dropBlankEnd cs <+: cs := by
  refine ⟨(cs.reverse.takeWhile isBlank).reverse, ?_⟩
  calc dropBlankEnd cs ++ (cs.reverse.takeWhile isBlank).reverse
      = (cs.reverse.takeWhile isBlank ++ cs.reverse.dropWhile isBlank).reverse := by
        rw [List.reverse_append]; rfl
    _ = cs := by rw [List.takeWhile_append_dropWhile, List.reverse_reverse]

/-- A trimmed line starts with a character that is not blank. -/
theorem not_isBlank_of_trimChars_eq_cons {cs r : List Char} {c : Char}
    (h : trimChars cs = c :: r) : isBlank c = false := by
  obtain ⟨t, ht⟩ := dropBlankEnd_isPrefix (cs.dropWhile isBlank)
  rw [← trimChars, h, List.cons_append] at ht
  have hne : cs.dropWhile isBlank ≠ [] := by rw [← ht]; exact List.cons_ne_nil _ _
  have hhead := List.head_dropWhile_not isBlank hne
  simp only [← ht, List.head_cons] at hhead
  exact hhead

theorem trimChars_append_blank (cs : List Char) {c : Char} (hc : isBlank c = true) :
    trimChars (cs ++ [c]) = trimChars cs := by
  unfold trimChars dropBlankEnd
  by_cases hall : ∀ x ∈ cs, isBlank x = true
  · rw [List.dropWhile_append_of_pos hall, List.dropWhile_cons_of_pos hc]
    have : cs.dropWhile isBlank = [] := List.dropWhile_eq_nil_iff.2 hall
    simp [this]
  · -- the part that survives the start keeps the blank at its end, which then goes
    obtain ⟨x, hx, hxb⟩ := Classical.not_forall.1 hall |>.imp fun x h => Classical.not_imp.1 h
    rw [List.dropWhile_append]
    have hne : (cs.dropWhile isBlank).isEmpty = false := by
      rw [List.isEmpty_eq_false_iff]
      intro hnil
      have := (List.dropWhile_eq_nil_iff).1 hnil x hx
      exact hxb this
    simp [hne, List.reverse_append, List.dropWhile_cons_of_pos hc]

theorem trimChars_infix (cs : List Char) : trimChars cs <:+: cs :=
  (dropBlankEnd_isPrefix _).isInfix.trans (List.dropWhile_suffix _).isInfix

theorem trimChars_trimChars (cs : List Char) :
    trimChars (trimChars cs) = trimChars cs := by
  -- a trimmed line starts with no blank, so only its end is trimmed again, and that is done
  have hstart : (trimChars cs).dropWhile isBlank = trimChars cs := by
    cases h : trimChars cs with
    | nil => rfl
    | cons c r =>
      exact List.dropWhile_cons_of_neg (by rw [not_isBlank_of_trimChars_eq_cons h]; simp)
  rw [trimChars, hstart, trimChars, dropBlankEnd, dropBlankEnd,
    List.reverse_reverse, List.dropWhile_idempotent]

theorem trim_trim (s : String) : trim (trim s) = trim s := by
  rw [trim, trim, String.toList_ofList, trimChars_trimChars]

/-- A carriage return at the end of a line goes with the trimming. -/
theorem trim_stripReturn (cs : List Char) :
    trim (String.ofList (stripReturn cs)) = trim (String.ofList cs) := by
  unfold trim stripReturn
  split
  · next rest h =>
    have hcs : cs = rest.reverse ++ ['\r'] := by
      rw [← List.reverse_reverse cs, h, List.reverse_cons]
    rw [String.toList_ofList, String.toList_ofList, hcs, trimChars_append_blank _ (by decide)]
  · rfl

end Text

namespace Syntax

/-! ### The header -/

/-- A line that, trimmed, is neither empty nor a comment: the header is the first of them. -/
def Significant (text : String) : Prop :=
  ((Text.trim text).isEmpty || isCommentLine (Text.trim text)) = false

/-- The first significant line of a text is the trimming of one of its significant lines. -/
theorem exists_significant_of_firstSignificantLine {s l : String}
    (h : firstSignificantLine s = some l) : ∃ text ∈ Text.lines s, Significant text := by
  obtain ⟨t, ht, rfl⟩ := List.mem_map.1 (List.mem_of_find?_eq_some h)
  have hsig := List.find?_some h
  refine ⟨t, ht, ?_⟩
  simpa [Significant] using hsig

theorem exists_firstSignificantLine_of_detect {s : String}
    (h : DiagramKind.detect s = .flowchart) : ∃ l, firstSignificantLine s = some l := by
  unfold DiagramKind.detect at h
  split at h
  · exact absurd h (by decide)
  · exact ⟨_, ‹_›⟩

/-- What follows a text that holds its header, after a line feed, leaves its header alone. -/
theorem firstSignificantLine_append {p l : String} (hp : p.toList.getLast? = some '\n')
    (hl : firstSignificantLine p = some l) (r : String) :
    firstSignificantLine (p ++ r) = some l := by
  unfold firstSignificantLine at hl ⊢
  rw [Text.lines_append hp, List.map_append, List.find?_append, hl]
  rfl

theorem detect_append {p l : String} (hp : p.toList.getLast? = some '\n')
    (hl : firstSignificantLine p = some l) (r : String) :
    DiagramKind.detect (p ++ r) = DiagramKind.detect p := by
  unfold DiagramKind.detect
  rw [firstSignificantLine_append hp hl, hl]

/-- Cutting comments off a significant trimmed line leaves something: its first character is
not blank, and a `%%` there would make the whole line a comment. -/
theorem stripComment_ne_nil : ∀ (cs : List Char) (q : Bool) (d : Nat) (before : List Char)
    (x : Char), before.getLast? = some x → Text.isBlank x = false →
      stripComment q d before cs ≠ []
  | [], _, _, before, x, hx, _ => by
    simp only [stripComment, ne_eq, List.reverse_eq_nil_iff]
    rintro rfl
    simp at hx
  | c :: rest, q, d, before, x, hx, hbx => by
    have hcons : (c :: before).getLast? = some x := by
      rw [List.getLast?_cons, hx, Option.getD_some]
    unfold stripComment
    split
    · exact stripComment_ne_nil rest _ _ _ x hcons hbx
    · split
      · exact stripComment_ne_nil rest _ _ _ x hcons hbx
      · split
        · exact stripComment_ne_nil rest _ _ _ x hcons hbx
        · split
          · exact stripComment_ne_nil rest _ _ _ x hcons hbx
          · split
            · -- what stands before the comment ends with the first, non-blank, character
              unfold Text.dropBlankEnd
              rw [List.reverse_reverse, ne_eq, List.reverse_eq_nil_iff]
              intro hnil
              have := (List.dropWhile_eq_nil_iff).1 hnil x (List.mem_of_getLast? hx)
              rw [hbx] at this
              exact Bool.false_ne_true this
            · exact stripComment_ne_nil rest _ _ _ x hcons hbx

theorem withoutComment_ne_empty {text : String} (h : Significant text) :
    (withoutComment (Text.trim text)).isEmpty = false := by
  simp only [Significant, Bool.or_eq_false_iff] at h
  obtain ⟨hne, hcomment⟩ := h
  unfold withoutComment
  rw [String.isEmpty_eq_false_iff] at hne ⊢
  intro hnil
  apply hne
  obtain ⟨cs, hcs⟩ : ∃ cs, (Text.trim text).toList = cs := ⟨_, rfl⟩
  rw [hcs] at hnil
  match cs, hcs with
  | [], hcs => exact String.toList_eq_nil_iff.1 hcs
  | c :: rest, hcs =>
    exfalso
    have hc : Text.isBlank c = false :=
      Text.not_isBlank_of_trimChars_eq_cons (by rw [← hcs, Text.trim, String.toList_ofList])
    -- a line opening with two percent signs is a comment
    have hnotpp : ¬ (c = '%' ∧ rest.head? = some '%') := by
      rintro ⟨rfl, hr⟩
      obtain ⟨r, rfl⟩ : ∃ r, rest = '%' :: r := by
        cases rest with
        | nil => simp at hr
        | cons y r => simp at hr; exact ⟨r, by rw [hr]⟩
      have : Text.trim text = "%%" ++ String.ofList r := by
        apply String.toList_injective
        simp [hcs]
      rw [this, isCommentLine] at hcomment
      simp at hcomment
    have hstart : stripComment false 0 [] (c :: rest) ≠ [] := by
      unfold stripComment
      simp only [Bool.false_eq_true, if_false]
      split
      · exact stripComment_ne_nil rest _ _ _ c rfl hc
      · split
        · exact stripComment_ne_nil rest _ _ _ c rfl hc
        · split
          · exact stripComment_ne_nil rest _ _ _ c rfl hc
          · split
            · next hpp =>
              simp only [Bool.and_eq_true, beq_iff_eq] at hpp
              exact absurd ⟨hpp.1.1, hpp.2⟩ hnotpp
            · exact stripComment_ne_nil rest _ _ _ c rfl hc
    exact hstart (by simpa using hnil)

/-! ### Reading lines -/

/-- The statements of a line, as read once the header has been seen. -/
def lineStatements (text : String) : List String :=
  let trimmed := Text.trim text
  if trimmed.isEmpty || isCommentLine trimmed then []
  else
    let uncommented := withoutComment trimmed
    if uncommented.isEmpty then [] else statementsOf uncommented

/-- After the header a line is read statement by statement, with nothing reset. -/
theorem readLine_of_seenHeader {st : Reading} (h : st.seenHeader = true) (n : Nat)
    (text : String) : readLine st n text = (lineStatements text).foldl (readStatement n) st := by
  unfold readLine lineStatements
  dsimp only
  split
  · rfl
  · split
    · rfl
    · -- the header test has already been settled by `h`
      simp only

theorem seenHeader_readStatement (n : Nat) (st : Reading) (raw : String) :
    (readStatement n st raw).seenHeader = st.seenHeader := by
  unfold readStatement
  dsimp only
  split
  · rfl
  · split
    · rfl
    · split <;> rfl
    all_goals rfl

theorem seenHeader_foldl_readStatement (n : Nat) (statements : List String) (st : Reading) :
    (statements.foldl (readStatement n) st).seenHeader = st.seenHeader := by
  induction statements generalizing st with
  | nil => rfl
  | cons raw rest ih => rw [List.foldl_cons, ih, seenHeader_readStatement]

theorem seenHeader_readLine {st : Reading} (h : st.seenHeader = true) (n : Nat) (text : String) :
    (readLine st n text).seenHeader = true := by
  rw [readLine_of_seenHeader h, seenHeader_foldl_readStatement, h]

/-- Reading a significant line leaves the header seen. -/
theorem seenHeader_readLine_of_significant (st : Reading) (n : Nat) {text : String}
    (h : Significant text) : (readLine st n text).seenHeader = true := by
  have hcomment := withoutComment_ne_empty h
  unfold Significant at h
  unfold readLine
  dsimp only
  rw [if_neg (by rw [h]; exact Bool.false_ne_true), if_neg (by rw [hcomment]; exact Bool.false_ne_true)]
  split
  · next hseen => rw [seenHeader_foldl_readStatement, hseen]
  · rw [seenHeader_foldl_readStatement]

/-- A carriage return at the end of a line changes nothing of its reading. -/
theorem readLine_stripReturn (st : Reading) (n : Nat) (d : String) :
    readLine st n (String.ofList (Text.stripReturn d.toList)) = readLine st n d := by
  unfold readLine
  rw [Text.trim_stripReturn, String.ofList_toList]

theorem readLines_append (st : Reading) (n : Nat) (L₁ L₂ : List String) :
    readLines st n (L₁ ++ L₂) = readLines (readLines st n L₁) (n + L₁.length) L₂ := by
  induction L₁ generalizing st n with
  | nil => rfl
  | cons l L₁ ih =>
    rw [List.cons_append, readLines, readLines, ih, List.length_cons, Nat.add_comm L₁.length 1,
      Nat.add_assoc]

theorem seenHeader_readLines_of_seen : ∀ {st : Reading} (n : Nat) (L : List String),
    st.seenHeader = true → (readLines st n L).seenHeader = true
  | _, _, [], h => h
  | _, n, l :: L, h => by
    rw [readLines]
    exact seenHeader_readLines_of_seen (n + 1) L (seenHeader_readLine h n l)

/-- Once a significant line has been read, the header has been seen. -/
theorem seenHeader_readLines : ∀ (st : Reading) (n : Nat) {L : List String},
    (∃ text ∈ L, Significant text) → (readLines st n L).seenHeader = true
  | _, _, [], ⟨_, hmem, _⟩ => absurd hmem List.not_mem_nil
  | st, n, l :: L, ⟨text, hmem, hsig⟩ => by
    rw [readLines]
    rcases List.mem_cons.1 hmem with rfl | hmem
    · exact seenHeader_readLines_of_seen (n + 1) L (seenHeader_readLine_of_significant st n hsig)
    · exact seenHeader_readLines (readLine st n l) (n + 1) ⟨text, hmem, hsig⟩

/-- A text that holds its header has been read past it. -/
theorem seenHeader_of_firstSignificantLine {p l : String} (h : firstSignificantLine p = some l) :
    (readLines {} 1 (Text.lines p)).seenHeader = true :=
  seenHeader_readLines {} 1 (exists_significant_of_firstSignificantLine h)

section HeaderFirst

/-! A first part `p` of a text, ending a line, whose first significant line is that of a
flowchart text `s`: the header lies in `p`. -/

variable {p s : String} (hheader : firstSignificantLine p = firstSignificantLine s)
  (hkind : DiagramKind.detect s = .flowchart)
include hheader hkind

/-- Reading the first part sees the header. -/
theorem seenHeader_of_header : (readLines {} 1 (Text.lines p)).seenHeader = true := by
  obtain ⟨l, hl⟩ := exists_firstSignificantLine_of_detect hkind
  rw [← hheader] at hl
  exact seenHeader_of_firstSignificantLine hl

/-- Every text the first part begins is a flowchart. -/
theorem detect_append_of_header (hp : p.toList.getLast? = some '\n') (r : String) :
    DiagramKind.detect (p ++ r) = .flowchart := by
  obtain ⟨l, hl⟩ := exists_firstSignificantLine_of_detect hkind
  rw [← hheader] at hl
  rw [detect_append hp hl, ← hkind]
  -- the kind is read off the first significant line alone
  unfold DiagramKind.detect
  rw [hheader]

end HeaderFirst

/-- The chart of a flowchart text is the chart its lines are read into. -/
theorem parseFlowchart_chart (input : String) :
    (parseFlowchart input).1 = (readLines {} 1 (Text.lines input)).builder.chart := by
  unfold parseFlowchart Builder.finish
  dsimp only
  split <;> rfl

end Syntax

/-- A flowchart text is read by `parseFlowchart`, into its chart and its warnings. -/
theorem parseDiagram_eq_of_flowchart {input : String} (h : DiagramKind.detect input = .flowchart) :
    parseDiagram input =
      { diagram := .flowchart (Syntax.parseFlowchart input).1
        warnings := (Syntax.parseFlowchart input).2 } := by
  unfold parseDiagram
  rw [h]

end FlowLayout
