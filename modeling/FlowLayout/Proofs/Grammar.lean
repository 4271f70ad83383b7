import FlowLayout.Text.Alphanumeric
import FlowLayout.Text.Blank
import FlowLayout.Syntax.Statement
/-!
# What the statement grammar reads

An id is read as word characters joined by single `-` or `.` (`identifier_chars`), so an id
the grammar accepts has no blank (`NodeRef.Clean`). Every node reference of a statement that
parses, its head and the targets of its links, is read by `nodeRef`, so all of them are clean
(`parse?_clean`). The first section proves the facts about letters, digits and blanks that this
rests on.
-/

/-!
## Letters, digits and blanks

No alphanumeric character is blank. An ASCII letter or digit is none of the ASCII blanks, and
above ASCII the binary search only accepts code points inside a range of the table
(`inRangesBetween_sound`), while no range of the table meets a blank code point
(`alphanumericRanges_avoid_blanks`). Trimming keeps only characters of the text.
-/

namespace FlowLayout.Text

/-- The blank code points above ASCII, as closed intervals. -/
def wideBlanks : List (Nat × Nat) :=
  [(0x85, 0x85), (0xA0, 0xA0), (0x1680, 0x1680), (0x2000, 0x200A), (0x2028, 0x2029),
    (0x202F, 0x202F), (0x205F, 0x205F), (0x3000, 0x3000)]

theorem isBlank_wide {c : Char} (h : isBlank c = true) (hc : 0x80 ≤ c.toNat) :
    ∃ b ∈ wideBlanks, b.1 ≤ c.toNat ∧ c.toNat ≤ b.2 := by
  simp only [isBlank, Bool.or_eq_true, Bool.and_eq_true, decide_eq_true_eq, beq_iff_eq] at h
  simp only [wideBlanks, List.mem_cons, List.not_mem_nil, or_false, exists_eq_or_imp,
    exists_eq_left]
  omega

/-- No range of the alphanumeric table meets a blank code point. -/
theorem alphanumericRanges_avoid_blanks :
    alphanumericRanges.toList.all (fun r =>
      wideBlanks.all fun b => !(decide (r.1 ≤ b.2) && decide (b.1 ≤ r.2))) = true := by
  decide +kernel

theorem ascii_alphanum_not_blank :
    ∀ n < 128, (Char.ofNat n).isAlphanum = true → isBlank (Char.ofNat n) = false := by
  decide +kernel

/-- The binary search accepts a code point only inside a range between its bounds. -/
theorem inRangesBetween_sound (table : Array (Nat × Nat)) (n lo hi : Nat)
    (h : inRangesBetween table n lo hi = true) :
    ∃ i, lo ≤ i ∧ i < hi ∧ (table.getD i (0, 0)).1 ≤ n ∧ n ≤ (table.getD i (0, 0)).2 := by
  fun_induction inRangesBetween table n lo hi with
  | case1 lo hi hlt mid r hbelow ih =>
    have hmid : mid = (lo + hi) / 2 := rfl
    obtain ⟨i, hlo, hi', h₁, h₂⟩ := ih h
    exact ⟨i, hlo, by omega, h₁, h₂⟩
  | case2 lo hi hlt mid r hbelow habove ih =>
    have hmid : mid = (lo + hi) / 2 := rfl
    obtain ⟨i, hlo, hi', h₁, h₂⟩ := ih h
    exact ⟨i, by omega, hi', h₁, h₂⟩
  | case3 lo hi hlt mid r hbelow habove =>
    have hmid : mid = (lo + hi) / 2 := rfl
    exact ⟨mid, by omega, by omega, Nat.le_of_not_lt hbelow, Nat.le_of_not_lt habove⟩
  | case4 => exact absurd h Bool.false_ne_true

theorem isAlphanumeric_not_blank {c : Char} (h : isAlphanumeric c = true) : isBlank c = false := by
  unfold isAlphanumeric at h
  split at h
  · next hascii =>
    have := ascii_alphanum_not_blank c.toNat hascii
    rw [Char.ofNat_toNat] at this
    exact this h
  · next hwide =>
    obtain ⟨i, -, hi, h₁, h₂⟩ := inRangesBetween_sound _ _ _ _ h
    have hr : alphanumericRanges.getD i (0, 0) ∈ alphanumericRanges.toList := by
      rw [Array.getD_eq_getD_getElem?, Array.getElem?_eq_getElem hi, Option.getD_some]
      exact Array.getElem_mem_toList hi
    have havoid := List.all_eq_true.1 alphanumericRanges_avoid_blanks _ hr
    cases hb : isBlank c
    · rfl
    · obtain ⟨b, hbmem, hb₁, hb₂⟩ := isBlank_wide hb (by omega)
      have := List.all_eq_true.1 havoid b hbmem
      simp only [Bool.not_eq_true', Bool.and_eq_false_iff, decide_eq_false_iff_not] at this
      omega

theorem mem_of_mem_trimChars {cs : List Char} {c : Char} (h : c ∈ trimChars cs) : c ∈ cs := by
  unfold trimChars dropBlankEnd at h
  rw [List.mem_reverse] at h
  exact (List.dropWhile_sublist _).subset
    (List.mem_reverse.1 ((List.dropWhile_sublist _).subset h))

end FlowLayout.Text

namespace FlowLayout.Syntax

/-- A character an id may hold: a word character, a dash or a dot. -/
def IdChar (c : Char) : Prop := isWordChar c = true ∨ c = '-' ∨ c = '.'

theorem idChar_not_blank {c : Char} (h : IdChar c) : Text.isBlank c = false := by
  rcases h with h | rfl | rfl
  · unfold isWordChar at h
    rcases Bool.or_eq_true_iff.1 h with h | h
    · exact Text.isAlphanumeric_not_blank h
    · rw [beq_iff_eq] at h
      subst h
      decide
  · decide
  · decide

theorem idTail_chars (cs : List Char) : ∀ c ∈ (idTail cs).1, IdChar c := by
  fun_induction idTail cs with
  | case1 => simp
  | case2 c rest hc t r heq ih =>
    rw [heq] at ih
    intro x hx
    rcases List.mem_cons.1 hx with rfl | hx
    · exact .inl hc
    · exact ih x hx
  | case3 c hc hjoin d rest' hd t r heq ih =>
    rw [heq] at ih
    intro x hx
    rcases List.mem_cons.1 hx with rfl | hx
    · simp only [Bool.or_eq_true, beq_iff_eq] at hjoin
      exact .inr hjoin
    · rcases List.mem_cons.1 hx with rfl | hx
      · exact .inl hd
      · exact ih x hx
  | case4 => simp
  | case5 => simp
  | case6 => simp

theorem identifier_chars {s id rest : List Char} (h : identifier s = some (id, rest)) :
    ∀ c ∈ id, IdChar c := by
  unfold identifier at h
  split at h
  · next c cs =>
    split at h
    · next hc =>
      simp only [Option.some.injEq, Prod.mk.injEq] at h
      obtain ⟨rfl, -⟩ := h
      intro x hx
      rcases List.mem_cons.1 hx with rfl | hx
      · exact .inl hc
      · exact idTail_chars cs x hx
    · exact absurd h (by simp)
  · exact absurd h (by simp)

/-- A node reference whose id has no blank. -/
def NodeRef.Clean (r : NodeRef) : Prop := ∀ c ∈ r.id.toList, Text.isBlank c = false

theorem nodeRef_clean {s rest : List Char} {r : NodeRef} (h : nodeRef s = some (r, rest)) :
    r.Clean := by
  unfold nodeRef at h
  cases hid : identifier s with
  | none => simp [hid] at h
  | some p =>
    obtain ⟨id, s'⟩ := p
    -- the id of the reference is the identifier read, whatever follows it
    have hr : r.id = String.ofList id := by
      simp only [hid, Option.bind_eq_bind, Option.bind_some, Option.pure_def, Option.some.injEq,
        Prod.mk.injEq] at h
      rw [← h.1]
    intro c hc
    rw [hr, String.toList_ofList] at hc
    exact idChar_not_blank (identifier_chars hid c hc)

/-- The node references of a statement: a lone node, or a chain's head and targets. -/
def Statement.refs : Statement → List NodeRef
  | .node n => [n]
  | .chain head links _ => head :: links.map (·.2)

/-- A chain that parses is its head, then its segments with the colour taken from a tail
class or from the last target. -/
theorem readChain_eq {s : List Char} {st : Statement} (h : readChain s = some st) :
    ∃ head s₁ tail, nodeRef s = some (head, s₁) ∧
      st = .chain head (chainColor (segments (s₁.length + 1) s₁).1 tail).1
        (chainColor (segments (s₁.length + 1) s₁).1 tail).2 := by
  unfold readChain at h
  simp only [Option.bind_eq_bind, Option.bind_eq_some_iff] at h
  obtain ⟨⟨head, s₁⟩, hhead, h⟩ := h
  refine ⟨head, s₁, ?_⟩
  -- a chain needs a segment, then the tail class is read and nothing may follow
  split at h
  · exact absurd h (by simp)
  · split at h
    · next c r _ =>
      split at h
      · simp at h
      · simp only [Option.pure_def, Option.some.injEq] at h
        exact ⟨some (String.ofList c), hhead, h.symm⟩
    · split at h
      · simp at h
      · simp only [Option.pure_def, Option.some.injEq] at h
        exact ⟨none, hhead, h.symm⟩

/-! ### What every node reference of a statement has

A property that every reference `nodeRef` reads has, and that taking the class off keeps,
holds of every reference of a statement that parses: a chain's targets are read by `segment`,
and its colour only takes the class off the last one. -/

section Refs

variable {P : NodeRef → Prop}
  (hnode : ∀ {s rest : List Char} {r : NodeRef}, nodeRef s = some (r, rest) → P r)
include hnode

theorem segment_ref {s rest : List Char} {lk : Link} {r : NodeRef}
    (h : segment s = some ((lk, r), rest)) : P r := by
  unfold segment at h
  simp only [Option.bind_eq_bind, Option.bind_eq_some_iff] at h
  obtain ⟨⟨lk₀, s₁⟩, -, ⟨target, s₂⟩, htarget, h⟩ := h
  simp only [Option.pure_def, Option.some.injEq, Prod.mk.injEq] at h
  rw [← h.1.2]
  exact hnode htarget

theorem segments_refs : ∀ (fuel : Nat) (s : List Char), ∀ x ∈ (segments fuel s).1, P x.2
  | 0, _ => by simp [segments]
  | fuel + 1, s => by
    rw [segments]
    split
    · next seg r hseg =>
      intro x hx
      rcases List.mem_cons.1 hx with rfl | hx
      · exact segment_ref hnode hseg
      · exact segments_refs fuel r x hx
    · simp

omit hnode in
/-- The colour of a chain only takes the class off its last target. -/
theorem chainColor_refs (hcls : ∀ r, P r → P { r with cls := none })
    {links : List (Link × NodeRef)} (hlinks : ∀ x ∈ links, P x.2) (tail : Option String) :
    ∀ x ∈ (chainColor links tail).1, P x.2 := by
  unfold chainColor
  split
  · exact hlinks
  · split
    · next lk last hlast =>
      intro x hx
      rcases List.mem_append.1 hx with hx | hx
      · exact hlinks x (List.dropLast_subset _ hx)
      · rw [List.mem_singleton.1 hx]
        exact hcls last (hlinks (lk, last) (List.mem_of_getLast? hlast))
    · exact hlinks

theorem parse?_refs (hcls : ∀ r, P r → P { r with cls := none }) {s : String} {st : Statement}
    (h : Statement.parse? s = some st) : ∀ r ∈ st.refs, P r := by
  unfold Statement.parse? at h
  cases hc : readChain s.toList with
  | some st' =>
    rw [hc] at h
    cases h
    obtain ⟨head, s₁, tail, hhead, rfl⟩ := readChain_eq hc
    intro r hr
    rcases List.mem_cons.1 hr with rfl | hr
    · exact hnode hhead
    · obtain ⟨x, hx, rfl⟩ := List.mem_map.1 hr
      exact chainColor_refs hcls (segments_refs hnode _ _) tail x hx
  | none =>
    -- a lone node reference filling the statement
    rw [hc] at h
    replace h : readStandalone s.toList = some st := h
    unfold readStandalone at h
    simp only [Option.bind_eq_bind, Option.bind_eq_some_iff] at h
    obtain ⟨⟨n, s₁⟩, hn, h⟩ := h
    split at h
    · simp only [Option.some.injEq] at h
      subst h
      intro r hr
      rw [Statement.refs, List.mem_singleton] at hr
      rw [hr]
      exact hnode hn
    · exact absurd h (by simp)

end Refs

/-- Every node reference of a statement that parses has an id without blanks. -/
theorem parse?_clean {s : String} {st : Statement} (h : Statement.parse? s = some st) :
    ∀ r ∈ st.refs, r.Clean :=
  parse?_refs nodeRef_clean (fun _ hr => hr) h


end FlowLayout.Syntax
