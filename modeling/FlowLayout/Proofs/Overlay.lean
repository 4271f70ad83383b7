import FlowLayout.Proofs.SortedMap
import FlowLayout.Syntax.Builder
/-!
# Laying styles over each other

Styles under `Style.overlay` form a monoid whose unit is the empty style, and every style laid
over itself is itself. Reading a declaration list is a homomorphism into this monoid: a list
cut at a comma outside parentheses reads as its two parts, the second laid over the first
(`Style.parseDeclarations_overlay_hom`). So styling one target twice leaves the same entry in
its side table as styling it once with the two declaration lists joined by a comma.

* After inserting the increasing entries of one sorted map into another, a lookup finds the
  first map's value, else the second's (`SortedMap.get?_foldl_insert`). The four named
  properties combine in the same way, so a style laid over another looks up every property
  through `Option.or` (`Style.overlay_fill`, `Style.get?_overlay_extra`), and the laws of
  `Option.or` become the laws of overlay.
* Setting one property lays the style of that property alone over the rest
  (`Style.set_eq_overlay`); reading declarations onto a style therefore lays the style they
  read alone over it (`Style.foldl_declare`).
* A comma at depth zero ends a piece, so the pieces of two lists joined by such a comma are
  the pieces of each (`splitDeclarations_append_comma`).
-/

namespace FlowLayout

/-- The parenthesis depth `splitDeclarations` reaches at the end of a text, starting from
`depth`: an opening parenthesis adds one, a closing one takes one away, never below zero. -/
def parenDepth (depth : Nat) : List Char → Nat
  | [] => depth
  | c :: rest =>
    if c == '(' then parenDepth (depth + 1) rest
    else if c == ')' then parenDepth (depth - 1) rest
    else parenDepth depth rest

namespace SortedMap

variable {κ β : Type} [Ord κ]

@[simp] theorem get?_empty (k : κ) : (({} : SortedMap κ β)).get? k = none := rfl

variable [Std.TransCmp (compare : κ → κ → _)] [Std.LawfulEqCmp (compare : κ → κ → _)]

/-- Inserting increasing entries one by one: a lookup finds the entries' value at the key,
else the map's. -/
theorem get?_foldl_insert (k : κ) : ∀ (l : List (κ × β)), KeysIncrease l → ∀ m : SortedMap κ β,
    (l.foldl (fun m e => m.insert e.1 e.2) m).get? k =
      ((l.find? fun e => compare e.1 k == .eq).map (·.2)).or (m.get? k)
  | [], _, m => by simp
  | (k₀, v₀) :: rest, h, m => by
    unfold KeysIncrease at h
    rw [List.pairwise_cons] at h
    rw [List.foldl_cons, get?_foldl_insert k rest h.2]
    by_cases hk : k = k₀
    · -- the later entries all lie above `k₀`, so the inserted value is the one found
      subst hk
      have hrest : (rest.find? fun e => compare e.1 k == .eq) = none :=
        find?_eq_none_of_lt h.1
      simp [hrest, Std.ReflCmp.compare_self]
    · have hne : ¬ compare k₀ k = .eq := fun h' => hk (Std.LawfulEqCmp.eq_of_compare h').symm
      simp [get?_insert_of_ne _ _ hk, hne]

/-- The entries of `top` inserted into `base`: `top`'s value wins, `base`'s fills in. -/
theorem get?_foldl_insert_entries (base top : SortedMap κ β) (k : κ) :
    (top.entries.foldl (fun m e => m.insert e.1 e.2) base).get? k =
      (top.get? k).or (base.get? k) :=
  get?_foldl_insert k top.entries top.increasing base

/-- Altering a key twice alters it once by the composite. -/
theorem alter_alter (m : SortedMap κ β) (k : κ) (d : β) (f g : β → β) :
    (m.alter k d f).alter k d g = m.alter k d (g ∘ f) := by
  apply ext_get?
  intro j
  by_cases hj : j = k
  · subst hj
    simp
  · rw [get?_alter_of_ne _ _ _ hj, get?_alter_of_ne _ _ _ hj, get?_alter_of_ne _ _ _ hj]

end SortedMap

namespace Style

/-- Two styles with the same named properties and the same lookups of the others are equal. -/
theorem ext_get? {a b : Style} (hfill : a.fill = b.fill) (hstroke : a.stroke = b.stroke)
    (hwidth : a.strokeWidth = b.strokeWidth) (hcolor : a.textColor = b.textColor)
    (hextra : ∀ k, a.extra.get? k = b.extra.get? k) : a = b := by
  obtain ⟨_, _, _, _, ea⟩ := a
  obtain ⟨_, _, _, _, eb⟩ := b
  have : ea = eb := SortedMap.ext_get? hextra
  simp_all

variable (a b : Style)

@[simp] theorem overlay_fill : (a.overlay b).fill = b.fill.or a.fill := by
  show (b.fill <|> a.fill) = _
  cases b.fill <;> rfl

@[simp] theorem overlay_stroke : (a.overlay b).stroke = b.stroke.or a.stroke := by
  show (b.stroke <|> a.stroke) = _
  cases b.stroke <;> rfl

@[simp] theorem overlay_strokeWidth : (a.overlay b).strokeWidth = b.strokeWidth.or a.strokeWidth := by
  show (b.strokeWidth <|> a.strokeWidth) = _
  cases b.strokeWidth <;> rfl

@[simp] theorem overlay_textColor : (a.overlay b).textColor = b.textColor.or a.textColor := by
  show (b.textColor <|> a.textColor) = _
  cases b.textColor <;> rfl

@[simp] theorem get?_overlay_extra (k : String) :
    (a.overlay b).extra.get? k = (b.extra.get? k).or (a.extra.get? k) :=
  SortedMap.get?_foldl_insert_entries a.extra b.extra k

@[simp] theorem empty_fill : empty.fill = none := rfl

@[simp] theorem empty_stroke : empty.stroke = none := rfl

@[simp] theorem empty_strokeWidth : empty.strokeWidth = none := rfl

@[simp] theorem empty_textColor : empty.textColor = none := rfl

@[simp] theorem get?_empty_extra (k : String) : empty.extra.get? k = none := rfl

/-! ### The monoid laws -/

theorem overlay_assoc (c : Style) : (a.overlay b).overlay c = a.overlay (b.overlay c) := by
  apply ext_get? <;> intros <;> simp [Option.or_assoc]

theorem empty_overlay : empty.overlay a = a := by
  apply ext_get? <;> intros <;> simp

theorem overlay_empty : a.overlay empty = a := by
  apply ext_get? <;> intros <;> simp

theorem overlay_self : a.overlay a = a := by
  apply ext_get? <;> intros <;> simp

/-! ### Reading declarations -/

/-- Setting one property lays the style of that property alone over the style. -/
theorem set_eq_overlay (s : Style) (name value : String) :
    s.set name value = s.overlay (empty.set name value) := by
  unfold set
  split <;> refine ext_get? (by simp) (by simp) (by simp) (by simp) fun k => ?_
  case h_5 =>
    -- any other property goes to `extra`, where only its own key changes
    rw [get?_overlay_extra]
    by_cases hk : k = name
    · subst hk
      simp
    · simp [SortedMap.get?_insert_of_ne _ _ hk]
  all_goals simp

/-- One declaration read onto a style: its property set, or nothing when it declares none. -/
def declare (s : Style) (d : List Char) : Style :=
  match declaration d with
  | some (name, value) => s.set name value
  | none => s

theorem parseDeclarations_eq (input : String) :
    parseDeclarations input = (splitDeclarations 0 [] input.toList).foldl declare empty := rfl

theorem declare_eq_overlay (s : Style) (d : List Char) :
    declare s d = s.overlay (declare empty d) := by
  unfold declare
  split
  · exact set_eq_overlay s _ _
  · exact (overlay_empty s).symm

/-- Reading declarations onto a style lays the style they read alone over it. -/
theorem foldl_declare (ds : List (List Char)) (s : Style) :
    ds.foldl declare s = s.overlay (ds.foldl declare empty) := by
  induction ds generalizing s with
  | nil => exact (overlay_empty s).symm
  | cons d ds ih =>
    rw [List.foldl_cons, List.foldl_cons, ih, ih (declare empty d), declare_eq_overlay s d,
      overlay_assoc]

end Style

/-- A comma reached at depth zero ends the last piece of the text before it: the pieces after
it are read afresh. -/
theorem splitDeclarations_append_comma (r : List Char) : ∀ (l : List Char) (depth : Nat)
    (current : List Char), parenDepth depth l = 0 →
    splitDeclarations depth current (l ++ ',' :: r) =
      splitDeclarations depth current l ++ splitDeclarations 0 [] r
  | [], depth, current, h => by
    simp only [parenDepth] at h
    subst h
    simp [splitDeclarations]
  | c :: rest, depth, current, h => by
    simp only [parenDepth] at h
    simp only [List.cons_append, splitDeclarations]
    split
    · rw [if_pos ‹_›] at h
      exact splitDeclarations_append_comma r rest _ _ h
    · rw [if_neg ‹_›] at h
      split
      · rw [if_pos ‹_›] at h
        exact splitDeclarations_append_comma r rest _ _ h
      · rw [if_neg ‹_›] at h
        split
        · rw [splitDeclarations_append_comma r rest _ _ h, List.cons_append]
        · exact splitDeclarations_append_comma r rest _ _ h

namespace Syntax.Builder

variable (b : Builder) (s t : Style)

theorem setNodeStyle_setNodeStyle (id : String) :
    (b.setNodeStyle id s).setNodeStyle id t = b.setNodeStyle id (s.overlay t) := by
  simp only [setNodeStyle, SortedMap.alter_alter]
  congr
  funext x
  exact Style.overlay_assoc x s t

theorem setLinkStyle_setLinkStyle (i : Nat) :
    (b.setLinkStyle i s).setLinkStyle i t = b.setLinkStyle i (s.overlay t) := by
  simp only [setLinkStyle, SortedMap.alter_alter]
  congr
  funext x
  exact Style.overlay_assoc x s t

theorem setDefaultLinkStyle_setDefaultLinkStyle :
    (b.setDefaultLinkStyle s).setDefaultLinkStyle t = b.setDefaultLinkStyle (s.overlay t) := by
  simp only [setDefaultLinkStyle, Option.getD_some, Style.overlay_assoc]

theorem defineClass_defineClass (name : String) :
    (b.defineClass name s).defineClass name t = b.defineClass name (s.overlay t) := by
  simp only [defineClass, SortedMap.alter_alter]
  congr
  funext x
  exact Style.overlay_assoc x s t

end Syntax.Builder

/-- Styles under overlay form a monoid with the empty style as unit in which every style is
idempotent, and reading a declaration list maps a comma at depth zero to overlay. So a second
`style`, `linkStyle` or `classDef` for the same target leaves what one directive with both
declaration lists, joined by a comma, leaves. -/
theorem Style.parseDeclarations_overlay_hom :
    (∀ a b c : Style, (a.overlay b).overlay c = a.overlay (b.overlay c)) ∧
    (∀ a : Style, Style.empty.overlay a = a ∧ a.overlay Style.empty = a) ∧
    (∀ a : Style, a.overlay a = a) ∧
    ∀ d₁ d₂ : String, parenDepth 0 d₁.toList = 0 →
      parseDeclarations (d₁ ++ "," ++ d₂) =
          (parseDeclarations d₁).overlay (parseDeclarations d₂) ∧
      ∀ (b : Syntax.Builder) (id name : String) (i : Nat),
        (b.setNodeStyle id (parseDeclarations d₁)).setNodeStyle id (parseDeclarations d₂) =
            b.setNodeStyle id (parseDeclarations (d₁ ++ "," ++ d₂)) ∧
        (b.setLinkStyle i (parseDeclarations d₁)).setLinkStyle i (parseDeclarations d₂) =
            b.setLinkStyle i (parseDeclarations (d₁ ++ "," ++ d₂)) ∧
        (b.setDefaultLinkStyle (parseDeclarations d₁)).setDefaultLinkStyle
            (parseDeclarations d₂) =
          b.setDefaultLinkStyle (parseDeclarations (d₁ ++ "," ++ d₂)) ∧
        (b.defineClass name (parseDeclarations d₁)).defineClass name (parseDeclarations d₂) =
            b.defineClass name (parseDeclarations (d₁ ++ "," ++ d₂)) := by
  refine ⟨overlay_assoc, fun a => ⟨empty_overlay a, overlay_empty a⟩, overlay_self,
    fun d₁ d₂ h => ?_⟩
  -- the joined list is cut into the pieces of `d₁` and then those of `d₂`
  have hjoin : parseDeclarations (d₁ ++ "," ++ d₂) =
      (parseDeclarations d₁).overlay (parseDeclarations d₂) := by
    rw [parseDeclarations_eq, parseDeclarations_eq, parseDeclarations_eq, String.toList_append,
      String.toList_append, List.append_assoc]
    rw [show (",".toList ++ d₂.toList) = ',' :: d₂.toList from rfl,
      splitDeclarations_append_comma _ _ 0 [] h, List.foldl_append, foldl_declare]
  refine ⟨hjoin, fun b id name i => ?_⟩
  rw [hjoin]
  exact ⟨b.setNodeStyle_setNodeStyle _ _ id, b.setLinkStyle_setLinkStyle _ _ i,
    b.setDefaultLinkStyle_setDefaultLinkStyle _ _, b.defineClass_defineClass _ _ name⟩

/-- A colour with commas inside parentheses, then a stroke: read at once or one after the other,
the same style. -/
theorem Style.parseDeclarations_overlay_hom_rgb :
    parenDepth 0 "fill:rgb(1,2,3)".toList = 0 ∧
      parseDeclarations ("fill:rgb(1,2,3)" ++ "," ++ "stroke:blue") =
        (parseDeclarations "fill:rgb(1,2,3)").overlay (parseDeclarations "stroke:blue") :=
  have h : parenDepth 0 "fill:rgb(1,2,3)".toList = 0 := by decide
  ⟨h, (Style.parseDeclarations_overlay_hom.2.2.2 _ _ h).1⟩

end FlowLayout
