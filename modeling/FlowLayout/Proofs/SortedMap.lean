import FlowLayout.Data.SortedMap
/-!
# Keys of sorted maps

The keys of a sorted map are without repeats, since they strictly increase; inserting adds its
key and keeps the others; a map contains exactly its keys.

A sorted map is fixed by its lookups (`ext_get?`): two maps that give the same value at every
key are equal. Inserting and altering change the lookup at their own key only, so two alters at
different keys commute (`alter_comm`).
-/

namespace FlowLayout

namespace SortedMap

variable {κ β : Type} [Ord κ]

@[simp] theorem keys_empty : (({} : SortedMap κ β)).keys = [] := rfl

variable [Std.LawfulEqCmp (compare : κ → κ → _)]

theorem mem_keys_insertEntry {k k' : κ} {v : β} :
    ∀ l : List (κ × β), k' ∈ (insertEntry k v l).map (·.1) ↔ k' = k ∨ k' ∈ l.map (·.1)
  | [] => by simp [insertEntry]
  | (k₀, v₀) :: rest => by
    unfold insertEntry
    split
    · simp
    · next heq =>
      -- the new key replaces an equal one
      have hk : k = k₀ := Std.LawfulEqCmp.eq_of_compare heq
      subst hk
      simp
    · rw [List.map_cons, List.mem_cons, mem_keys_insertEntry rest]
      simp only [List.map_cons, List.mem_cons]
      constructor
      · rintro (h | h | h)
        · exact .inr (.inl h)
        · exact .inl h
        · exact .inr (.inr h)
      · rintro (h | h | h)
        · exact .inr (.inl h)
        · exact .inl h
        · exact .inr (.inr h)

theorem mem_keys_insert [Std.TransCmp (compare : κ → κ → _)] {m : SortedMap κ β}
    {k k' : κ} {v : β} :
    k' ∈ (m.insert k v).keys ↔ k' = k ∨ k' ∈ m.keys :=
  mem_keys_insertEntry m.entries

theorem contains_iff_mem_keys {m : SortedMap κ β} {k : κ} : m.contains k = true ↔ k ∈ m.keys := by
  simp only [contains, get?, Option.isSome_map, List.find?_isSome, beq_iff_eq, keys,
    List.mem_map]
  constructor
  · rintro ⟨e, he, hcmp⟩
    exact ⟨e, he, Std.LawfulEqCmp.eq_of_compare hcmp⟩
  · rintro ⟨e, he, rfl⟩
    exact ⟨e, he, Std.ReflCmp.compare_self⟩

/-- Keys strictly increase, so none repeats. -/
theorem keys_nodup (m : SortedMap κ β) : m.keys.Nodup := by
  unfold keys
  rw [List.Nodup, List.pairwise_map]
  refine m.increasing.imp fun {a b} hlt heq => ?_
  have hself : compare b.1 b.1 = Ordering.eq := Std.ReflCmp.compare_self
  rw [heq, hself] at hlt
  exact nomatch hlt

section Lookup

/-- Nothing is found at a key below every key of the entries. -/
theorem find?_eq_none_of_lt {k : κ} {l : List (κ × β)} (h : ∀ e ∈ l, compare k e.1 = .lt) :
    (l.find? fun e => compare e.1 k == .eq) = none := by
  rw [List.find?_eq_none]
  intro e he heq
  have hk : e.1 = k := by simpa using heq
  have hlt := h e he
  rw [hk] at hlt
  simp [Std.ReflCmp.compare_self] at hlt

/-- What is found at a key has that key. -/
theorem key_of_find? {k : κ} {l : List (κ × β)} {e : κ × β}
    (h : (l.find? fun e => compare e.1 k == .eq) = some e) : e.1 = k := by
  simpa using List.find?_some h

theorem find?_insertEntry_of_ne {k k' : κ} (v : β) (hne : k' ≠ k) : ∀ l : List (κ × β),
    ((insertEntry k v l).find? fun e => compare e.1 k' == .eq) =
      l.find? fun e => compare e.1 k' == .eq
  | [] => by simp [insertEntry, Ne.symm hne]
  | (k₀, v₀) :: rest => by
    have hk : ¬ compare k k' = .eq := fun h => hne (Std.LawfulEqCmp.eq_of_compare h).symm
    unfold insertEntry
    split
    · simp [hk]
    · next heq =>
      have : k = k₀ := Std.LawfulEqCmp.eq_of_compare heq
      subst this
      simp [hk]
    · simp only [List.find?_cons]
      rw [find?_insertEntry_of_ne v hne rest]

variable [Std.TransCmp (compare : κ → κ → _)]

theorem find?_insertEntry_self (k : κ) (v : β) : ∀ l : List (κ × β),
    ((insertEntry k v l).find? fun e => compare e.1 k == .eq) = some (k, v)
  | [] => by simp [insertEntry, Std.ReflCmp.compare_self]
  | (k₀, v₀) :: rest => by
    unfold insertEntry
    split
    · simp [Std.ReflCmp.compare_self]
    · simp [Std.ReflCmp.compare_self]
    · next hgt =>
      -- the entry kept in front lies below `k`
      have hlt : compare k₀ k = .lt := Std.OrientedCmp.gt_iff_lt.mp hgt
      simp [hlt, find?_insertEntry_self k v rest]

@[simp] theorem get?_insert_self (m : SortedMap κ β) (k : κ) (v : β) :
    (m.insert k v).get? k = some v := by
  simp [get?, insert, find?_insertEntry_self]

theorem get?_insert_of_ne (m : SortedMap κ β) {k k' : κ} (v : β) (h : k' ≠ k) :
    (m.insert k v).get? k' = m.get? k' := by
  simp only [get?, insert, find?_insertEntry_of_ne v h]

@[simp] theorem get?_alter_self (m : SortedMap κ β) (k : κ) (d : β) (f : β → β) :
    (m.alter k d f).get? k = some (f ((m.get? k).getD d)) :=
  get?_insert_self m k _

theorem get?_alter_of_ne (m : SortedMap κ β) {k k' : κ} (d : β) (f : β → β) (h : k' ≠ k) :
    (m.alter k d f).get? k' = m.get? k' :=
  get?_insert_of_ne m _ h

/-- Entries with increasing keys are fixed by what is found at each key. -/
theorem entries_ext : ∀ {l l' : List (κ × β)}, KeysIncrease l → KeysIncrease l' →
    (∀ k, (l.find? fun e => compare e.1 k == .eq) = l'.find? fun e => compare e.1 k == .eq) →
      l = l'
  | [], [], _, _, _ => rfl
  | [], (k', v') :: _, _, _, h => by
    have := h k'
    simp [Std.ReflCmp.compare_self] at this
  | (k, v) :: _, [], _, _, h => by
    have := h k
    simp [Std.ReflCmp.compare_self] at this
  | (k, v) :: r, (k', v') :: r', hl, hl', h => by
    unfold KeysIncrease at hl hl'
    rw [List.pairwise_cons] at hl hl'
    -- the first keys agree: each would otherwise be found behind the other's first entry
    have hkk : k = k' := by
      refine Classical.byContradiction fun hne => ?_
      have hk : (r'.find? fun e => compare e.1 k == .eq) = some (k, v) := by
        have := h k
        rw [List.find?_cons_of_pos (by simp), List.find?_cons_of_neg (by simpa using Ne.symm hne)]
          at this
        exact this.symm
      have hk' : (r.find? fun e => compare e.1 k' == .eq) = some (k', v') := by
        have := h k'
        rw [List.find?_cons_of_neg (by simpa using hne), List.find?_cons_of_pos (by simp)] at this
        exact this
      have h₁ : compare k' k = .lt := hl'.1 (k, v) (List.mem_of_find?_eq_some hk)
      have h₂ : compare k' k = .gt :=
        Std.OrientedCmp.gt_iff_lt.mpr (hl.1 (k', v') (List.mem_of_find?_eq_some hk'))
      rw [h₁] at h₂
      exact nomatch h₂
    subst hkk
    have hv : v = v' := by
      have := h k
      simpa [Std.ReflCmp.compare_self] using this
    subst hv
    congr 1
    refine entries_ext hl.2 hl'.2 fun j => ?_
    by_cases hj : j = k
    · subst hj
      rw [find?_eq_none_of_lt hl.1, find?_eq_none_of_lt hl'.1]
    · have hne : ¬ compare k j = .eq := fun h => hj (Std.LawfulEqCmp.eq_of_compare h).symm
      simpa [hne] using h j

/-- A sorted map is fixed by its lookups. -/
theorem ext_get? {m m' : SortedMap κ β} (h : ∀ k, m.get? k = m'.get? k) : m = m' := by
  obtain ⟨l, hl⟩ := m
  obtain ⟨l', hl'⟩ := m'
  congr
  refine entries_ext hl hl' fun k => ?_
  have hk := h k
  simp only [get?] at hk
  cases he : l.find? (fun e => compare e.1 k == .eq) with
  | none =>
    rw [he, Option.map_none] at hk
    exact (Option.map_eq_none_iff.1 hk.symm).symm
  | some e =>
    rw [he, Option.map_some] at hk
    obtain ⟨e', he', hv⟩ := Option.map_eq_some_iff.1 hk.symm
    rw [he']
    have hkey : e.1 = e'.1 := (key_of_find? he).trans (key_of_find? he').symm
    exact congrArg some (Prod.ext hkey hv.symm)

/-- Alters at different keys commute. -/
theorem alter_comm (m : SortedMap κ β) {k k' : κ} (h : k ≠ k') (d d' : β) (f f' : β → β) :
    (m.alter k d f).alter k' d' f' = (m.alter k' d' f').alter k d f := by
  apply ext_get?
  intro j
  by_cases hj : j = k
  · subst hj
    rw [get?_alter_of_ne _ _ _ h, get?_alter_self, get?_alter_self, get?_alter_of_ne _ _ _ h]
  · by_cases hj' : j = k'
    · subst hj'
      rw [get?_alter_self, get?_alter_of_ne _ _ _ (Ne.symm h), get?_alter_of_ne _ _ _ (Ne.symm h),
        get?_alter_self]
    · rw [get?_alter_of_ne _ _ _ hj', get?_alter_of_ne _ _ _ hj, get?_alter_of_ne _ _ _ hj,
        get?_alter_of_ne _ _ _ hj']

end Lookup

end SortedMap

end FlowLayout
