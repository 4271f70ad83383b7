/-!
# Sorted maps

A `SortedMap κ β` is a list of entries whose keys strictly increase under `compare`, so a map
has exactly one representation and two maps with the same entries are equal. `insert` puts a
key in its place and replaces the value of a key already there; `alter` rewrites the value at
a key, starting from a default where the key is missing. Both keep the order, and the proof
of that travels with the map.
-/

namespace FlowLayout

/-- Entries with strictly increasing keys. -/
def KeysIncrease {κ β : Type} [Ord κ] (entries : List (κ × β)) : Prop :=
  entries.Pairwise fun a b => compare a.1 b.1 = .lt

/-- A finite map kept as a key-sorted list. -/
structure SortedMap (κ β : Type) [Ord κ] where
  entries : List (κ × β)
  increasing : KeysIncrease entries

namespace SortedMap

variable {κ β : Type} [Ord κ]

/-- The map without entries. -/
def empty : SortedMap κ β := ⟨[], List.Pairwise.nil⟩

instance : EmptyCollection (SortedMap κ β) := ⟨empty⟩

instance : Inhabited (SortedMap κ β) := ⟨empty⟩

/-- `(k, v)` in its place among sorted entries, replacing an entry with key `k`. -/
def insertEntry (k : κ) (v : β) : List (κ × β) → List (κ × β)
  | [] => [(k, v)]
  | (k', v') :: rest =>
    match compare k k' with
    | .lt => (k, v) :: (k', v') :: rest
    | .eq => (k, v) :: rest
    | .gt => (k', v') :: insertEntry k v rest

/-- Every key of `insertEntry k v l` is `k` or a key of `l`. -/
theorem key_of_mem_insertEntry {k : κ} {v : β} {l : List (κ × β)} {e : κ × β}
    (h : e ∈ insertEntry k v l) : e.1 = k ∨ ∃ e' ∈ l, e'.1 = e.1 := by
  induction l with
  | nil => simp [insertEntry] at h; exact .inl (by rw [h])
  | cons hd rest ih =>
    obtain ⟨k', v'⟩ := hd
    simp only [insertEntry] at h
    split at h
    · simp only [List.mem_cons] at h
      rcases h with rfl | rfl | h
      · exact .inl rfl
      · exact .inr ⟨(k', v'), by simp, rfl⟩
      · exact .inr ⟨e, by simp [h], rfl⟩
    · simp only [List.mem_cons] at h
      rcases h with rfl | h
      · exact .inl rfl
      · exact .inr ⟨e, by simp [h], rfl⟩
    · simp only [List.mem_cons] at h
      rcases h with rfl | h
      · exact .inr ⟨(k', v'), by simp, rfl⟩
      · rcases ih h with h' | ⟨e', he', hk⟩
        · exact .inl h'
        · exact .inr ⟨e', by simp [he'], hk⟩

/-- Inserting keeps keys increasing. -/
theorem insertEntry_increasing [Std.TransCmp (compare : κ → κ → Ordering)]
    [Std.LawfulEqCmp (compare : κ → κ → Ordering)] (k : κ) (v : β) :
    ∀ l : List (κ × β), KeysIncrease l → KeysIncrease (insertEntry k v l)
  | [], _ => List.pairwise_singleton _ _
  | (k', v') :: rest, h => by
    unfold KeysIncrease at h
    rw [List.pairwise_cons] at h
    obtain ⟨hhead, hrest⟩ := h
    unfold insertEntry
    split
    · next hlt =>
      refine List.Pairwise.cons ?_ (List.Pairwise.cons hhead hrest)
      intro e he
      simp only [List.mem_cons] at he
      rcases he with rfl | he
      · exact hlt
      · exact Std.TransCmp.lt_trans hlt (hhead e he)
    · next heq =>
      have : k = k' := Std.LawfulEqCmp.eq_of_compare heq
      subst this
      exact List.Pairwise.cons (fun e he => hhead e he) hrest
    · next hgt =>
      refine List.Pairwise.cons ?_ (insertEntry_increasing k v rest hrest)
      intro e he
      rcases key_of_mem_insertEntry he with hk | ⟨e', he', hk⟩
      · rw [hk]; exact Std.OrientedCmp.gt_iff_lt.mp hgt
      · rw [← hk]; exact hhead e' he'

variable [Std.TransCmp (compare : κ → κ → Ordering)]
  [Std.LawfulEqCmp (compare : κ → κ → Ordering)]

/-- The map with `k` bound to `v`. -/
def insert (m : SortedMap κ β) (k : κ) (v : β) : SortedMap κ β :=
  ⟨insertEntry k v m.entries, insertEntry_increasing k v m.entries m.increasing⟩

/-- The value at `k`. -/
def get? (m : SortedMap κ β) (k : κ) : Option β :=
  (m.entries.find? fun e => compare e.1 k == .eq).map (·.2)

/-- Whether `k` has a value. -/
def contains (m : SortedMap κ β) (k : κ) : Bool := (m.get? k).isSome

/-- The map with the value at `k` replaced by `f` of it, or of `d` when `k` is missing. -/
def alter (m : SortedMap κ β) (k : κ) (d : β) (f : β → β) : SortedMap κ β :=
  m.insert k (f ((m.get? k).getD d))

/-- The keys, increasing. -/
def keys (m : SortedMap κ β) : List κ := m.entries.map (·.1)

/-- Whether the map has no entries. -/
def isEmpty (m : SortedMap κ β) : Bool := m.entries.isEmpty

end SortedMap

end FlowLayout
