import Interpolation.Text

/-!
# Records

A record holds at most one value for a key and keeps its entries in the order of
their keys.  Keys are ordered by their characters, so equal contents give equal
records, whatever the order in which they were put in.
-/

namespace Interpolation

abbrev Record (α : Type) := List (Text × α)

namespace Record

variable {α : Type}

/-- Put a value under a key; it takes the place of an earlier one. -/
def insert (key : Text) (value : α) : Record α → Record α
  | [] => [(key, value)]
  | (k, v) :: rest =>
    if key = k then (key, value) :: rest
    else if key < k then (key, value) :: (k, v) :: rest
    else (k, v) :: insert key value rest

def erase (key : Text) (r : Record α) : Record α := r.filter (·.1 ≠ key)

/-- Entries put in one after the other, so the last one with a key stays. -/
def ofList (entries : List (Text × α)) : Record α :=
  entries.foldl (fun r entry => r.insert entry.1 entry.2) []

def get? (r : Record α) (key : Text) : Option α := r.lookup key

def keys (r : Record α) : List Text := r.map (·.1)

theorem get?_cons (key k : Text) (v : α) (r : Record α) :
    get? ((k, v) :: r) key = if key = k then some v else r.get? key := by
  by_cases h : key = k
  · simp [get?, h]
  · simp [get?, List.lookup_cons, h, beq_false_of_ne]

theorem get?_insert (r : Record α) (key k : Text) (v : α) :
    (r.insert key v).get? k = if k = key then some v else r.get? k := by
  induction r with
  | nil => simp [insert, get?_cons]
  | cons entry rest ih =>
    obtain ⟨k', v'⟩ := entry
    by_cases h : key = k'
    · subst h
      by_cases hk : k = key <;> simp [insert, get?_cons, hk]
    · by_cases hlt : key < k'
      · simp [insert, h, hlt, get?_cons]
      · rw [insert, if_neg h, if_neg hlt, get?_cons, get?_cons, ih]
        by_cases hk : k = key
        · subst hk
          simp [h]
        · simp [hk]

theorem get?_insert_of_ne (r : Record α) {key k : Text} (h : k ≠ key) (v : α) :
    (r.insert key v).get? k = r.get? k := by
  rw [get?_insert, if_neg h]

theorem get?_insert_cases {r : Record α} {key k : Text} {v w : α}
    (h : (r.insert key v).get? k = some w) : w = v ∨ r.get? k = some w := by
  rw [get?_insert] at h
  by_cases hk : k = key
  · rw [if_pos hk] at h
    exact Or.inl (Option.some.inj h).symm
  · rw [if_neg hk] at h
    exact Or.inr h

/-- Which keys there are after a value is put in depends only on the keys before. -/
theorem keys_insert_congr {r r' : Record α} (h : r.keys = r'.keys) (key : Text) (value : α) :
    (r.insert key value).keys = (r'.insert key value).keys := by
  induction r generalizing r' with
  | nil =>
    cases r' with
    | nil => rfl
    | cons entry rest => cases h
  | cons entry rest ih =>
    cases r' with
    | nil => cases h
    | cons entry' rest' =>
      obtain ⟨k, v⟩ := entry
      obtain ⟨k', v'⟩ := entry'
      obtain ⟨rfl, hrest⟩ : k = k' ∧ keys rest = keys rest' := List.cons.inj h
      by_cases hk : key = k
      · rw [insert, insert, if_pos hk, if_pos hk]
        show key :: keys rest = key :: keys rest'
        rw [hrest]
      · by_cases hlt : key < k
        · rw [insert, insert, if_neg hk, if_neg hk, if_pos hlt, if_pos hlt]
          show key :: k :: keys rest = key :: k :: keys rest'
          rw [hrest]
        · rw [insert, insert, if_neg hk, if_neg hk, if_neg hlt, if_neg hlt]
          show k :: keys (insert key value rest) = k :: keys (insert key value rest')
          rw [ih hrest]

theorem keys_erase (r : Record α) (key : Text) :
    (r.erase key).keys = r.keys.filter (· ≠ key) := by
  rw [erase, keys, keys, List.filter_map]
  rfl

theorem get?_erase (r : Record α) (key k : Text) :
    (r.erase key).get? k = if k = key then none else r.get? k := by
  induction r with
  | nil => simp [erase, get?]
  | cons entry rest ih =>
    obtain ⟨k', v'⟩ := entry
    by_cases h : k' = key
    · rw [erase, List.filter_cons_of_neg (by simp [h]), ← erase, ih, get?_cons, h]
      by_cases hk : k = key <;> simp [hk]
    · rw [erase, List.filter_cons_of_pos (by simpa using h), ← erase, get?_cons, get?_cons, ih]
      by_cases hk : k = key
      · subst hk
        simp [Ne.symm h]
      · simp [hk]

theorem get?_erase_of_ne (r : Record α) {key k : Text} (h : k ≠ key) :
    (r.erase key).get? k = r.get? k := by
  rw [get?_erase, if_neg h]

theorem get?_of_erase {r : Record α} {key k : Text} {w : α}
    (h : (r.erase key).get? k = some w) : r.get? k = some w := by
  rw [get?_erase] at h
  by_cases hk : k = key
  · rw [if_pos hk] at h
    cases h
  · rw [if_neg hk] at h
    exact h

end Record
end Interpolation
