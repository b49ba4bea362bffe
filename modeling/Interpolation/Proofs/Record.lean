import Interpolation.Record

/-!
# Records from entries

Entries that are put in one after the other leave the last value of each key.  A
record has them in the order of their keys, so it is told apart from no other record
by the way it came about: its own entries put in again give it back.
-/

namespace Interpolation

variable {α : Type}

/-! ## The first and the last entry of a key -/

namespace Entries

/-- The first entry with the key has the value. -/
def First (entries : List (Text × α)) (key : Text) (value : α) : Prop :=
  ∃ before after, entries = before ++ (key, value) :: after ∧ ∀ entry ∈ before, entry.1 ≠ key

/-- The last entry with the key has the value. -/
def Last (entries : List (Text × α)) (key : Text) (value : α) : Prop :=
  ∃ before after, entries = before ++ (key, value) :: after ∧ ∀ entry ∈ after, entry.1 ≠ key

variable {entries : List (Text × α)} {key : Text} {value : α}

theorem lookup_eq_some_iff_first : entries.lookup key = some value ↔ First entries key value := by
  simp only [List.lookup_eq_some_iff, First, bne_iff_ne, ne_comm]

theorem first_reverse : First entries.reverse key value ↔ Last entries key value := by
  constructor
  · rintro ⟨before, after, h, hbefore⟩
    refine ⟨after.reverse, before.reverse, ?_, fun entry he => hbefore entry (List.mem_reverse.mp he)⟩
    rw [← List.reverse_reverse entries, h]
    simp only [List.reverse_append, List.reverse_cons, List.append_assoc, List.singleton_append]
  · rintro ⟨before, after, rfl, hafter⟩
    refine ⟨after.reverse, before.reverse, ?_, fun entry he => hafter entry (List.mem_reverse.mp he)⟩
    simp only [List.reverse_append, List.reverse_cons, List.append_assoc, List.singleton_append]

theorem lookup_reverse_eq_some_iff_last :
    entries.reverse.lookup key = some value ↔ Last entries key value :=
  lookup_eq_some_iff_first.trans first_reverse

theorem isSome_lookup_iff : (entries.lookup key).isSome ↔ key ∈ entries.map (·.1) := by
  simp only [List.lookup_isSome_iff, List.mem_map, beq_iff_eq, eq_comm (a := key)]

theorem lookup_cons (entry : Text × α) (rest : List (Text × α)) (key : Text) :
    (entry :: rest).lookup key = if key = entry.1 then some entry.2 else rest.lookup key :=
  Record.get?_cons key entry.1 entry.2 rest

theorem lookup_map {β : Type} (f : α → β) (entries : List (Text × α)) (key : Text) :
    (entries.map fun entry => (entry.1, f entry.2)).lookup key = (entries.lookup key).map f := by
  induction entries with
  | nil => rfl
  | cons entry rest ih =>
    rw [List.map_cons, lookup_cons, lookup_cons, ih]
    by_cases hkey : key = entry.1
    · rw [if_pos hkey, if_pos hkey, Option.map_some]
    · rw [if_neg hkey, if_neg hkey]

/-- Where no key occurs twice, it does not matter from which end entries are searched. -/
theorem lookup_reverse_of_nodup (h : (entries.map (·.1)).Nodup) (key : Text) :
    entries.reverse.lookup key = entries.lookup key := by
  induction entries with
  | nil => rfl
  | cons entry rest ih =>
    obtain ⟨hentry, hrest⟩ := List.nodup_cons.mp h
    rw [List.reverse_cons, List.lookup_append, ih hrest, lookup_cons, lookup_cons]
    by_cases hkey : key = entry.1
    · have hnone : rest.lookup key = none := by
        rw [← Option.not_isSome_iff_eq_none, isSome_lookup_iff, hkey]
        exact hentry
      rw [hnone, Option.none_or, if_pos hkey, if_pos hkey]
    · rw [if_neg hkey, if_neg hkey, List.lookup_nil, Option.or_none]

/-- Whatever entries are put into one after the other, the last one of a key is found
there, or else what was there before. -/
theorem get_foldl_put {M : Type} (get : M → Text → Option α) (put : M → Text → α → M)
    (h : ∀ m key value k, get (put m key value) k = if k = key then some value else get m k)
    (entries : List (Text × α)) (m : M) (k : Text) :
    get (entries.foldl (fun m entry => put m entry.1 entry.2) m) k =
      (entries.reverse.lookup k).or (get m k) := by
  induction entries generalizing m with
  | nil => rfl
  | cons entry rest ih =>
    rw [List.foldl_cons, ih, h, List.reverse_cons, List.lookup_append, lookup_cons, Option.or_assoc]
    by_cases hk : k = entry.1
    · rw [if_pos hk, if_pos hk, Option.some_or]
    · rw [if_neg hk, if_neg hk, List.lookup_nil, Option.none_or]

end Entries

namespace Record

theorem get?_ofList (entries : List (Text × α)) (key : Text) :
    (ofList entries).get? key = entries.reverse.lookup key := by
  have h := Entries.get_foldl_put get? (fun r key value => insert key value r)
    (fun r key value k => get?_insert r key k value) entries [] key
  rw [show get? ([] : Record α) key = none from rfl, Option.or_none] at h
  exact h

theorem eq_singleton_of_ofList {entries : List (Text × α)} {key : Text} {value : α}
    (hkeys : (entries.map (·.1)).Nodup) (h : ofList entries = [(key, value)]) :
    entries = [(key, value)] := by
  have hmem : ∀ entry ∈ entries, entry.1 = key := by
    intro entry he
    have hsome : ((ofList entries).get? entry.1).isSome := by
      rw [get?_ofList, Entries.isSome_lookup_iff, List.map_reverse, List.mem_reverse]
      exact List.mem_map_of_mem he
    rw [h, get?_cons] at hsome
    by_cases hkey : entry.1 = key
    · exact hkey
    · rw [if_neg hkey] at hsome
      cases hsome
  cases entries with
  | nil => cases h
  | cons first rest =>
    cases rest with
    | nil => exact h
    | cons second rest =>
      obtain ⟨hfirst, -⟩ := List.nodup_cons.mp hkeys
      have hsame : first.1 = second.1 := by
        rw [hmem first List.mem_cons_self,
          hmem second (List.mem_cons_of_mem _ List.mem_cons_self)]
      exact absurd (List.mem_cons.mpr (Or.inl hsame)) hfirst

/-! ## The order of the keys -/

/-- The keys go up, so none occurs twice. -/
def Ordered (r : Record α) : Prop := r.Pairwise fun a b => a.1 < b.1

theorem lt_of_not_lt {key k : Text} (h : ¬ key < k) (hne : key ≠ k) : k < key := by
  by_cases hlt : k < key
  · exact hlt
  · exact absurd (List.le_antisymm (List.not_lt.mp hlt) (List.not_lt.mp h)) hne

theorem mem_insert {r : Record α} {key : Text} {value : α} {entry : Text × α}
    (h : entry ∈ r.insert key value) : entry = (key, value) ∨ entry ∈ r := by
  induction r with
  | nil => exact Or.inl (List.mem_singleton.mp h)
  | cons first rest ih =>
    obtain ⟨k, v⟩ := first
    rw [insert] at h
    split at h
    · exact (List.mem_cons.mp h).imp_right (List.mem_cons_of_mem _)
    · split at h
      · exact List.mem_cons.mp h
      · rcases List.mem_cons.mp h with rfl | h
        · exact Or.inr List.mem_cons_self
        · exact (ih h).imp_right (List.mem_cons_of_mem _)

theorem Ordered.insert {r : Record α} (h : Ordered r) (key : Text) (value : α) :
    Ordered (r.insert key value) := by
  induction r with
  | nil => exact List.pairwise_singleton _ _
  | cons first rest ih =>
    obtain ⟨k, v⟩ := first
    obtain ⟨hfirst, hrest⟩ := List.pairwise_cons.mp h
    rw [Record.insert]
    by_cases hkey : key = k
    · subst hkey
      rw [if_pos rfl]
      exact List.pairwise_cons.mpr ⟨hfirst, hrest⟩
    · rw [if_neg hkey]
      by_cases hlt : key < k
      · rw [if_pos hlt]
        refine List.pairwise_cons.mpr ⟨fun entry he => ?_, h⟩
        rcases List.mem_cons.mp he with rfl | he
        · exact hlt
        · exact List.lt_trans hlt (hfirst entry he)
      · rw [if_neg hlt]
        refine List.pairwise_cons.mpr ⟨fun entry he => ?_, ih hrest⟩
        rcases mem_insert he with rfl | he
        · exact lt_of_not_lt hlt hkey
        · exact hfirst entry he

/-- What holds of every entry that is put in, holds of every entry of the record. -/
theorem forall_mem_ofList {P : Text × α → Prop} {entries : List (Text × α)}
    (h : ∀ entry ∈ entries, P entry) : ∀ entry ∈ ofList entries, P entry := by
  have hfold : ∀ r : Record α, (∀ entry ∈ r, P entry) →
      ∀ entry ∈ entries.foldl (fun r entry => r.insert entry.1 entry.2) r, P entry := by
    induction entries with
    | nil => exact fun r hr => hr
    | cons first rest ih =>
      intro r hr
      refine ih (fun entry he => h entry (List.mem_cons_of_mem _ he)) _ fun entry he => ?_
      rcases mem_insert he with rfl | he
      · exact h _ List.mem_cons_self
      · exact hr entry he
  exact hfold [] fun entry he => absurd he List.not_mem_nil

theorem ordered_ofList (entries : List (Text × α)) : Ordered (ofList entries) := by
  have hfold : ∀ r : Record α, Ordered r →
      Ordered (entries.foldl (fun r entry => r.insert entry.1 entry.2) r) := by
    induction entries with
    | nil => exact fun r hr => hr
    | cons first rest ih => exact fun r hr => ih _ (hr.insert first.1 first.2)
  exact hfold [] List.Pairwise.nil

theorem insert_of_forall_lt {r : Record α} {key : Text} (h : ∀ entry ∈ r, entry.1 < key)
    (value : α) : r.insert key value = r ++ [(key, value)] := by
  induction r with
  | nil => rfl
  | cons first rest ih =>
    obtain ⟨k, v⟩ := first
    have hlt : k < key := h (k, v) List.mem_cons_self
    have hne : key ≠ k := fun heq => List.lt_irrefl k (heq ▸ hlt)
    have hle : ¬ key < k := List.lt_asymm hlt
    rw [insert, if_neg hne, if_neg hle, ih fun entry he => h entry (List.mem_cons_of_mem _ he)]
    rfl

theorem ofList_of_ordered {r : Record α} (h : Ordered r) : ofList r = r := by
  -- Each entry goes behind those before it, so they stand there as they came.
  have hfold : ∀ done : Record α, Ordered (done ++ r) →
      r.foldl (fun r entry => r.insert entry.1 entry.2) done = done ++ r := by
    clear h
    induction r with
    | nil => exact fun done _ => (List.append_nil done).symm
    | cons first rest ih =>
      intro done h
      have hdone : ∀ entry ∈ done, entry.1 < first.1 := fun entry he =>
        (List.pairwise_append.mp h).2.2 entry he first List.mem_cons_self
      have hnext : Ordered (done ++ [first] ++ rest) := by
        rw [← List.append_cons]
        exact h
      rw [List.foldl_cons, insert_of_forall_lt hdone, List.append_cons done first rest]
      exact ih _ hnext
  exact hfold [] h

end Record
end Interpolation
