import Interpolation.Proofs.Record
import Interpolation.Rendering
import Interpolation.Table.Entries

/-!
# Tables of the same entries

However a map keeps its entries, it answers with the last value of a key; however a
row keeps them, it answers with the first.  So all maps of some entries are one table,
all rows of them are one table, and the maps are the rows of the entries the other way
round.  They differ only on keys that occur more than once.
-/

namespace Interpolation.Table

/-- The tables that put their entries into a map, also when they are asked through
another table. -/
def maps (entries : List Entry) : List Table :=
  [hashed entries, ordered entries, (hashed entries).forward, (ordered entries).forward]

/-- The tables that search their entries from the front. -/
def rows (entries : List Entry) : List Table :=
  [ofList entries, ofArray entries.toArray, ofVector entries.toArray.toVector]

/-! ## Maps -/

theorem getElem?_foldl_insert (entries : List Entry) (key : Text) :
    (entries.foldl (fun m entry => m.insert entry.1 entry.2) (∅ : Std.HashMap Text Value))[key]? =
      entries.reverse.lookup key := by
  have hput : ∀ (m : Std.HashMap Text Value) (key : Text) (value : Value) (k : Text),
      (m.insert key value)[k]? = if k = key then some value else m[k]? := by
    intro m key value k
    rw [Std.HashMap.getElem?_insert]
    simp only [beq_iff_eq, eq_comm (a := k)]
  have h := Entries.get_foldl_put (fun (m : Std.HashMap Text Value) (k : Text) => m[k]?)
    (fun m key value => m.insert key value) hput entries ∅ key
  rw [Std.HashMap.getElem?_empty, Option.or_none] at h
  exact h

theorem lookup_hashed (entries : List Entry) (key : Text) :
    (hashed entries).lookup key = (entries.reverse.lookup key).map Value.display := by
  show Option.map Value.display _ = _
  rw [getElem?_foldl_insert]

theorem lookup_ordered (entries : List Entry) (key : Text) :
    (ordered entries).lookup key = (entries.reverse.lookup key).map Value.display := by
  show Option.map Value.display _ = _
  rw [Record.get?_ofList]

theorem eq_of_mem_maps {entries : List Entry} {t : Table} (h : t ∈ maps entries) :
    t = ofList entries.reverse := by
  have hhashed : hashed entries = ofList entries.reverse :=
    Table.ext (funext (lookup_hashed entries))
  have hordered : ordered entries = ofList entries.reverse :=
    Table.ext (funext (lookup_ordered entries))
  rcases h with _ | ⟨_, _ | ⟨_, _ | ⟨_, _ | ⟨_, h⟩⟩⟩⟩
  · exact hhashed
  · exact hordered
  · exact hhashed
  · exact hordered
  · exact absurd h List.not_mem_nil

/-! ## Rows -/

theorem map_find?_key {β : Type} (entries : List Entry) (key : Text) (f : Value → β) :
    (entries.find? (·.1 == key)).map (fun entry => f entry.2) = (entries.lookup key).map f := by
  induction entries with
  | nil => rfl
  | cons entry rest ih =>
    rw [Entries.lookup_cons]
    by_cases hkey : key = entry.1
    · rw [List.find?_cons_of_pos (by simp [hkey]), if_pos hkey]
      rfl
    · rw [List.find?_cons_of_neg (by simp [Ne.symm hkey]), if_neg hkey]
      exact ih

theorem lookup_ofArray (entries : List Entry) (key : Text) :
    (ofArray entries.toArray).lookup key = (entries.lookup key).map Value.display := by
  show Option.map (fun entry => entry.2.display) (entries.toArray.find? (·.1 == key)) = _
  rw [List.find?_toArray, map_find?_key]

theorem eq_of_mem_rows {entries : List Entry} {t : Table} (h : t ∈ rows entries) :
    t = ofList entries := by
  have harray : ofArray entries.toArray = ofList entries :=
    Table.ext (funext (lookup_ofArray entries))
  rcases h with _ | ⟨_, _ | ⟨_, _ | ⟨_, h⟩⟩⟩
  · rfl
  · exact harray
  · exact harray
  · exact absurd h List.not_mem_nil

theorem lookup_ofList_eq_some_iff {entries : List Entry} {key text : Text} :
    (ofList entries).lookup key = some text ↔
      ∃ value, Entries.First entries key value ∧ value.display = text := by
  simp only [ofList, Option.map_eq_some_iff, Entries.lookup_eq_some_iff_first]

/-! ## All of them -/

/-- Rendering cannot tell the maps of some entries apart, nor the rows of them, nor the
maps from the rows of the entries in reverse; and where no key occurs twice it cannot
tell any two of these tables apart.  A map answers with the text of the last entry with
exactly the key that it is asked for, a row with that of the first. -/
theorem renderTo_maps_rows (entries : List Entry) (p : Pattern) (missing : Missing) (w : Writer) :
    let run (t : Table) := p.renderTo w t missing
    (∀ s ∈ maps entries, ∀ t ∈ maps entries, run s = run t) ∧
      (∀ s ∈ rows entries, ∀ t ∈ rows entries, run s = run t) ∧
      (∀ s ∈ maps entries, ∀ t ∈ rows entries.reverse, run s = run t) ∧
      ((entries.map (·.1)).Nodup →
        ∀ s ∈ maps entries ++ rows entries, ∀ t ∈ maps entries ++ rows entries, run s = run t) ∧
      ∀ key text,
        (∀ t ∈ maps entries, t.lookup key = some text ↔
          ∃ value, Entries.Last entries key value ∧ value.display = text) ∧
        ∀ t ∈ rows entries, t.lookup key = some text ↔
          ∃ value, Entries.First entries key value ∧ value.display = text := by
  intro run
  refine ⟨fun s hs t ht => ?_, fun s hs t ht => ?_, fun s hs t ht => ?_, fun hkeys => ?_,
    fun key text => ⟨fun t ht => ?_, fun t ht => ?_⟩⟩
  · rw [eq_of_mem_maps hs, eq_of_mem_maps ht]
  · rw [eq_of_mem_rows hs, eq_of_mem_rows ht]
  · rw [eq_of_mem_maps hs, eq_of_mem_rows ht]
  · have hreverse : ofList entries.reverse = ofList entries := by
      refine Table.ext (funext fun key => ?_)
      show Option.map Value.display _ = Option.map Value.display _
      rw [Entries.lookup_reverse_of_nodup hkeys]
    have hall : ∀ t ∈ maps entries ++ rows entries, t = ofList entries := fun t ht =>
      (List.mem_append.mp ht).elim (fun h => (eq_of_mem_maps h).trans hreverse) eq_of_mem_rows
    intro s hs t ht
    rw [hall s hs, hall t ht]
  · rw [eq_of_mem_maps ht, lookup_ofList_eq_some_iff]
    simp only [Entries.first_reverse]
  · rw [eq_of_mem_rows ht, lookup_ofList_eq_some_iff]

/-- A key that occurs twice, between which another one stands, and room for two
characters. -/
theorem renderTo_maps_rows_repeated :
    let entries : List Entry :=
      [(['a'], .text ['1']), (['b'], .integer (-2)), (['a'], .bool true)]
    let distinct : List Entry := [(['a'], .text ['1']), (['b'], .integer (-2))]
    let p : Pattern := ⟨[.substitution ['b'], .substitution ['a']]⟩
    let w : Writer := ⟨[], some 2⟩
    (distinct.map (·.1)).Nodup ∧
      hashed entries ∈ maps entries ∧ ofArray entries.reverse.toArray ∈ rows entries.reverse ∧
      p.renderTo w (hashed entries) .keep = p.renderTo w (ofArray entries.reverse.toArray) .keep ∧
      (hashed entries).lookup ['a'] = some "true".toList ∧
      (ofVector entries.toArray.toVector).lookup ['a'] = some ['1'] ∧
      p.renderTo w (hashed distinct) .keep = p.renderTo w (ofList distinct) .keep := by
  intro entries distinct p w
  have hkeys : (distinct.map (·.1)).Nodup := by decide
  have hmap : hashed entries ∈ maps entries := List.mem_cons_self
  have hrow : ofArray entries.reverse.toArray ∈ rows entries.reverse :=
    List.mem_cons_of_mem _ List.mem_cons_self
  have hvector : ofVector entries.toArray.toVector ∈ rows entries :=
    List.mem_cons_of_mem _ (List.mem_cons_of_mem _ List.mem_cons_self)
  obtain ⟨-, -, hreverse, -, hanswer⟩ := renderTo_maps_rows entries p .keep w
  obtain ⟨-, -, -, hdistinct, -⟩ := renderTo_maps_rows distinct p .keep w
  obtain ⟨hlast, -⟩ := hanswer ['a'] "true".toList
  obtain ⟨-, hfirst⟩ := hanswer ['a'] ['1']
  refine ⟨hkeys, hmap, hrow, hreverse _ hmap _ hrow, (hlast _ hmap).mpr ?_,
    (hfirst _ hvector).mpr ?_, hdistinct hkeys _ ?_ _ ?_⟩
  · exact ⟨.bool true, ⟨entries.take 2, [], rfl, fun _ h => absurd h List.not_mem_nil⟩, rfl⟩
  · exact ⟨.text ['1'], ⟨[], entries.drop 1, rfl, fun _ h => absurd h List.not_mem_nil⟩, rfl⟩
  · exact List.mem_cons_self
  · exact List.mem_append_right _ List.mem_cons_self

end Interpolation.Table
