import Interpolation.Proofs.Json.Written
import Interpolation.Table.Recipe

/-!
# What a JSON table shows

The text of an object makes the same table in both ways.  It answers for the keys that
the object was written with and for no others, with the value that was written last;
and the answer tells that value: a string and `null` by what stands for them, everything
else by JSON text that reads back as it.
-/

namespace Interpolation

namespace Json

/-- The text that stands in a template for a value tells which value it is. -/
def Shows : Json → Text → Prop
  | .string s, t => t = s
  | .null, t => t = []
  | j, t => parse t = .ok j

theorem shows_display {j : Json} (h : Exact maxDepth j) : j.Shows j.display := by
  cases j with
  | null => exact rfl
  | bool b => exact parse_print h
  | number n => exact parse_print h
  | string s => exact rfl
  | array items => exact parse_print h
  | object fields => exact parse_print h

/-! ## Reading the fields of an object -/

theorem not_object_of_readScalar {t : Text} {j : Json} {rest : Text}
    (h : readScalar t = .ok (j, rest)) (fields : Record Json) : j ≠ .object fields := by
  rintro rfl
  revert h
  fun_cases readScalar t <;> intro h
  case case1 => cases h
  case case7 => cases h
  all_goals
    obtain ⟨_, -, h⟩ := ok_of_bind h
    cases h

theorem record_read_object {t u : Text} (h : skipBlank t = '{' :: u) :
    record.read t = (readAll '}' (readField readString (grammar.read (maxDepth - 1))) u).map
      fun r => (Record.ofList r.1, r.2) := by
  simp only [record, h]
  cases readAll '}' (readField readString (grammar.read (maxDepth - 1))) u <;> rfl

/-- An object that is read as a value is also read as a record of its fields. -/
theorem direct_record_of_parse {t : Text} {fields : Record Json}
    (h : parse t = .ok (.object fields)) : record.direct t = .ok fields := by
  obtain ⟨rest, hread, hrest⟩ := readWhole_eq_ok_iff.mp h
  have hrecord : record.read t = .ok (fields, rest) := by
    rcases Grammar.read_cases hread with ⟨_, _, _, -, -, -, hj⟩ |
      ⟨u, below, written, hu, hdepth, hfields, hj⟩ | hscalar
    · cases hj
    · obtain rfl : below = maxDepth - 1 := Nat.succ.inj hdepth.symm
      have hall : readAll '}' (readField readString (grammar.read (maxDepth - 1))) u =
          .ok (written, rest) := hfields
      cases hj
      rw [record_read_object hu, hall]
      rfl
    · exact absurd rfl (not_object_of_readScalar hscalar fields)
  exact readWhole_eq_ok_iff.mpr ⟨rest, hrecord, hrest⟩

namespace Written

theorem exact_of_parse {t : Text} {w : Written} (h : parse t = .ok w) (hplain : w.Plain) :
    Exact maxDepth w.value := by
  obtain ⟨rest, hread, -⟩ := readWhole_eq_ok_iff.mp h
  exact exact_of_read hread hplain

/-- What is left under a key is what was last written there. -/
theorem get?_ofList_fieldValues (fields : List (Text × Written)) (key : Text) :
    (Record.ofList (fieldValues fields)).get? key = (fields.reverse.lookup key).map value := by
  rw [Record.get?_ofList, fieldValues_eq_map, ← List.map_reverse, Entries.lookup_map]

end Written

theorem Exact.of_get? {depth : Nat} {fields : Record Json} {key : Text} {j : Json}
    (h : Exact depth (.object fields)) (hget : fields.get? key = some j) : Exact depth j := by
  cases h with
  | @object depth _ _ parts =>
    obtain ⟨before, after, rfl, -⟩ := Entries.lookup_eq_some_iff_first.mp hget
    have hpart : Exact depth j :=
      parts (key, j) (List.mem_append_right _ List.mem_cons_self)
    exact hpart.mono (Nat.le_succ depth)

end Json

namespace Table

open Json (Written)

namespace Recipe

/-- A JSON text makes a table.  If it is no object, the table has no entries.  If it is
one, its fields make the same table, and the table has entries for the keys that were
written.  If all numbers were written as integers that fit, an entry tells the value
that was written last. -/
theorem make_json_of_parse {t : Text} {j : Json} (h : Json.parse t = .ok j) :
    ∃ table, (Recipe.json t).make = .ok table ∧
      ((∀ fields, j ≠ .object fields) → ∀ key, table.lookup key = none) ∧
      ((∃ fields, j = .object fields) →
        (Recipe.fields t).make = .ok table ∧
        ∃ fields, Written.parse t = .ok (.object fields) ∧ (Written.object fields).value = j ∧
          ∀ key,
            ((table.lookup key).isSome ↔ key ∈ fields.map (·.1)) ∧
            ((Written.object fields).Plain → ∀ v, Entries.Last fields key v →
              ∃ text, table.lookup key = some text ∧ v.value.Shows text)) := by
  refine ⟨ofJson j, ?_, ?_, ?_⟩
  · rw [make, h]
    rfl
  · intro hj key
    cases j with
    | object fields => exact absurd rfl (hj fields)
    | _ => rfl
  · rintro ⟨record, rfl⟩
    obtain ⟨w, hparse, hvalue⟩ := Written.exists_of_parse h
    obtain ⟨fields, rfl, hrecord⟩ := Written.exists_fields_of_value hvalue
    refine ⟨?_, fields, hparse, hvalue, fun key => ?_⟩
    · rw [make, Json.direct_record_of_parse h]
      rfl
    have hget : Record.get? record key = (fields.reverse.lookup key).map Written.value := by
      rw [← hrecord, Written.get?_ofList_fieldValues]
    refine ⟨?_, fun hplain v hlast => ?_⟩
    · show ((Record.get? record key).map Json.display).isSome ↔ _
      rw [hget, Option.isSome_map, Option.isSome_map, Entries.isSome_lookup_iff, List.map_reverse,
        List.mem_reverse]
    · have hv : Record.get? record key = some v.value := by
        rw [hget, Entries.lookup_reverse_eq_some_iff_last.mpr hlast, Option.map_some]
      have hexact : Json.Exact Json.maxDepth (.object record) :=
        hvalue ▸ Written.exact_of_parse hparse hplain
      refine ⟨v.value.display, ?_, Json.shows_display (hexact.of_get? hv)⟩
      show (Record.get? record key).map Json.display = _
      rw [hv, Option.map_some]

/-- A key that is written twice, an object in the object, and a text that is none. -/
theorem make_json_of_parse_nested :
    let t : Text := "\x7b\"k\":1,\"o\":\x7b\"b\":[null,\"q\\\"\",-5],\"a\":0\x7d,\"k\":2\x7d".toList
    let five : Written := .number ⟨true, ['5'], none, none⟩ rfl
    let inner : Written := .object
      [(['b'], .array [.null, .string ['q', '"'], five]),
        (['a'], .number ⟨false, ['0'], none, none⟩ rfl)]
    let fields : List (Text × Written) :=
      [(['k'], .number ⟨false, ['1'], none, none⟩ rfl), (['o'], inner),
        (['k'], .number ⟨false, ['2'], none, none⟩ rfl)]
    Json.parse t = .ok (Written.object fields).value ∧
      Written.parse t = .ok (.object fields) ∧ (Written.object fields).Plain ∧
      Entries.Last fields ['o'] inner ∧
      ∃ table, (Recipe.json t).make = .ok table ∧ (Recipe.fields t).make = .ok table ∧
        (∃ text, table.lookup ['o'] = some text ∧ Json.parse text = .ok inner.value) ∧
        table.lookup ['b'] = none ∧
        ∃ other, (Recipe.json ['5']).make = .ok other ∧ other.lookup ['k'] = none := by
  intro t five inner fields
  have hparse : Json.parse t = .ok (Written.object fields).value := rfl
  have hwritten : Written.parse t = .ok (.object fields) := rfl
  have hitems : ∀ item ∈ [.null, .string ['q', '"'], five], Written.Plain item :=
    List.forall_mem_cons.mpr ⟨.null, List.forall_mem_cons.mpr ⟨.string _,
      List.forall_mem_singleton.mpr (.number ⟨rfl, rfl, by decide⟩)⟩⟩
  have hinner : inner.Plain :=
    .object (List.forall_mem_cons.mpr ⟨.array hitems,
      List.forall_mem_singleton.mpr (.number ⟨rfl, rfl, by decide⟩)⟩)
  have hplain : (Written.object fields).Plain :=
    .object (List.forall_mem_cons.mpr ⟨.number ⟨rfl, rfl, by decide⟩,
      List.forall_mem_cons.mpr ⟨hinner,
        List.forall_mem_singleton.mpr (.number ⟨rfl, rfl, by decide⟩)⟩⟩)
  have hlast : Entries.Last fields ['o'] inner :=
    ⟨fields.take 1, fields.drop 2, rfl, by decide⟩
  have hfive : Json.parse ['5'] = .ok (.number (.integer 5)) := rfl
  obtain ⟨table, hjson, -, hobject⟩ := make_json_of_parse hparse
  obtain ⟨hfields, read, hread, -, hkeys⟩ := hobject ⟨_, rfl⟩
  obtain rfl : fields = read := Written.object.inj (Except.ok.inj (hwritten.symm.trans hread))
  obtain ⟨other, hother, hnone, -⟩ := make_json_of_parse hfive
  refine ⟨hparse, hwritten, hplain, hlast, table, hjson, hfields, ?_, ?_, other, hother, ?_⟩
  · exact (hkeys ['o']).2 hplain inner hlast
  · exact Option.not_isSome_iff_eq_none.mp (mt (hkeys ['b']).1.mp (by decide))
  · exact hnone (fun fields h => by cases h) ['k']

end Recipe
end Table
end Interpolation
