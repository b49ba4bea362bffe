import Interpolation.Json.Decoder
import Interpolation.Proofs.Json.Written

/-!
# Decoding in two ways

A decoder is faithful to the values with some property if what it takes from a text
directly is what such a value, read from the same text, decodes to.  This passes from
the elements to their list, and from the front of a text to the whole of it; there it
says that the one way of decoding gives what the other gives, where the value that is
written has the property.
-/

namespace Interpolation.Json

variable {α β : Type}

/-! ## Elements -/

theorem mapM_cons_of_ok {decode : β → Except Error α} {v : β} {vs : List β} {x : α} {xs : List α}
    (h : decode v = .ok x) (hs : vs.mapM decode = .ok xs) :
    (v :: vs).mapM decode = .ok (x :: xs) := by
  rw [List.mapM_cons, h]
  show (vs.mapM decode >>= _) = _
  rw [hs]
  rfl

theorem exists_of_mapM_cons {decode : β → Except Error α} {v : β} {vs : List β} {all : List α}
    (h : (v :: vs).mapM decode = .ok all) :
    ∃ x xs, decode v = .ok x ∧ vs.mapM decode = .ok xs ∧ all = x :: xs := by
  rw [List.mapM_cons] at h
  obtain ⟨x, hx, h⟩ := ok_of_bind h
  obtain ⟨xs, hxs, h⟩ := ok_of_bind h
  cases h
  exact ⟨x, xs, hx, hxs, rfl⟩

/-- Elements that are decoded as they are read are those that come of reading all of them
first and decoding them then. -/
theorem readElements_decode_iff {element : Reader α} {value : Reader β}
    {decode : β → Except Error α} {P : β → Prop} {close : Char} {bound : Nat} {first : Bool}
    {t rest : Text} {xs : List α}
    (h : ∀ t x rest, element t = .ok (x, rest) ↔
      ∃ v, value t = .ok (v, rest) ∧ P v ∧ decode v = .ok x) :
    readElements close element bound first t = .ok (xs, rest) ↔
      ∃ vs, readElements close value bound first t = .ok (vs, rest) ∧ (∀ v ∈ vs, P v) ∧
        vs.mapM decode = .ok xs := by
  -- Both readings take the same turns, so one bound serves both of them.
  induction bound generalizing first t xs with
  | zero =>
    constructor
    · intro hread
      cases hread
    · rintro ⟨_, hread, -⟩
      cases hread
  | succ bound ih =>
    constructor
    · intro hread
      obtain ⟨below, hbelow, ⟨hturn, rfl⟩ | ⟨start, x, after, others, hturn, hx, hothers, rfl⟩⟩ :=
        readElements_cases hread
      · exact ⟨[], readElements_closed hturn bound, by simp, rfl⟩
      · obtain rfl : bound = below := Nat.succ.inj hbelow
        obtain ⟨v, hv, hPv, hvx⟩ := (h start x after).mp hx
        obtain ⟨vs, hvs, hPvs, hvsx⟩ := ih.mp hothers
        exact ⟨v :: vs, readElements_element hturn hv hvs, List.forall_mem_cons.mpr ⟨hPv, hPvs⟩,
          mapM_cons_of_ok hvx hvsx⟩
    · rintro ⟨vs, hread, hP, hdecode⟩
      obtain ⟨below, hbelow, ⟨hturn, rfl⟩ | ⟨start, v, after, others, hturn, hv, hothers, rfl⟩⟩ :=
        readElements_cases hread
      · cases hdecode
        exact readElements_closed hturn bound
      · obtain rfl : bound = below := Nat.succ.inj hbelow
        obtain ⟨hPv, hPothers⟩ := List.forall_mem_cons.mp hP
        obtain ⟨x, decoded, hx, hdecoded, rfl⟩ := exists_of_mapM_cons hdecode
        have hstart : element start = .ok (x, after) := (h start x after).mpr ⟨v, hv, hPv, hx⟩
        exact readElements_element hturn hstart (ih.mpr ⟨others, hothers, hPothers, hdecoded⟩)

/-! ## Readings of texts and lists -/

theorem refuse_ne_ok (expected : Expected) (t : Text) (x : α) : refuse expected t ≠ .ok x := by
  unfold refuse mismatch
  intro h
  split at h
  · cases h
  · cases h
  · obtain ⟨_, -, h⟩ := ok_of_bind h
    cases h

theorem readText_eq_ok_iff {t s rest : Text} :
    readText t = .ok (s, rest) ↔
      ∃ u, skipBlank t = '"' :: u ∧ readString u = .ok (s, rest) := by
  constructor
  · intro h
    unfold readText at h
    split at h
    · exact ⟨_, ‹_›, h⟩
    · exact absurd h (refuse_ne_ok _ _ _)
  · rintro ⟨u, hu, h⟩
    unfold readText
    rw [hu]
    exact h

namespace Written

theorem read_string {t u : Text} (depth : Nat) (h : skipBlank t = '"' :: u) :
    grammar.read depth t = (readString u).map fun r => (string r.1, r.2) := by
  have hstart : ∀ c ∈ (skipBlank t).head?, c ≠ '[' ∧ c ≠ '{' := by
    rw [h]
    exact fun c hc => Option.some.inj hc ▸ ⟨by decide, by decide⟩
  rw [grammar.read_scalar depth hstart, h]
  show (readString u >>= _) = _
  cases readString u <;> rfl

/-- At every depth a text is read as a string if and only if it is read as a text. -/
theorem read_string_iff {depth : Nat} {t s rest : Text} :
    grammar.read depth t = .ok (string s, rest) ↔ readText t = .ok (s, rest) := by
  rw [readText_eq_ok_iff]
  constructor
  · exact exists_of_read_string
  · rintro ⟨u, hu, hs⟩
    rw [read_string depth hu, hs]
    rfl

end Written

/-! ## Decoders -/

namespace Decoder

variable {d : Decoder α} {depth : Nat} {P : Written → Prop}

/-- What is read directly from the front of a text is what a value with the property, if
one is read there, decodes to. -/
def Faithful (d : Decoder α) (P : Written → Prop) (depth : Nat) : Prop :=
  ∀ t x rest, d.read t = .ok (x, rest) ↔
    ∃ w, Written.grammar.read depth t = .ok (w, rest) ∧ P w ∧ d.ofJson w.value = .ok x

/-! ### Whole texts -/

theorem byValue_eq_ok_iff {t : Text} {x : α} :
    d.byValue t = .ok x ↔ ∃ w, Written.parse t = .ok w ∧ d.ofJson w.value = .ok x := by
  constructor
  · intro h
    obtain ⟨j, hj, hx⟩ := ok_of_bind h
    obtain ⟨w, hw, rfl⟩ := Written.exists_of_parse hj
    exact ⟨w, hw, hx⟩
  · rintro ⟨w, hw, hx⟩
    rw [byValue, Written.parse_map, hw]
    exact hx

theorem Faithful.direct_iff (h : d.Faithful P maxDepth) {t : Text} {x : α} :
    d.direct t = .ok x ↔ ∃ w, Written.parse t = .ok w ∧ P w ∧ d.ofJson w.value = .ok x := by
  constructor
  · intro hx
    obtain ⟨rest, hread, hrest⟩ := readWhole_eq_ok_iff.mp hx
    obtain ⟨w, hw, hP, hvalue⟩ := (h t x rest).mp hread
    exact ⟨w, readWhole_eq_ok_iff.mpr ⟨rest, hw, hrest⟩, hP, hvalue⟩
  · rintro ⟨w, hparse, hP, hvalue⟩
    obtain ⟨rest, hw, hrest⟩ := readWhole_eq_ok_iff.mp hparse
    have hread : d.read t = .ok (x, rest) := (h t x rest).mpr ⟨w, hw, hP, hvalue⟩
    exact readWhole_eq_ok_iff.mpr ⟨rest, hread, hrest⟩

theorem Faithful.direct_iff_exists (h : d.Faithful P maxDepth) {t : Text} {x : α} :
    d.direct t = .ok x ↔ d.byValue t = .ok x ∧ ∃ w, Written.parse t = .ok w ∧ P w := by
  rw [h.direct_iff, byValue_eq_ok_iff]
  constructor
  · rintro ⟨w, hparse, hP, hvalue⟩
    exact ⟨⟨w, hparse, hvalue⟩, w, hparse, hP⟩
  · rintro ⟨⟨w, hparse, hvalue⟩, v, hv, hP⟩
    obtain rfl : w = v := Except.ok.inj (hparse.symm.trans hv)
    exact ⟨w, hparse, hP, hvalue⟩

/-! ### Strings -/

section
variable (decode : Text → Except Error α)

theorem string_read_eq_ok_iff {t rest : Text} {x : α} :
    (string decode).read t = .ok (x, rest) ↔
      ∃ s, readText t = .ok (s, rest) ∧ decode s = .ok x := by
  constructor
  · intro h
    obtain ⟨⟨s, after⟩, hs, h⟩ := ok_of_bind h
    obtain ⟨x, hx, h⟩ := ok_of_bind h
    cases h
    exact ⟨s, hs, hx⟩
  · rintro ⟨s, hs, hx⟩
    show (readText t >>= _) = _
    rw [hs]
    show (decode s >>= _) = _
    rw [hx]
    rfl

theorem string_ofJson_eq_ok_iff {j : Json} {x : α} :
    (string decode).ofJson j = .ok x ↔ ∃ s, j = .string s ∧ decode s = .ok x := by
  constructor
  · intro h
    cases j with
    | string s => exact ⟨s, rfl, h⟩
    | _ => cases h
  · rintro ⟨s, rfl, hx⟩
    exact hx

theorem string_faithful (depth : Nat) : (string decode).Faithful (fun _ => True) depth := by
  intro t x rest
  rw [string_read_eq_ok_iff]
  constructor
  · rintro ⟨s, hs, hx⟩
    exact ⟨.string s, Written.read_string_iff.mpr hs, trivial, hx⟩
  · rintro ⟨w, hread, -, hvalue⟩
    obtain ⟨s, hs, hx⟩ := (string_ofJson_eq_ok_iff decode).mp hvalue
    obtain rfl := Written.eq_string_of_value hs
    exact ⟨s, Written.read_string_iff.mp hread, hx⟩

end

/-! ### Lists -/

theorem list_read_array {t u : Text} (h : skipBlank t = '[' :: u) :
    d.list.read t = readAll ']' d.read u := by
  simp only [list, h]

theorem exists_of_list_read {t rest : Text} {xs : List α} (h : d.list.read t = .ok (xs, rest)) :
    ∃ u, skipBlank t = '[' :: u ∧ readAll ']' d.read u = .ok (xs, rest) := by
  unfold list at h
  dsimp only at h
  split at h
  · exact ⟨_, ‹_›, h⟩
  · exact absurd h (refuse_ne_ok _ _ _)

theorem exists_of_list_ofJson {j : Json} {xs : List α} (h : d.list.ofJson j = .ok xs) :
    ∃ items, j = .array items := by
  cases j with
  | array items => exact ⟨items, rfl⟩
  | _ => cases h

theorem list_ofJson_values (items : List Written) :
    d.list.ofJson (Written.array items).value = items.mapM fun w => d.ofJson w.value := by
  rw [Written.value, Written.values_eq_map]
  show (items.map Written.value).mapM d.ofJson = _
  rw [List.mapM_map]
  rfl

theorem Faithful.list (h : d.Faithful P depth)
    (hP : ∀ items, P (.array items) ↔ ∀ item ∈ items, P item) :
    d.list.Faithful P (depth + 1) := by
  intro t xs rest
  constructor
  · intro hread
    obtain ⟨u, hu, hread⟩ := exists_of_list_read hread
    obtain ⟨items, hitems, hparts, hdecode⟩ := (readElements_decode_iff h).mp hread
    have hall : readAll ']' (Written.grammar.read depth) u = .ok (items, rest) := hitems
    refine ⟨.array items, ?_, (hP items).mpr hparts, ?_⟩
    · rw [Written.grammar.read_array depth hu, hall]
      rfl
    · rw [list_ofJson_values, hdecode]
  · rintro ⟨w, hread, hw, hvalue⟩
    obtain ⟨values, hvalues⟩ := exists_of_list_ofJson hvalue
    obtain ⟨items, rfl⟩ := Written.exists_items_of_value hvalues
    obtain ⟨u, below, hu, hdepth, hitems⟩ := Written.exists_of_read_array hread
    obtain rfl : depth = below := Nat.succ.inj hdepth
    rw [list_ofJson_values] at hvalue
    rw [list_read_array hu]
    exact (readElements_decode_iff h).mpr ⟨items, hitems, (hP items).mp hw, hvalue⟩

end Decoder
end Interpolation.Json
