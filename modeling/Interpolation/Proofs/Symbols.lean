import Interpolation.Proofs.Interchange
import Interpolation.Proofs.Json.Decoding
import Interpolation.Proofs.Json.Printed

/-!
# Symbols in JSON

A symbol is read directly from every text that is written as its object, and from no
other: an object with one field, whose key names the kind and whose value is the text.
The text that is printed for a symbol is one of them, so symbols come back from JSON as
they were, and the JSON text of its symbols tells a pattern apart from every other.
-/

namespace Interpolation

open Json (Written readAll readString readText)

namespace Symbol

/-! ## Kinds -/

@[simp] theorem kind_symbol (k : Kind) (t : Text) : (k.symbol t).kind = k := by
  cases k <;> rfl

@[simp] theorem text_symbol (k : Kind) (t : Text) : (k.symbol t).text = t := by
  cases k <;> rfl

theorem symbol_kind_text (x : Symbol) : x.kind.symbol x.text = x := by
  cases x <;> rfl

theorem ofName_eq_ok_iff {name : Text} {k : Kind} : Kind.ofName name = .ok k ↔ name = k.name := by
  constructor
  · intro h
    unfold Kind.ofName at h
    split at h
    · cases h
      assumption
    · split at h
      · cases h
        assumption
      · cases h
  · rintro rfl
    cases k <;> rfl

theorem ofBareName_ne_ok (name : Text) (x : Symbol) : ofBareName name ≠ .ok x := by
  intro h
  obtain ⟨_, -, h⟩ := Json.ok_of_bind h
  cases h

/-! ## Reading directly -/

theorem textDecoder_read_eq_ok_iff {t s rest : Text} :
    textDecoder.read t = .ok (s, rest) ↔ readText t = .ok (s, rest) := by
  refine (Json.Decoder.string_read_eq_ok_iff _).trans ⟨?_, fun h => ⟨s, h, rfl⟩⟩
  rintro ⟨u, h, hu⟩
  cases hu
  exact h

/-- The field of a symbol is the only one of its object. -/
theorem readField_eq_ok_iff {t rest : Text} {x : Symbol} :
    readField t = .ok (x, rest) ↔
      readAll '}' (Json.readField readString readText) t =
        .ok ([(x.kind.name, x.text)], rest) := by
  rw [Json.readAll_eq_singleton_iff]
  constructor
  · intro h
    obtain ⟨next, hturn, h⟩ := Json.ok_of_bind h
    cases next with
    | closed after => cases h
    | element start =>
      obtain ⟨⟨name, colon⟩, hname, h⟩ := Json.ok_of_bind h
      obtain ⟨k, hk, h⟩ := Json.ok_of_bind h
      obtain ⟨value, hcolon, h⟩ := Json.ok_of_bind h
      obtain ⟨⟨text, after⟩, htext, h⟩ := Json.ok_of_bind h
      -- The name is checked before the text is read, which only decides between faults.
      rw [ofName_eq_ok_iff.mp hk] at hname
      rw [textDecoder_read_eq_ok_iff] at htext
      have hfield : Json.readField readString readText start = .ok ((k.name, text), after) :=
        Json.readField_eq_ok_iff.mpr ⟨colon, value, hname, hcolon, htext⟩
      dsimp only at h
      split at h
      · cases h
      · cases h
        rw [kind_symbol, text_symbol]
        exact ⟨start, after, hturn, hfield, ‹_›⟩
      · cases h
  · rintro ⟨start, after, hturn, hfield, hclosed⟩
    obtain ⟨colon, value, hname, hcolon, htext⟩ := Json.readField_eq_ok_iff.mp hfield
    have hkind : Kind.ofName x.kind.name = .ok x.kind := ofName_eq_ok_iff.mpr rfl
    have htext : textDecoder.read value = .ok (x.text, after) :=
      textDecoder_read_eq_ok_iff.mpr htext
    simp only [readField, hturn, hname, hkind, hcolon, htext, hclosed, bind, Except.bind, pure,
      Except.pure, symbol_kind_text]

theorem decoder_read_eq_ok_iff {t rest : Text} {x : Symbol} :
    decoder.read t = .ok (x, rest) ↔
      ∃ u, Json.skipBlank t = '{' :: u ∧
        readAll '}' (Json.readField readString readText) u =
          .ok ([(x.kind.name, x.text)], rest) := by
  constructor
  · intro h
    unfold decoder at h
    dsimp only at h
    split at h
    · cases h
    · obtain ⟨⟨name, after⟩, -, h⟩ := Json.ok_of_bind h
      obtain ⟨y, hy, -⟩ := Json.ok_of_bind h
      exact absurd hy (ofBareName_ne_ok name y)
    · exact ⟨_, ‹_›, readField_eq_ok_iff.mp h⟩
    · cases h
  · rintro ⟨u, hu, h⟩
    simp only [decoder, hu]
    exact readField_eq_ok_iff.mpr h

/-! ## Symbols as they are written -/

def written (x : Symbol) : Written := .object [(x.kind.name, .string x.text)]

theorem value_written (x : Symbol) : x.written.value = x.toJson := rfl

/-- A symbol is read directly where, and only where, its object is written. -/
theorem read_written_iff (depth : Nat) {t rest : Text} {x : Symbol} :
    Written.grammar.read (depth + 1) t = .ok (x.written, rest) ↔
      decoder.read t = .ok (x, rest) := by
  have hfields (u : Text) :
      readAll '}' (Json.readField readString (Written.grammar.read depth)) u =
          .ok ([(x.kind.name, .string x.text)], rest) ↔
        readAll '}' (Json.readField readString readText) u =
          .ok ([(x.kind.name, x.text)], rest) := by
    simp only [Json.readAll_eq_singleton_iff, Json.readField_eq_ok_iff, Written.read_string_iff]
  rw [decoder_read_eq_ok_iff]
  constructor
  · intro h
    obtain ⟨u, below, hu, hdepth, hall⟩ := Written.exists_of_read_object h
    obtain rfl : depth = below := Nat.succ.inj hdepth
    exact ⟨u, hu, (hfields u).mp hall⟩
  · rintro ⟨u, hu, hall⟩
    have hwritten : readAll '}' (Json.readField Written.grammar.string
        (Written.grammar.read depth)) u = .ok ([(x.kind.name, .string x.text)], rest) :=
      (hfields u).mpr hall
    rw [Written.grammar.read_object depth hu, hwritten]
    rfl

theorem ofJson_eq_ok_iff {j : Json} {x : Symbol} : decoder.ofJson j = .ok x ↔ j = x.toJson := by
  constructor
  · intro h
    unfold decoder at h
    dsimp only at h
    split at h
    · obtain ⟨k, hk, h⟩ := Json.ok_of_bind h
      obtain ⟨text, htext, h⟩ := Json.ok_of_bind h
      obtain ⟨s, hvalue, hs⟩ := (Json.Decoder.string_ofJson_eq_ok_iff _).mp htext
      cases hs
      cases h
      rw [toJson, kind_symbol, text_symbol, hvalue, ofName_eq_ok_iff.mp hk]
    · cases h
    · exact absurd h (ofBareName_ne_ok _ _)
    · cases h
  · rintro rfl
    cases x <;> rfl

theorem not_repeats_written (x : Symbol) : ¬ x.written.Repeats := by
  rintro ⟨fields, hpart, hkeys⟩
  cases hpart with
  | self => exact hkeys (List.pairwise_singleton _ _)
  | field mem part =>
    obtain rfl := List.mem_singleton.mp mem
    cases part

/-- Without repeated keys only one object becomes the value of a symbol. -/
theorem eq_written_of_value {w : Written} {x : Symbol} (h : w.value = x.toJson)
    (hrepeats : ¬ w.Repeats) : w = x.written := by
  obtain ⟨fields, rfl, hfields⟩ := Written.exists_fields_of_value h
  -- The record has one field, and only fields with the same key fall together in it.
  have hkeys : ((Written.fieldValues fields).map (·.1)).Nodup := by
    rw [Written.fieldValues_eq_map, List.map_map]
    exact Written.nodup_of_not_repeats hrepeats
  have hsingle := Record.eq_singleton_of_ofList hkeys hfields
  rw [Written.fieldValues_eq_map, List.map_eq_singleton_iff] at hsingle
  obtain ⟨⟨key, v⟩, rfl, hfield⟩ := hsingle
  have hkey : key = x.kind.name := congrArg Prod.fst hfield
  have hv : v.value = .string x.text := congrArg Prod.snd hfield
  rw [written, hkey, Written.eq_string_of_value hv]

theorem decoder_faithful (depth : Nat) :
    decoder.Faithful (fun w => ¬ w.Repeats) (depth + 1) := by
  intro t x rest
  rw [← read_written_iff depth]
  constructor
  · intro h
    exact ⟨x.written, h, not_repeats_written x, ofJson_eq_ok_iff.mpr (value_written x)⟩
  · rintro ⟨w, hread, hrepeats, hvalue⟩
    rw [← eq_written_of_value (ofJson_eq_ok_iff.mp hvalue) hrepeats]
    exact hread

theorem decoder_list_faithful (depth : Nat) :
    decoder.list.Faithful (fun w => ¬ w.Repeats) (depth + 2) := by
  refine (decoder_faithful depth).list fun items => ?_
  simp only [Written.repeats_array_iff, not_exists, not_and]

/-! ## Printed symbols -/

theorem print_toJson (x : Symbol) :
    x.toJson.print = '{' :: Json.row (Json.printField Json.quote) [(x.kind.name, x.text)] ++ ['}'] := by
  rw [toJson, Json.print, Json.printFields, Json.print, Json.row, List.flatMap_nil, List.append_nil,
    Json.printField]

theorem read_print (x : Symbol) (rest : Text) :
    decoder.read (x.toJson.print ++ rest) = .ok (x, rest) := by
  have hfield : ∀ field ∈ [(x.kind.name, x.text)], ∀ after, Json.EndsNumber after →
      Json.readField readString readText (Json.printField Json.quote field ++ after) =
        .ok (field, after) :=
    fun field _ after _ => Json.readField_printField (Json.readText_quote_append field.2 after)
  have hrow := Json.readAll_row (Or.inr rfl)
    (fun field _ => Json.starts_printField Json.quote field) hfield rest
  rw [decoder_read_eq_ok_iff, print_toJson, List.cons_append, List.cons_append, List.append_assoc]
  exact ⟨_, Json.skipBlank_cons (by decide) _, hrow⟩

theorem starts_print (x : Symbol) : Json.Starts x.toJson.print := by
  rw [print_toJson]
  exact ⟨'{', _, rfl, by decide, by decide, by decide⟩

theorem list_direct_print (symbols : List Symbol) :
    decoder.list.direct (Json.array (symbols.map toJson)).print = .ok symbols := by
  have hrow := Json.readAll_row (Or.inl rfl) (fun x (_ : x ∈ symbols) => starts_print x)
    (fun x _ after _ => read_print x after) []
  have hprint : (Json.array (symbols.map toJson)).print =
      '[' :: (Json.row (fun x => x.toJson.print) symbols ++ [']']) := by
    rw [Json.print, Json.printItems_eq_row, Json.row_map, List.cons_append]
  have hread : decoder.list.read (Json.array (symbols.map toJson)).print = .ok (symbols, []) := by
    rw [hprint, Json.Decoder.list_read_array (Json.skipBlank_cons (by decide) _)]
    exact hrow
  exact Json.readWhole_of_read hread

theorem list_byValue_print (symbols : List Symbol) :
    decoder.list.byValue (Json.array (symbols.map toJson)).print = .ok symbols :=
  ((decoder_list_faithful 125).direct_iff_exists.mp (list_direct_print symbols)).1

theorem print_list_inj {xs ys : List Symbol}
    (h : (Json.array (xs.map toJson)).print = (Json.array (ys.map toJson)).print) : xs = ys := by
  have hxs := list_direct_print xs
  rw [h, list_direct_print ys] at hxs
  exact (Except.ok.inj hxs).symm

end Symbol

namespace Pattern

theorem print_symbolsToJson_eq_iff {p q : Pattern} :
    p.symbolsToJson.print = q.symbolsToJson.print ↔ p = q := by
  constructor
  · intro h
    obtain ⟨xs⟩ := p
    obtain ⟨ys⟩ := q
    exact congrArg Pattern.mk (Symbol.print_list_inj h)
  · rintro rfl
    rfl

theorem print_toJson_eq_iff {p q : Pattern} :
    p.toJson.print = q.toJson.print ↔ p.source = q.source := by
  rw [print_toJson, print_toJson, Json.quote_inj]

theorem source_eq_iff_joined_eq {p q : Pattern} (hp : ∀ x ∈ p.symbols, x.Proper)
    (hq : ∀ x ∈ q.symbols, x.Proper) : p.source = q.source ↔ p.joined = q.joined := by
  constructor
  · intro h
    have hrecompile : p.recompile = q.recompile := by rw [recompile, recompile, h]
    rw [recompile_of_proper hp, recompile_of_proper hq] at hrecompile
    exact Except.ok.inj hrecompile
  · intro h
    rw [← source_joined p, ← source_joined q, h]

/-- Symbols with any texts come back from their JSON text as they were, directly and by
way of its value.  So the JSON text of its symbols tells a pattern from every other one,
while that of the pattern tells only its canonical source: of compiled sources it mixes
up those that differ in how literals are split, and no others. -/
theorem decoder_print_symbols :
    (∀ symbols : List Symbol,
      Symbol.decoder.list.direct (Json.array (symbols.map Symbol.toJson)).print = .ok symbols ∧
      Symbol.decoder.list.byValue (Json.array (symbols.map Symbol.toJson)).print = .ok symbols) ∧
    (∀ p q : Pattern,
      (p.symbolsToJson.print = q.symbolsToJson.print ↔ p = q) ∧
      (p.toJson.print = q.toJson.print ↔ p.source = q.source)) ∧
    ∀ {s t : Text} {p q : Pattern}, compile s = .ok p → compile t = .ok q →
      (p.source = q.source ↔ p.joined = q.joined) := by
  refine ⟨fun symbols => ⟨Symbol.list_direct_print symbols, Symbol.list_byValue_print symbols⟩,
    fun p q => ⟨print_symbolsToJson_eq_iff, print_toJson_eq_iff⟩, fun hp hq => ?_⟩
  exact source_eq_iff_joined_eq (proper_of_compile hp) (proper_of_compile hq)

/-- Texts that are empty or hold braces, quotes, backslashes, control characters and
characters beyond the first 65536, and two sources that differ in an empty placeholder. -/
theorem decoder_print_symbols_hostile :
    let symbols : List Symbol :=
      [.literal [], .substitution ['{'], .literal ['"', '\\', '\x01', '\n', '😀'], .literal ['}']]
    let text : Text := (Json.array (symbols.map Symbol.toJson)).print
    let p : Pattern := ⟨[.literal ['a'], .literal ['b']]⟩
    let q : Pattern := ⟨[.literal ['a', 'b']]⟩
    Symbol.decoder.list.direct text = .ok symbols ∧
      Symbol.decoder.list.byValue text = .ok symbols ∧
      compile "a{}b".toList = .ok p ∧ compile "ab".toList = .ok q ∧
      p.symbolsToJson.print ≠ q.symbolsToJson.print ∧ p.toJson.print = q.toJson.print ∧
      p.joined = q.joined := by
  intro symbols text p q
  have hp : compile "a{}b".toList = .ok p := rfl
  have hq : compile "ab".toList = .ok q := rfl
  obtain ⟨hback, hprint, hjoined⟩ := decoder_print_symbols
  obtain ⟨hsymbols, hsource⟩ := hprint p q
  have hsame : p.source = q.source := rfl
  exact ⟨(hback symbols).1, (hback symbols).2, hp, hq, mt hsymbols.mp (by decide),
    hsource.mpr hsame, (hjoined hp hq).mp hsame⟩

end Pattern
end Interpolation
