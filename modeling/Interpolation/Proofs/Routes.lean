import Interpolation.Proofs.Symbols

/-!
# Direct reading against reading by value

A text decodes to a pattern or to a row of patterns in both ways or in neither, with the
same result.  For symbols, reading by value goes further than reading directly on just
the texts in which an object has a key more than once: the value keeps the last field of
a key, while the direct way stops at the second field.
-/

namespace Interpolation

open Json (Written maxDepth)

/-- Somewhere in the text an object is written with a key that it has already. -/
def Text.RepeatsKey (t : Text) : Prop := ∃ w, Written.parse t = .ok w ∧ w.Repeats

namespace Json.Decoder

variable {α : Type} {d : Decoder α} {t : Text} {x : α}

theorem Faithful.direct_iff_of_forall (h : d.Faithful (fun _ => True) maxDepth) :
    d.direct t = .ok x ↔ d.byValue t = .ok x := by
  rw [h.direct_iff, byValue_eq_ok_iff]
  simp only [true_and]

theorem Faithful.direct_iff_of_repeats (h : d.Faithful (fun w => ¬ w.Repeats) maxDepth) :
    d.direct t = .ok x ↔ d.byValue t = .ok x ∧ ¬ t.RepeatsKey := by
  rw [h.direct_iff_exists]
  constructor
  · rintro ⟨hvalue, w, hparse, hw⟩
    refine ⟨hvalue, ?_⟩
    rintro ⟨v, hv, hrepeats⟩
    obtain rfl : w = v := Except.ok.inj (hparse.symm.trans hv)
    exact hw hrepeats
  · rintro ⟨hvalue, hkeys⟩
    obtain ⟨w, hparse, -⟩ := byValue_eq_ok_iff.mp hvalue
    exact ⟨hvalue, w, hparse, fun hrepeats => hkeys ⟨w, hparse, hrepeats⟩⟩

end Json.Decoder

namespace Pattern

theorem decoder_faithful (depth : Nat) : decoder.Faithful (fun _ => True) depth :=
  Json.Decoder.string_faithful ofText depth

theorem decoder_list_faithful (depth : Nat) :
    decoder.list.Faithful (fun _ => True) (depth + 1) := by
  refine (decoder_faithful depth).list fun items => ?_
  simp only [implies_true]

end Pattern

/-- Both ways of reading a pattern, or a row of patterns, succeed on the same texts with
the same result.  A symbol, or a row of symbols, is read directly from exactly those
texts that give it by value and in which no object repeats a key. -/
theorem Text.direct_iff_byValue (t : Text) :
    (∀ p, Pattern.decoder.direct t = .ok p ↔ Pattern.decoder.byValue t = .ok p) ∧
    (∀ ps, Pattern.decoder.list.direct t = .ok ps ↔ Pattern.decoder.list.byValue t = .ok ps) ∧
    (∀ x, Symbol.decoder.direct t = .ok x ↔
      Symbol.decoder.byValue t = .ok x ∧ ¬ t.RepeatsKey) ∧
    (∀ xs, Symbol.decoder.list.direct t = .ok xs ↔
      Symbol.decoder.list.byValue t = .ok xs ∧ ¬ t.RepeatsKey) :=
  ⟨fun _ => (Pattern.decoder_faithful maxDepth).direct_iff_of_forall,
    fun _ => (Pattern.decoder_list_faithful 126).direct_iff_of_forall,
    fun _ => (Symbol.decoder_faithful 126).direct_iff_of_repeats,
    fun _ => (Symbol.decoder_list_faithful 125).direct_iff_of_repeats⟩

/-- A key counts as repeated by its characters, however they are written. -/
example :
    let t : Text := "[\x7b\"Literal\":\"a\",\"\\u004citeral\":\"b\"\x7d]".toList
    Symbol.decoder.list.direct t = .error .malformed ∧
      Symbol.decoder.list.byValue t = .ok [.literal ['b']] := ⟨rfl, rfl⟩

end Interpolation
