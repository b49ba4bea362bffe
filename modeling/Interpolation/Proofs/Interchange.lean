import Interpolation.Interchange
import Interpolation.Proofs.Json.Strings
import Interpolation.Proofs.Observation

/-!
# Patterns through JSON text

Reading a pattern from the JSON text of a string is compiling that string, since
the text reads back as the string it was printed from.  A fault is at a position of
the string, however many characters its JSON text takes.  A pattern goes through
JSON as its canonical source, so it comes back with its neighbouring literals
joined.
-/

namespace Interpolation.Pattern

theorem ofText_of_compile {s : Text} {p : Pattern} (h : compile s = .ok p) : ofText s = .ok p := by
  rw [ofText, h]
  rfl

theorem direct_decoder_quote (s : Text) : decoder.direct (Json.quote s) = ofText s :=
  Json.Decoder.direct_string_quote ofText s

theorem byValue_decoder_quote (s : Text) : decoder.byValue (Json.quote s) = ofText s :=
  Json.Decoder.byValue_string_quote ofText s

theorem print_toJson (p : Pattern) : p.toJson.print = Json.quote p.source := by
  rw [toJson, Json.print]

theorem direct_decoder_toJson {p q : Pattern} (h : p.recompile = .ok q) :
    decoder.direct p.toJson.print = .ok q := by
  rw [print_toJson, direct_decoder_quote]
  exact ofText_of_compile h

theorem byValue_decoder_toJson {p q : Pattern} (h : p.recompile = .ok q) :
    decoder.byValue p.toJson.print = .ok q := by
  rw [print_toJson, byValue_decoder_quote]
  exact ofText_of_compile h

/-- Reading a pattern from the JSON text of a string, directly or from the value
that the text stands for, gives what compiling the string gives.  A rejected string
is a mismatch with the message of its fault.  So the JSON text of a pattern is
always read, as the pattern of its canonical source, which is an equal pattern
exactly if no two literals are neighbours. -/
theorem decoder_print_string (s : Text) :
    decoder.direct (Json.string s).print =
        (compile s).mapError (fun e => .mismatch (.braces e)) ∧
      decoder.byValue (Json.string s).print =
        (compile s).mapError (fun e => .mismatch (.braces e)) ∧
      (∀ e : BraceError, (Json.Mismatch.braces e).message = e.message) ∧
      ∀ p, compile s = .ok p →
        ∃ q, compile p.source = .ok q ∧ decoder.direct p.toJson.print = .ok q ∧
          decoder.byValue p.toJson.print = .ok q ∧ (q = p ↔ Symbol.Separated p.symbols) := by
  have hprint : (Json.string s).print = Json.quote s := by rw [Json.print]
  rw [hprint, direct_decoder_quote, byValue_decoder_quote]
  refine ⟨rfl, rfl, fun _ => rfl, fun p hp => ?_⟩
  have hrecompile := recompile_of_proper (proper_of_compile hp)
  exact ⟨p.joined, hrecompile, direct_decoder_toJson hrecompile,
    byValue_decoder_toJson hrecompile, joined_eq_self_iff⟩

/-- A quote and a control character, which JSON writes with two and six characters,
before a brace at fault, and before an empty placeholder that keeps two literals
apart. -/
theorem decoder_print_string_escapes :
    let faulty : Text := ['"', '\x01', '}']
    let sound : Text := ['"', '\x01', '{', '}', '😀']
    let p : Pattern := ⟨[.literal ['"', '\x01'], .literal ['😀']]⟩
    (Json.string faulty).print = "\"\\\"\\u0001".toList ++ ['}', '"'] ∧
      decoder.direct (Json.string faulty).print =
        .error (.mismatch (.braces ⟨.unmatchedClosing, 2⟩)) ∧
      compile sound = .ok p ∧ decoder.byValue (Json.string sound).print = .ok p ∧
      ∃ q, decoder.direct p.toJson.print = .ok q ∧ q ≠ p := by
  intro faulty sound p
  have hsound : compile sound = .ok p := rfl
  obtain ⟨hfaulty, -⟩ := decoder_print_string faulty
  obtain ⟨-, hvalue, -, hback⟩ := decoder_print_string sound
  obtain ⟨q, -, hq, -, hsame⟩ := hback p hsound
  have hmeet : ¬ Symbol.Separated p.symbols := by
    show ¬ List.IsChain _ _
    decide
  have hprint : (Json.string faulty).print = "\"\\\"\\u0001".toList ++ ['}', '"'] := by
    rw [Json.print]
    rfl
  exact ⟨hprint, hfaulty, hsound, hvalue, q, hq, fun h => hmeet (hsame.mp h)⟩

end Interpolation.Pattern
