import Interpolation.Proofs.Concatenation

/-!
# Where a source can no longer be saved

A text is viable if something can follow it that makes it an accepted source.  A
brace out of place is noticed at the first character that ends viability, so the
fault depends on nothing behind that character.  A placeholder that was never
closed is no such fault: its closing brace may still come.
-/

namespace Interpolation

/-- Some continuation of the text is an accepted source. -/
def Text.Viable (s : Text) : Prop := ∃ t p, Pattern.compile (s ++ t) = .ok p

namespace Shape

theorem close {s : Text} {n : Nat} (h : Shape s (some ⟨.unclosedOpening, n⟩)) :
    Shape (s ++ ['}']) none := by
  cases h with
  | @unclosed u c hu hc =>
    have hplaceholder : Text.WellFormed (Symbol.substitution c).source := .piece hc
    rw [List.append_assoc]
    exact wellFormed (hu.append hplaceholder)

theorem viable_of_wellFormed {s : Text} (h : s.WellFormed) : s.Viable := by
  obtain ⟨p, hp⟩ := iff_compile_ok.mp (wellFormed h)
  refine ⟨[], p, ?_⟩
  rw [List.append_nil]
  exact hp

theorem viable_of_unclosed {s : Text} {n : Nat} (h : Shape s (some ⟨.unclosedOpening, n⟩)) :
    s.Viable := by
  obtain ⟨p, hp⟩ := iff_compile_ok.mp h.close
  exact ⟨['}'], p, hp⟩

theorem not_viable {s : Text} {e : BraceError} (h : Shape s (some e))
    (he : e.fault ≠ .unclosedOpening) : ¬ s.Viable := by
  rintro ⟨t, p, hp⟩
  have herror := (h.append_right he t).compile_error
  rw [hp] at herror
  cases herror

/-- The character at the position of a brace out of place is the first that shows
the fault, and what stands before it is viable. -/
theorem exists_cut {s : Text} {e : BraceError} (h : Shape s (some e))
    (he : e.fault ≠ .unclosedOpening) :
    ∃ u b r, s = u ++ b :: r ∧ u.length = e.position ∧ Text.Viable u ∧ Shape (u ++ [b]) (some e) := by
  cases h with
  | @unmatched u r hu =>
    exact ⟨u, '}', r, rfl, rfl, viable_of_wellFormed hu, unmatched [] hu⟩
  | @nested u c r hu hc =>
    refine ⟨u ++ '{' :: c, '{', r, rfl, ?_, viable_of_unclosed (unclosed hu hc), nested [] hu hc⟩
    simp only [List.length_append, List.length_cons]
    omega
  | unclosed hu hc => exact absurd rfl he

theorem cut_at_position {s : Text} {e : BraceError} (h : Shape s (some e))
    (he : e.fault ≠ .unclosedOpening) :
    e.position < s.length ∧ Text.Viable (s.take e.position) ∧
      Shape (s.take (e.position + 1)) (some e) := by
  obtain ⟨u, b, r, rfl, hlength, hviable, hshape⟩ := h.exists_cut he
  have hbefore : (u ++ b :: r).take e.position = u := by
    rw [← hlength, List.take_left]
  have hthrough : (u ++ b :: r).take (e.position + 1) = u ++ [b] := by
    rw [← hlength, List.take_length_add_append]
    rfl
  refine ⟨?_, ?_, ?_⟩
  · rw [List.length_append, List.length_cons]
    omega
  · rw [hbefore]
    exact hviable
  · rw [hthrough]
    exact hshape

end Shape

namespace Pattern

theorem viable_iff (s : Text) :
    s.Viable ↔ (∃ p, compile s = .ok p) ∨ ∃ n, compile s = .error ⟨.unclosedOpening, n⟩ := by
  constructor
  · intro hviable
    cases hs : compile s with
    | ok p => exact Or.inl ⟨p, rfl⟩
    | error e =>
      obtain ⟨fault, n⟩ := e
      by_cases hfault : fault = .unclosedOpening
      · subst hfault
        exact Or.inr ⟨n, rfl⟩
      · exact absurd hviable ((Shape.of_compile_error hs).not_viable hfault)
  · rintro (⟨p, hp⟩ | ⟨n, hn⟩)
    · exact Shape.viable_of_wellFormed (Shape.wellFormed_of_compile hp)
    · exact (Shape.of_compile_error hn).viable_of_unclosed

/-- The viable texts are the accepted sources and those that end in an open
placeholder, which one closing brace completes.  Any other fault is at a character
of the source: up to it the text is viable, with it no longer, and every text that
begins in the same way up to that character has the same fault. -/
theorem viable_and_first_fault (s : Text) :
    (s.Viable ↔ (∃ p, compile s = .ok p) ∨ ∃ n, compile s = .error ⟨.unclosedOpening, n⟩) ∧
    (∀ e, compile s = .error e → e.fault ≠ .unclosedOpening →
      e.position < s.length ∧ Text.Viable (s.take e.position) ∧
        ¬ Text.Viable (s.take (e.position + 1)) ∧
        ∀ t : Text, t.take (e.position + 1) = s.take (e.position + 1) → compile t = .error e) ∧
    (∀ n, compile s = .error ⟨.unclosedOpening, n⟩ → ∃ p, compile (s ++ ['}']) = .ok p) := by
  refine ⟨viable_iff s, fun e hs he => ?_, fun n hs => ?_⟩
  · obtain ⟨hlt, hviable, hshape⟩ := (Shape.of_compile_error hs).cut_at_position he
    refine ⟨hlt, hviable, hshape.not_viable he, fun t ht => ?_⟩
    have hstart : Shape (t.take (e.position + 1)) (some e) := ht ▸ hshape
    have hwhole := hstart.append_right he (t.drop (e.position + 1))
    rw [List.take_append_drop] at hwhole
    exact hwhole.compile_error
  · exact Shape.iff_compile_ok.mp (Shape.of_compile_error hs).close

/-- The second opening brace is the fault, not the closing brace behind it or the
end of the source, and it stays the fault when the rest is exchanged. -/
theorem viable_and_first_fault_nested :
    compile "a{b{c}}".toList = .error ⟨.nestedOpening, 3⟩ ∧
      ¬ Text.Viable ['a', '{', 'b', '{'] ∧
      compile ['a', '{', 'b', '{', '}'] = .error ⟨.nestedOpening, 3⟩ ∧
      compile ['a', '{', 'b'] = .error ⟨.unclosedOpening, 3⟩ ∧
      ∃ p, compile "a{b}".toList = .ok p := by
  have hnested : compile "a{b{c}}".toList = .error ⟨.nestedOpening, 3⟩ := rfl
  have hunclosed : compile ['a', '{', 'b'] = .error ⟨.unclosedOpening, 3⟩ := rfl
  obtain ⟨-, hfault, -⟩ := viable_and_first_fault "a{b{c}}".toList
  obtain ⟨-, -, hlost, hsame⟩ := hfault ⟨.nestedOpening, 3⟩ hnested (by decide)
  obtain ⟨-, -, hclose⟩ := viable_and_first_fault ['a', '{', 'b']
  exact ⟨hnested, hlost, hsame ['a', '{', 'b', '{', '}'] rfl, hunclosed, hclose 3 hunclosed⟩

end Pattern
end Interpolation
