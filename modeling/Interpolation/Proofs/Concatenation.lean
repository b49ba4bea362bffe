import Interpolation.Proofs.Grammar
import Interpolation.Proofs.Rendering

/-!
# Sources one after the other

After an accepted source, another one compiles as it does alone, with the
positions of its faults moved; and a fault that does not come from the end of a
source stays whatever follows.  Literals may join where two sources meet, which
neither rendering nor the identifiers show.
-/

namespace Interpolation

/-! ## Accepted sources -/

theorem Symbol.flatMap_tidy_append {α : Type} {f : Symbol → List α} (hf : Additive f)
    (l m : List Symbol) :
    (tidy (l ++ m)).flatMap f = (tidy l).flatMap f ++ (tidy m).flatMap f := by
  rw [flatMap_tidy hf, flatMap_tidy hf, flatMap_tidy hf, List.flatMap_append]

namespace Pattern

theorem identifiers_eq_flatMap (p : Pattern) :
    p.identifiers = p.symbols.flatMap fun x => x.identifier?.toList :=
  List.filterMap_eq_flatMap_toList _ _

/-- What a source means: the pattern of an accepted one, and the empty pattern
for one that is rejected. -/
def ofSource (s : Text) : Pattern :=
  match compile s with
  | .ok p => p
  | .error _ => .empty

theorem ofSource_of_compile {s : Text} {p : Pattern} (h : compile s = .ok p) : ofSource s = p := by
  rw [ofSource, h]

theorem compile_append {s t : Text} {p q : Pattern} (hs : compile s = .ok p)
    (ht : compile t = .ok q) :
    ∃ r, compile (s ++ t) = .ok r ∧
      (∀ table missing, r.render table missing = p.render table missing ++ q.render table missing) ∧
      r.identifiers = p.identifiers ++ q.identifiers := by
  obtain ⟨l, hl, rfl, rfl⟩ := exists_pieces hs
  obtain ⟨m, hm, rfl, rfl⟩ := exists_pieces ht
  have hlm : ∀ x ∈ l ++ m, x.text.BraceFree := fun x hx =>
    (List.mem_append.mp hx).elim (hl x) (hm x)
  refine ⟨_, List.flatMap_append ▸ compile_pieces hlm, fun table missing => ?_, ?_⟩
  · simp only [render_eq]
    exact Symbol.flatMap_tidy_append (Symbol.additive_contribution table missing) l m
  · simp only [identifiers_eq_flatMap]
    exact Symbol.flatMap_tidy_append Symbol.additive_identifier l m

/-- A row of accepted sources is accepted, and means what they mean in a row. -/
theorem compile_flatMap {α : Type} {xs : List α} {f : α → Text}
    (h : ∀ x ∈ xs, ∃ q, compile (f x) = .ok q) :
    ∃ r, compile (xs.flatMap f) = .ok r ∧
      (∀ table missing,
        r.render table missing = xs.flatMap fun x => (ofSource (f x)).render table missing) ∧
      r.identifiers = xs.flatMap fun x => (ofSource (f x)).identifiers := by
  induction xs with
  | nil => exact ⟨.empty, rfl, fun _ _ => rfl, rfl⟩
  | cons x rest ih =>
    obtain ⟨p, hp⟩ := h x List.mem_cons_self
    obtain ⟨q, hq, hrender, hidentifiers⟩ := ih fun y hy => h y (List.mem_cons_of_mem _ hy)
    obtain ⟨r, hr, hrender', hidentifiers'⟩ := compile_append hp hq
    refine ⟨r, hr, fun table missing => ?_, ?_⟩
    · rw [hrender', hrender, List.flatMap_cons, ofSource_of_compile hp]
    · rw [hidentifiers', hidentifiers, List.flatMap_cons, ofSource_of_compile hp]

end Pattern

/-! ## Rejected sources -/

namespace Shape

theorem append_left {u s : Text} {e : BraceError} (hu : u.WellFormed) (h : Shape s (some e)) :
    Shape (u ++ s) (some (e.shift u.length)) := by
  cases h with
  | @unmatched w r hw =>
    have h := unmatched r (hu.append hw)
    rw [List.append_assoc, List.length_append] at h
    exact h
  | @nested w c r hw hc =>
    have h := nested r (hu.append hw) hc
    rw [List.append_assoc, List.append_assoc, ← List.append_assoc w, List.length_append,
      Nat.add_assoc, Nat.add_assoc, ← Nat.add_assoc w.length] at h
    exact h
  | @unclosed w c hw hc =>
    have h := unclosed (hu.append hw) hc
    rw [List.append_assoc, List.length_append] at h
    exact h

theorem append_right {s : Text} {e : BraceError} (h : Shape s (some e))
    (he : e.fault ≠ .unclosedOpening) (t : Text) : Shape (s ++ t) (some e) := by
  cases h with
  | unmatched r hu =>
    rw [List.append_assoc]
    exact unmatched (r ++ t) hu
  | nested r hu hc =>
    rw [List.append_assoc]
    exact nested (r ++ t) hu hc
  | unclosed hu hc => exact absurd rfl he

end Shape

namespace Pattern

theorem compile_append_error {s t : Text} {p : Pattern} {e : BraceError}
    (hs : compile s = .ok p) (ht : compile t = .error e) :
    compile (s ++ t) = .error (e.shift s.length) :=
  ((Shape.of_compile_error ht).append_left (Shape.wellFormed_of_compile hs)).compile_error

theorem compile_error_append {s : Text} {e : BraceError} (hs : compile s = .error e)
    (he : e.fault ≠ .unclosedOpening) (t : Text) : compile (s ++ t) = .error e :=
  ((Shape.of_compile_error hs).append_right he t).compile_error

end Pattern
end Interpolation
