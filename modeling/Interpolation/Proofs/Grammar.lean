import Interpolation.Proofs.Reading
import Mathlib.Data.List.Induction

/-!
# The grammar of sources

Every source has one of four shapes: it is well-formed, or it starts with a
well-formed source after which a brace is at fault.  One more character takes
each shape to a shape again, so no source is left out; and compiling answers
each shape in its own way, so no source has two.
-/

namespace Interpolation

/-- A source is well-formed if it is a row of texts and placeholders that hold no
further brace. -/
def Text.WellFormed (s : Text) : Prop :=
  ∃ pieces : List Symbol, (∀ x ∈ pieces, x.text.BraceFree) ∧ pieces.flatMap Symbol.source = s

/-- The shapes of a source, each with the fault that it shows. -/
inductive Shape : Text → Option BraceError → Prop
  | wellFormed {s : Text} : s.WellFormed → Shape s none
  | unmatched {u : Text} (r : Text) : u.WellFormed →
      Shape (u ++ '}' :: r) (some ⟨.unmatchedClosing, u.length⟩)
  | nested {u c : Text} (r : Text) : u.WellFormed → c.BraceFree →
      Shape (u ++ '{' :: c ++ '{' :: r) (some ⟨.nestedOpening, u.length + 1 + c.length⟩)
  | unclosed {u c : Text} : u.WellFormed → c.BraceFree →
      Shape (u ++ '{' :: c) (some ⟨.unclosedOpening, (u ++ '{' :: c).length⟩)

/-! ## Well-formed sources -/

namespace Text.WellFormed

theorem nil : WellFormed [] := ⟨[], fun _ hx => absurd hx List.not_mem_nil, rfl⟩

theorem piece {x : Symbol} (h : x.text.BraceFree) : WellFormed x.source := by
  refine ⟨[x], fun y hy => ?_, List.append_nil _⟩
  rw [List.mem_singleton.mp hy]
  exact h

theorem append {s t : Text} (hs : s.WellFormed) (ht : t.WellFormed) : WellFormed (s ++ t) := by
  obtain ⟨l, hl, rfl⟩ := hs
  obtain ⟨m, hm, rfl⟩ := ht
  refine ⟨l ++ m, fun x hx => ?_, List.flatMap_append⟩
  exact (List.mem_append.mp hx).elim (hl x) (hm x)

end Text.WellFormed

/-! ## Every source has a shape -/

namespace Shape

/-- One more character.  Only a shape without a fault, or with an open
placeholder, can change; after the other two faults nothing matters. -/
theorem snoc {s : Text} {v : Option BraceError} (h : Shape s v) (c : Char) :
    ∃ w, Shape (s ++ [c]) w := by
  cases h with
  | wellFormed hs =>
    by_cases ho : c = '{'
    · subst ho
      exact ⟨_, unclosed hs ⟨List.not_mem_nil, List.not_mem_nil⟩⟩
    · by_cases hc : c = '}'
      · subst hc
        exact ⟨_, unmatched [] hs⟩
      · exact ⟨none, wellFormed (hs.append (.piece (x := .literal [c]) (.singleton ho hc)))⟩
  | @unmatched u r hu =>
    refine ⟨some ⟨.unmatchedClosing, u.length⟩, ?_⟩
    rw [List.append_assoc]
    exact unmatched (r ++ [c]) hu
  | @nested u d r hu hd =>
    refine ⟨some ⟨.nestedOpening, u.length + 1 + d.length⟩, ?_⟩
    rw [List.append_assoc]
    exact nested (r ++ [c]) hu hd
  | @unclosed u d hu hd =>
    by_cases ho : c = '{'
    · subst ho
      exact ⟨_, nested [] hu hd⟩
    · rw [List.append_assoc, List.cons_append]
      by_cases hc : c = '}'
      · subst hc
        exact ⟨none, wellFormed (hu.append (.piece (x := .substitution d) hd))⟩
      · exact ⟨_, unclosed hu (hd.append (.singleton ho hc))⟩

theorem exists_shape (s : Text) : ∃ v, Shape s v := by
  induction s using List.reverseRecOn with
  | nil => exact ⟨none, wellFormed .nil⟩
  | append_singleton s c ih =>
    obtain ⟨v, hv⟩ := ih
    exact hv.snoc c

end Shape

/-! ## Compiling by shape -/

namespace Pattern

theorem compile_of_read {s : Text} {q : Reading} (h : Reading.start.read s = .ok q)
    (hq : q.side = .outside) : compile s = .ok ⟨q.collect⟩ := by
  rw [compile, h]
  show q.finish >>= _ = _
  rw [Reading.finish, hq]
  rfl

theorem compile_of_read_inside {s : Text} {q : Reading} (h : Reading.start.read s = .ok q)
    (hq : q.side = .inside) : compile s = .error ⟨.unclosedOpening, q.position⟩ := by
  rw [compile, h]
  show q.finish >>= _ = _
  rw [Reading.finish, hq]
  rfl

theorem compile_of_read_error {s : Text} {e : BraceError} (h : Reading.start.read s = .error e) :
    compile s = .error e := by
  rw [compile, h]
  rfl

theorem compile_pieces {pieces : List Symbol} (h : ∀ x ∈ pieces, x.text.BraceFree) :
    compile (pieces.flatMap Symbol.source) = .ok ⟨Symbol.tidy pieces⟩ := by
  have hread := Reading.read_pieces h (r := .start) rfl []
  rw [List.append_nil] at hread
  rw [compile_of_read hread (Reading.foldl_pass_side pieces rfl),
    Reading.foldl_pass_collect pieces rfl, Reading.ahead_start]

theorem compile_piece {x : Symbol} (hx : x.text.BraceFree) :
    compile x.source = .ok ⟨Symbol.tidy [x]⟩ := by
  have h : ∀ y ∈ [x], y.text.BraceFree := fun y hy => (List.mem_singleton.mp hy) ▸ hx
  have hc := compile_pieces h
  rw [List.flatMap_cons, List.flatMap_nil, List.append_nil] at hc
  exact hc

end Pattern

/-- Reading on after a well-formed source is reading outside of the braces, with
only the position to show for it. -/
theorem Text.WellFormed.read {u : Text} (hu : u.WellFormed) :
    ∃ q : Reading, q.side = .outside ∧ q.position = u.length ∧
      ∀ s, Reading.start.read (u ++ s) = q.read s := by
  obtain ⟨l, hl, rfl⟩ := hu
  refine ⟨l.foldl Reading.pass .start, Reading.foldl_pass_side l rfl, ?_, ?_⟩
  · rw [Reading.foldl_pass_position]
    exact Nat.zero_add _
  · exact Reading.read_pieces hl rfl

namespace Shape

/-- The fault that compiling finds, if any. -/
def verdict (s : Text) : Option BraceError :=
  match Pattern.compile s with
  | .ok _ => none
  | .error e => some e

theorem verdict_of_error {s : Text} {e : BraceError} (h : Pattern.compile s = .error e) :
    verdict s = some e := by
  rw [verdict, h]

theorem verdict_eq {s : Text} {v : Option BraceError} (h : Shape s v) : verdict s = v := by
  cases h with
  | wellFormed hs =>
    obtain ⟨l, hl, rfl⟩ := hs
    rw [verdict, Pattern.compile_pieces hl]
  | unmatched r hu =>
    obtain ⟨q, hside, hpos, hread⟩ := hu.read
    refine verdict_of_error (Pattern.compile_of_read_error ?_)
    rw [hread, Reading.read_cons, Reading.step_unmatched hside, hpos]
    rfl
  | @nested u c r hu hc =>
    obtain ⟨q, hside, hpos, hread⟩ := hu.read
    refine verdict_of_error (Pattern.compile_of_read_error ?_)
    have hinside : ((q.cross .inside).absorb c).position = u.length + 1 + c.length := by
      rw [← hpos]
      rfl
    rw [List.append_assoc, hread, Reading.read_open hside hc, Reading.read_cons,
      Reading.step_nested rfl, hinside]
    rfl
  | @unclosed u c hu hc =>
    obtain ⟨q, hside, hpos, hread⟩ := hu.read
    have hinside : ((q.cross .inside).absorb c).position = (u ++ '{' :: c).length := by
      show q.position + 1 + c.length = _
      rw [hpos, List.length_append, List.length_cons]
      omega
    have hend : Reading.start.read (u ++ '{' :: c) = .ok ((q.cross .inside).absorb c) := by
      have h := Reading.read_open hside hc []
      rw [List.append_nil] at h
      rw [hread, h]
      rfl
    rw [← hinside]
    exact verdict_of_error (Pattern.compile_of_read_inside hend rfl)

theorem of_verdict (s : Text) : Shape s (verdict s) := by
  obtain ⟨v, hv⟩ := exists_shape s
  rw [hv.verdict_eq]
  exact hv

theorem of_compile_error {s : Text} {e : BraceError} (h : Pattern.compile s = .error e) :
    Shape s (some e) := by
  rw [← verdict_of_error h]
  exact of_verdict s

theorem compile_error {s : Text} {e : BraceError} (h : Shape s (some e)) :
    Pattern.compile s = .error e := by
  have hv := h.verdict_eq
  unfold verdict at hv
  cases hc : Pattern.compile s with
  | ok p => simp only [hc, reduceCtorEq] at hv
  | error f =>
    simp only [hc, Option.some.injEq] at hv
    rw [hv]

theorem wellFormed_of_compile {s : Text} {p : Pattern} (h : Pattern.compile s = .ok p) :
    s.WellFormed := by
  have hv : verdict s = none := by rw [verdict, h]
  have hs := of_verdict s
  rw [hv] at hs
  cases hs with
  | wellFormed hs => exact hs

theorem iff_compile_ok {s : Text} : Shape s none ↔ ∃ p, Pattern.compile s = .ok p := by
  constructor
  · rintro ⟨hs⟩
    obtain ⟨l, hl, rfl⟩ := hs
    exact ⟨_, Pattern.compile_pieces hl⟩
  · rintro ⟨p, hp⟩
    exact wellFormed (wellFormed_of_compile hp)

/-- A source has exactly one shape, and compiling it tells which: it succeeds on
the well-formed ones and answers every other shape with the fault and the
position that the shape shows. -/
theorem existsUnique_and_iff_compile (s : Text) :
    (∃! v, Shape s v) ∧ (Shape s none ↔ ∃ p, Pattern.compile s = .ok p) ∧
      ∀ e, Shape s (some e) ↔ Pattern.compile s = .error e := by
  refine ⟨⟨verdict s, of_verdict s, fun v hv => hv.verdict_eq.symm⟩, iff_compile_ok, fun e => ?_⟩
  exact ⟨compile_error, of_compile_error⟩

end Shape

namespace Pattern

/-- An accepted source is a row of pieces, and its symbols are what they leave. -/
theorem exists_pieces {s : Text} {p : Pattern} (h : compile s = .ok p) :
    ∃ pieces : List Symbol, (∀ x ∈ pieces, x.text.BraceFree) ∧
      pieces.flatMap Symbol.source = s ∧ p = ⟨Symbol.tidy pieces⟩ := by
  obtain ⟨l, hl, rfl⟩ := Shape.wellFormed_of_compile h
  exact ⟨l, hl, rfl, (Except.ok.inj ((compile_pieces hl).symm.trans h)).symm⟩

theorem proper_of_compile {s : Text} {p : Pattern} (h : compile s = .ok p) :
    ∀ x ∈ p.symbols, x.Proper := by
  obtain ⟨l, hl, -, rfl⟩ := exists_pieces h
  exact Symbol.proper_tidy hl

end Pattern
end Interpolation
