import Interpolation.Proofs.Grammar
import Interpolation.Proofs.Rendering

/-!
# One pass over the source

Compiling and rendering can be done at once: one pass over the source, from the
left, copies what stands outside of the braces and puts a text in the place of
each placeholder.  The pass knows nothing of symbols.  What it writes is what a
compiled pattern renders, and the contents that it meets are what the table is
asked for.
-/

namespace Interpolation

namespace Text

/-- Go through a source from the left: `copy` for each character outside of the
braces, `place` for the content of each placeholder, which ends at the next
closing brace. -/
def sweep {α : Type} (copy : Char → List α) (place : Text → List α) : Text → List α
  | [] => []
  | '{' :: s => place (s.takeWhile (· ≠ '}')) ++ sweep copy place (s.dropWhile (· ≠ '}')).tail
  | c :: s => copy c ++ sweep copy place s
termination_by s => s.length
decreasing_by
  · have h := (List.dropWhile_suffix (l := s) (· ≠ '}')).length_le
    simp only [List.length_tail, List.length_cons]
    omega
  · simp

/-- The source with `fill c` in the place of each placeholder with content `c`. -/
def expand (fill : Text → Text) (s : Text) : Text := s.sweep (fun c => [c]) fill

/-- The contents of the placeholders, in order. -/
def contents (s : Text) : List Text := s.sweep (fun _ => []) fun c => [c]

end Text

/-- The text in the place of a placeholder.  A placeholder without content leaves
nothing, whatever the table says. -/
def Missing.fill (missing : Missing) (table : Table) (content : Text) : Text :=
  if content = [] then []
  else match table.lookup content with
    | some value => value
    | none => match missing with
      | .empty => []
      | .keep => '{' :: content ++ ['}']

/-! ## The pass over pieces -/

section
variable {α : Type} (copy : Char → List α) (place : Text → List α)

/-- What the pass gives for one piece. -/
def Symbol.swept : Symbol → List α
  | .literal t => t.flatMap copy
  | .substitution c => place c

namespace Text

theorem takeWhile_content {c : Text} (hc : c.BraceFree) (s : Text) :
    (c ++ '}' :: s).takeWhile (· ≠ '}') = c := by
  have hall : ∀ a ∈ c, decide (a ≠ '}') = true := fun a ha =>
    decide_eq_true fun h => hc.2 (h ▸ ha)
  rw [List.takeWhile_append_of_pos hall, List.takeWhile_cons_of_neg (by simp), List.append_nil]

theorem dropWhile_content {c : Text} (hc : c.BraceFree) (s : Text) :
    (c ++ '}' :: s).dropWhile (· ≠ '}') = '}' :: s := by
  have hall : ∀ a ∈ c, decide (a ≠ '}') = true := fun a ha =>
    decide_eq_true fun h => hc.2 (h ▸ ha)
  rw [List.dropWhile_append_of_pos hall, List.dropWhile_cons_of_neg (by simp)]

theorem sweep_braceFree {t : Text} (ht : t.BraceFree) (s : Text) :
    sweep copy place (t ++ s) = t.flatMap copy ++ sweep copy place s := by
  induction t with
  | nil => rfl
  | cons c t ih =>
    obtain ⟨ho, -, htail⟩ := ht.of_cons
    rw [List.cons_append, sweep.eq_3 _ _ c _ ho, ih htail, List.flatMap_cons, List.append_assoc]

theorem sweep_placeholder {c : Text} (hc : c.BraceFree) (s : Text) :
    sweep copy place ('{' :: c ++ '}' :: s) = place c ++ sweep copy place s := by
  rw [List.cons_append, sweep, takeWhile_content hc, dropWhile_content hc, List.tail_cons]

theorem sweep_pieces {pieces : List Symbol} (h : ∀ x ∈ pieces, x.text.BraceFree) :
    sweep copy place (pieces.flatMap Symbol.source) =
      pieces.flatMap (Symbol.swept copy place) := by
  refine Symbol.flatMap_source (by rw [sweep]) (fun x s hx => ?_) h
  cases x with
  | literal t => exact sweep_braceFree copy place hx s
  | substitution c =>
    rw [Symbol.source_substitution_append]
    exact sweep_placeholder copy place hx s

end Text
end

/-! ## Rendering is one pass -/

theorem Missing.fill_of_ne_nil (missing : Missing) (table : Table) {c : Text} (hc : c ≠ []) :
    missing.fill table c = (table.lookup c).getD (missing.text c) := by
  unfold fill
  rw [if_neg hc]
  cases table.lookup c with
  | none => cases missing <;> rfl
  | some value => rfl

theorem Symbol.skipBlank_contribution (table : Table) (missing : Missing) :
    skipBlank (contribution table missing) = swept (fun c => [c]) (missing.fill table) := by
  funext x
  cases x with
  | literal t =>
    cases t with
    | nil => rfl
    | cons c t => exact (List.flatMap_singleton' (c :: t)).symm
  | substitution c =>
    by_cases hc : c = []
    · subst hc
      rfl
    · have htext : (substitution c).text ≠ [] := hc
      rw [skipBlank, if_neg htext, swept, Missing.fill_of_ne_nil missing table hc, contribution]

theorem Symbol.skipBlank_identifier :
    skipBlank (fun x => x.identifier?.toList) =
      fun x => (swept (fun _ => []) (fun c => [c]) x).filter (· ≠ []) := by
  funext x
  cases x with
  | literal t => cases t <;> simp [skipBlank, swept, identifier?]
  | substitution c => cases c <;> rfl

/-- Rendering a compiled source writes what one pass over the source writes, and
asks the table for the contents that the pass meets, as often and in the order in
which they stand in the source.  Neither the empty content nor anything in a value
is asked for. -/
theorem Pattern.render_eq_expand {s : Text} {p : Pattern} (hp : compile s = .ok p)
    (table : Table) (missing : Missing) :
    p.render table missing = s.expand (missing.fill table) ∧
      (p.renderTo (.ofText []) table missing).1.lookups = s.contents.filter (· ≠ []) := by
  obtain ⟨pieces, hpieces, rfl, rfl⟩ := exists_pieces hp
  constructor
  · rw [render_eq, Symbol.flatMap_tidy (Symbol.additive_contribution table missing),
      Symbol.skipBlank_contribution, Text.expand, Text.sweep_pieces _ _ hpieces]
  · rw [lookups_renderTo, identifiers, List.filterMap_eq_flatMap_toList,
      Symbol.flatMap_tidy Symbol.additive_identifier, Symbol.skipBlank_identifier,
      Text.contents, Text.sweep_pieces _ _ hpieces, List.filter_flatMap]

/-- A value with braces stays as it is, and the table's text for the empty
identifier is not asked for. -/
theorem Pattern.render_eq_expand_verbatim :
    let table : Table :=
      ⟨fun i => if i = [] then some ['!'] else if i = ['x'] then some "{y}".toList else none⟩
    let source := "{}a{x}{y}{x}".toList
    ∃ p, compile source = .ok p ∧
      Text.expand (Missing.keep.fill table) source = "a{y}{y}{y}".toList ∧
      (Text.contents source).filter (· ≠ []) = [['x'], ['y'], ['x']] := by
  intro table source
  have hp : compile source =
      .ok ⟨[.literal ['a'], .substitution ['x'], .substitution ['y'], .substitution ['x']]⟩ := rfl
  obtain ⟨hwritten, hlookups⟩ := render_eq_expand hp table .keep
  exact ⟨_, hp, hwritten.symm, hlookups.symm⟩

end Interpolation
