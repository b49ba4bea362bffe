import Interpolation.Proofs.Pieces
import Interpolation.Rendering

/-!
# Rendering without bound

A run goes from symbol to symbol: the table is asked for the identifier, and what the
symbol resolves to is written.  A writer without bound takes the contribution of
every symbol, one after the other, and the table is asked for every identifier.
-/

namespace Interpolation

/-! ## One symbol -/

namespace Symbol

/-- What a symbol adds to the text. -/
def contribution (table : Table) (missing : Missing) : Symbol → Text
  | .literal t => t
  | .substitution i => (table.lookup i).getD (missing.text i)

/-- Note in a run that the table was asked, if the symbol asks it. -/
def noted (table : Table) : Symbol → Rendering → Rendering
  | literal _, r => r
  | substitution i, r => r.asked i (table.lookup i).isSome

section
variable (table : Table) (missing : Missing)

/-- A symbol adds what it resolves to.  The policy decides only for a symbol that does
not resolve, and this is a substitution, so its text is an identifier. -/
theorem contribution_eq_resolve (x : Symbol) :
    x.contribution table missing = (x.resolve table).getD (missing.text x.text) := by
  cases x <;> rfl

theorem additive_contribution : Additive (contribution table missing) := fun _ _ => rfl

theorem ok_noted (x : Symbol) (r : Rendering) : (x.noted table r).ok = r.ok := by
  cases x <;> rfl

theorem written_noted (x : Symbol) (r : Rendering) : (x.noted table r).written = r.written := by
  cases x <;> rfl

theorem lookups_noted (x : Symbol) (r : Rendering) :
    (x.noted table r).lookups = x.identifier?.toList ++ r.lookups := by
  cases x <;> rfl

/-- A run asks for its first symbol and writes what that adds; the rest goes on with
the room that is left. -/
theorem renderAll_cons (x : Symbol) (rest : List Symbol) (room : Room) :
    renderAll table missing (x :: rest) room =
      x.noted table (.write room (x.contribution table missing) (renderAll table missing rest)) := by
  cases x with
  | literal t => rfl
  | substitution i => cases h : table.lookup i <;> simp [renderAll, noted, contribution, h]

end

section
variable {x : Symbol} {first second : Table}
  (h : ∀ i ∈ x.identifier?, first.lookup i = second.lookup i)

include h

theorem resolve_congr : x.resolve second = x.resolve first := by
  cases x with
  | literal t => rfl
  | substitution i => exact (h i rfl).symm

theorem contribution_congr (missing : Missing) :
    x.contribution second missing = x.contribution first missing := by
  rw [contribution_eq_resolve, contribution_eq_resolve, resolve_congr h]

theorem noted_congr (r : Rendering) : x.noted second r = x.noted first r := by
  cases x with
  | literal t => rfl
  | substitution i => rw [noted, noted, h i rfl]

end
end Symbol

/-! ## The whole run -/

variable (table : Table) (missing : Missing)

theorem Rendering.write_unbounded (t : Text) (rest : Room → Rendering) :
    write none t rest = { rest none with written := t ++ (rest none).written } := rfl

theorem Symbol.renderAll_unbounded (symbols : List Symbol) :
    renderAll table missing symbols none =
      { ok := true
        written := symbols.flatMap (contribution table missing)
        lookups := symbols.filterMap identifier?
        absent := (symbols.filterMap identifier?).filter fun i => (table.lookup i).isNone } := by
  induction symbols with
  | nil => rfl
  | cons x rest ih =>
    rw [renderAll_cons, Rendering.write_unbounded, ih]
    cases x with
    | literal t => rfl
    | substitution i => cases h : table.lookup i <;> simp [noted, Rendering.asked, identifier?, h]

namespace Pattern

theorem render_eq (p : Pattern) :
    p.render table missing = p.symbols.flatMap (Symbol.contribution table missing) := by
  show [] ++ (Symbol.renderAll table missing p.symbols none).written = _
  rw [Symbol.renderAll_unbounded, List.nil_append]

theorem lookups_renderTo (p : Pattern) (held : Text) :
    (p.renderTo (.ofText held) table missing).1.lookups = p.identifiers := by
  show (Symbol.renderAll table missing p.symbols none).lookups = _
  rw [Symbol.renderAll_unbounded, identifiers]

theorem ok_renderTo (p : Pattern) (held : Text) :
    (p.renderTo (.ofText held) table missing).1.ok = true := by
  show (Symbol.renderAll table missing p.symbols none).ok = true
  rw [Symbol.renderAll_unbounded]

theorem mem_identifiers {p : Pattern} {x : Symbol} (hx : x ∈ p.symbols) {i : Text}
    (hi : i ∈ x.identifier?) : i ∈ p.identifiers :=
  List.mem_filterMap.mpr ⟨x, hx, hi⟩

/-- Only the entries for its identifiers matter to a pattern. -/
theorem render_congr {p : Pattern} {first second : Table}
    (h : ∀ i ∈ p.identifiers, first.lookup i = second.lookup i) (missing : Missing) :
    p.render first missing = p.render second missing := by
  rw [render_eq, render_eq]
  refine List.flatMap_congr fun x hx => ?_
  exact (Symbol.contribution_congr (fun i hi => h i (mem_identifiers hx hi)) missing).symm

end Pattern
end Interpolation
