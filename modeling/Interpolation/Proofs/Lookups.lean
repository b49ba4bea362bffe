import Interpolation.Proofs.Room
import Interpolation.Trace

/-!
# What a run asks of a table

A run asks for the identifiers of its pattern in their order, from the first one on,
and it asks for nothing else.  So a table shows in a run only by its answers to these
questions: two tables that agree on them make the same run, wherever the room ends
and however much else they hold.
-/

namespace Interpolation

namespace Rendering

section
variable {room : Room} {t : Text} {rest other : Room → Rendering}

theorem lookups_write_of_fits (h : room.fits t = true) :
    (write room t rest).lookups = (rest (room.after t)).lookups := by
  rw [write, if_pos h]

/-- The rest of a run matters only if there is one. -/
theorem write_congr (h : room.fits t = true → other (room.after t) = rest (room.after t)) :
    write room t other = write room t rest := by
  by_cases hfits : room.fits t = true
  · rw [write, write, if_pos hfits, if_pos hfits, h hfits]
  · rw [write, write, if_neg hfits, if_neg hfits]

end
end Rendering

namespace Symbol

variable {first second : Table} {missing : Missing} {room : Room}

/-- Tables that agree on what the first one is asked make the same run. -/
theorem renderAll_congr {symbols : List Symbol}
    (h : ∀ i ∈ (renderAll first missing symbols room).lookups, first.lookup i = second.lookup i) :
    renderAll second missing symbols room = renderAll first missing symbols room := by
  induction symbols generalizing room with
  | nil => rfl
  | cons x rest ih =>
    rw [renderAll_cons, lookups_noted] at h
    have hx : ∀ i ∈ x.identifier?, first.lookup i = second.lookup i := fun i hi =>
      h i (List.mem_append_left _ (Option.mem_toList.mpr hi))
    rw [renderAll_cons, renderAll_cons, contribution_congr hx, noted_congr hx]
    refine congrArg (x.noted first) (Rendering.write_congr fun hfits => ih fun i hi => ?_)
    refine h i (List.mem_append_right _ ?_)
    rw [Rendering.lookups_write_of_fits hfits]
    exact hi

theorem lookups_renderAll_isPrefix (table : Table) (symbols : List Symbol) (room : Room) :
    (renderAll table missing symbols room).lookups <+: symbols.filterMap identifier? := by
  cases room with
  | none =>
    have hall : (renderAll table missing symbols none).lookups = symbols.filterMap identifier? := by
      rw [renderAll_unbounded]
    exact hall ▸ List.prefix_rfl
  | some n =>
    obtain ⟨-, -, j, hj, -⟩ := renderAll_limited table missing symbols n
    rw [hj]
    exact (List.take_prefix j symbols).filterMap identifier?

theorem lookups_renderAll_of_ok {table : Table} {symbols : List Symbol}
    (h : (renderAll table missing symbols room).ok = true) :
    (renderAll table missing symbols room).lookups = symbols.filterMap identifier? := by
  cases room with
  | none => rw [renderAll_unbounded]
  | some n =>
    obtain ⟨-, hok, j, hj, hcut⟩ := renderAll_limited table missing symbols n
    have hfit := hok.mp h
    rcases hcut with hover | ⟨-, rfl⟩
    · exact absurd hover.lt_length (Nat.not_lt.mpr hfit)
    · rw [hj, List.take_length]

end Symbol

namespace Trace

/-- The events of a run. -/
def events (v : Verbosity) (r : Rendering) : Log := r.absent.flatMap (absent v)

theorem render_eq_events (v : Verbosity) (p : Pattern) (table : Table) (missing : Missing) :
    render v p table missing =
      (events v (p.renderTo (.ofText []) table missing).1, p.render table missing) := rfl

end Trace

namespace Pattern

/-- Two tables that give the same answers for the identifiers of a pattern cannot be
told apart by rendering it: the text, the success, the lookups and the events are the
same, also if the room ends on the way, and whatever the tables hold under other keys.
The lookups are the identifiers in their order, up to where the run ends, and all of
them if it succeeds. -/
theorem renderTo_reveals_identifiers {p : Pattern} {first second : Table}
    (h : ∀ i ∈ p.identifiers, first.lookup i = second.lookup i) (missing : Missing) (w : Writer) :
    let a := p.renderTo w first missing
    let b := p.renderTo w second missing
    b.2 = a.2 ∧ b.1.ok = a.1.ok ∧ b.1.lookups = a.1.lookups ∧
      (∀ v, Trace.events v b.1 = Trace.events v a.1) ∧
      (∀ v, Trace.render v p second missing = Trace.render v p first missing) ∧
      a.1.lookups <+: p.identifiers ∧ (a.1.ok = true → a.1.lookups = p.identifiers) := by
  have hrun : ∀ w : Writer, p.renderTo w second missing = p.renderTo w first missing := by
    intro w
    have hasked : ∀ i ∈ (Symbol.renderAll first missing p.symbols w.room).lookups,
        first.lookup i = second.lookup i := fun i hi =>
      h i ((Symbol.lookups_renderAll_isPrefix first p.symbols w.room).subset hi)
    rw [renderTo, renderTo, Symbol.renderAll_congr hasked]
  intro a b
  have hab : b = a := hrun w
  refine ⟨by rw [hab], by rw [hab], by rw [hab], fun v => by rw [hab], fun v => ?_, ?_, ?_⟩
  · rw [Trace.render_eq_events, Trace.render_eq_events, render, render, hrun]
  · exact Symbol.lookups_renderAll_isPrefix first p.symbols w.room
  · exact Symbol.lookups_renderAll_of_ok

/-- The second table also has values under the texts of the literals, under nothing at
all, and under the identifier that stands in the value of `x`.  Room for three
characters ends within that value. -/
theorem renderTo_reveals_identifiers_cut :
    let first : Table := ⟨fun i => if i = ['x'] then some "{z}".toList else none⟩
    let second : Table := ⟨fun i => if i = ['x'] then some "{z}".toList else some ['!']⟩
    let p : Pattern := ⟨[.literal ['a'], .substitution ['x'], .literal ['y'], .substitution ['x']]⟩
    let w : Writer := ⟨['>'], some 3⟩
    compile "a{x}y{x}".toList = .ok p ∧
      (∀ i ∈ p.identifiers, first.lookup i = second.lookup i) ∧
      (∀ i ∈ [['a'], ['y'], [], ['z']], first.lookup i ≠ second.lookup i) ∧
      (p.renderTo w second .keep).2 = ['>', 'a', '{', 'z'] ∧
      (p.renderTo w second .keep).1.ok = false ∧
      (p.renderTo w second .keep).1.lookups = [['x']] ∧
      (p.renderTo ⟨[], some 8⟩ first .keep).1.lookups = [['x'], ['x']] := by
  intro first second p w
  have hagree : ∀ i ∈ p.identifiers, first.lookup i = second.lookup i := by decide
  obtain ⟨htext, hok, hlookups, -⟩ := renderTo_reveals_identifiers hagree .keep w
  obtain ⟨-, -, -, -, -, -, hall⟩ := renderTo_reveals_identifiers hagree .keep ⟨[], some 8⟩
  exact ⟨rfl, hagree, by decide, htext, hok, hlookups, hall rfl⟩

end Pattern
end Interpolation
