import Interpolation.Proofs.Interchange
import Interpolation.Proofs.Session.Steps

/-!
# Patterns in slots

Whatever a session did before, the patterns in its slots could have been compiled
from some source.  A slot can therefore always be compiled from its canonical source
and taken through JSON, and both give the same pattern.
-/

namespace Interpolation

namespace Pattern

theorem throughJson_of_proper {p : Pattern} (h : ∀ x ∈ p.symbols, x.Proper) :
    p.throughJson = .ok p.joined :=
  direct_decoder_toJson (recompile_of_proper h)

theorem proper_joined {p : Pattern} (h : ∀ x ∈ p.symbols, x.Proper) :
    ∀ x ∈ p.joined.symbols, x.Proper :=
  proper_of_compile (recompile_of_proper h)

end Pattern

namespace Session.State

/-- Every pattern in a slot has proper symbols only. -/
def WellFormed (s : State) : Prop :=
  ∀ slot p, s.slots.get? slot = some p → ∀ x ∈ p.symbols, x.Proper

variable {s : State}

theorem wellFormed_start : start.WellFormed := by
  intro slot p h
  cases h

theorem WellFormed.put (hs : s.WellFormed) {p : Pattern} (hp : ∀ x ∈ p.symbols, x.Proper)
    (slot : Text) : WellFormed ((Change.put slot p).apply s) := by
  intro k q hq
  rcases Record.get?_insert_cases hq with rfl | hold
  · exact hp
  · exact hs k q hold

theorem WellFormed.drop (hs : s.WellFormed) (slot : Text) :
    WellFormed ((Change.drop slot).apply s) :=
  fun k q hq => hs k q (Record.get?_of_erase hq)

/-- A pattern comes into a slot from another slot or from the compiler, since what
was rendered or written as JSON is compiled again. -/
theorem wellFormed_change (s : State) (st : Step) (c : Change) (hs : s.WellFormed)
    (hc : s.Makes st c) : WellFormed (c.apply s) := by
  cases hc with
  | compile hp => exact hs.put (Pattern.proper_of_compile hp) _
  | default => exact hs.put (fun x hx => absurd hx List.not_mem_nil) _
  | clone hp => exact hs.put (hs _ _ hp) _
  | recompile hp hq => exact hs.put (Pattern.proper_of_compile hq) _
  | @roundTrip slot target p q hp hq =>
    have hproper := hs slot p hp
    have hjoined : q = p.joined :=
      Except.ok.inj (hq.symm.trans (Pattern.throughJson_of_proper hproper))
    rw [hjoined]
    exact hs.put (Pattern.proper_joined hproper) _
  | compose hp hq => exact hs.put (Pattern.proper_of_compile hq) _
  | intoSymbols hp => exact hs.drop _
  | equal _ _ => exact hs
  | describe _ => exact hs
  | set _ => exact hs
  | setSlot _ => exact hs
  | unset => exact hs
  | render _ => exact hs
  | append _ => exact hs
  | write _ => exact hs
  | flush => exact hs

theorem wellFormed_run (steps : List Step) : (start.run steps).2.WellFormed :=
  run_invariant wellFormed_change steps wellFormed_start

/-! ## Recompiling a slot -/

theorem next_recompile {slot target : Text} {p q : Pattern} (hp : s.slots.get? slot = some p)
    (hq : p.recompile = .ok q) :
    s.next (.recompile slot target) =
      (.ok (.stored q.size q.source), (Change.put target q).apply s) :=
  next_of_store ((pattern_bind hp _).trans (compileInto_eq hq))

theorem next_roundTrip {slot target : Text} {p q : Pattern} (hp : s.slots.get? slot = some p)
    (hq : p.throughJson = .ok q) :
    s.next (.roundTrip slot target) =
      (.ok (.stored q.size q.source), (Change.put target q).apply s) := by
  refine next_of_store ((pattern_bind hp _).trans ?_)
  rw [hq]
  rfl

theorem get?_put (s : State) (slot : Text) (p : Pattern) :
    ((Change.put slot p).apply s).slots.get? slot = some p := by
  show (s.slots.insert slot p).get? slot = some p
  rw [Record.get?_insert, if_pos rfl]

/-- After every run all patterns in slots have proper symbols only.  So a slot can
always be recompiled or taken through JSON, and both put the same pattern into their
target: one with the same canonical source, without neighbouring literals, that is
its own recompilation and renders as the pattern of the slot does. -/
theorem run_wellFormed_and_recompile (steps : List Step) :
    let s := (start.run steps).2
    s.WellFormed ∧
      ∀ slot target p, s.slots.get? slot = some p →
        ∃ q s', s.next (.recompile slot target) = (.ok (.stored q.size q.source), s') ∧
          s.next (.roundTrip slot target) = (.ok (.stored q.size q.source), s') ∧
          s'.slots.get? target = some q ∧ q.source = p.source ∧
          Symbol.Separated q.symbols ∧ q.recompile = .ok q ∧
          ∀ table missing, q.render table missing = p.render table missing := by
  intro s
  have hs : s.WellFormed := wellFormed_run steps
  refine ⟨hs, fun slot target p hp => ?_⟩
  have hproper := hs slot p hp
  have hrecompile := Pattern.recompile_of_proper hproper
  refine ⟨p.joined, (Change.put target p.joined).apply s, next_recompile hp hrecompile,
    next_roundTrip hp (Pattern.throughJson_of_proper hproper), get?_put s target p.joined,
    p.source_joined, Symbol.separated_join p.symbols, Pattern.recompile_joined hproper,
    p.render_joined⟩

/-- A slot with two literals that meet, and one composed from a value with braces,
after the first of them was compiled into another. -/
theorem run_wellFormed_and_recompile_composed :
    let steps : List Step := [.compile ['a'] "x{}y{z}".toList,
      .set ['z'] (.value (.text "{q}".toList)), .compose ['a'] ['b'] .empty,
      .append ['b'] .keep, .intoSymbols ['b'], .compose ['a'] ['b'] .empty]
    let s := (start.run steps).2
    let p : Pattern := ⟨[.literal ['x'], .literal ['y'], .substitution ['z']]⟩
    s.slots.get? ['a'] = some p ∧
      s.slots.get? ['b'] = some ⟨[.literal ['x', 'y'], .substitution ['q']]⟩ ∧
      ∃ q s', s.next (.roundTrip ['a'] ['b']) = (.ok (.stored q.size q.source), s') ∧
        s'.slots.get? ['b'] = some q ∧ q.source = "xy{z}".toList ∧ q.recompile = .ok q := by
  intro steps s p
  have hp : s.slots.get? ['a'] = some p := rfl
  obtain ⟨-, h⟩ := run_wellFormed_and_recompile steps
  obtain ⟨q, s', -, hnext, hq, hsource, -, hagain, -⟩ := h ['a'] ['b'] p hp
  exact ⟨hp, rfl, q, s', hnext, hq, hsource, hagain⟩

end Session.State
end Interpolation
