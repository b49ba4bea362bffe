import Interpolation.Proofs.Canonical
import Mathlib.Tactic.TFAE

/-!
# What rendering shows of a pattern

A table can make each identifier stand for its own placeholder, and then the
rendering is the canonical source.  So a pattern shows all of its canonical source
when it is rendered, and nothing more: patterns with the same canonical source
differ only in literals that an empty placeholder kept apart.
-/

namespace Interpolation

/-- Each identifier stands for its own placeholder. -/
def Table.mirror : Table where
  lookup i := some (Symbol.substitution i).source

theorem Symbol.contribution_mirror (missing : Missing) (x : Symbol) :
    x.contribution .mirror missing = x.source := by
  cases x <;> rfl

theorem Symbol.Proper.source_ne_nil {x : Symbol} (hx : x.Proper) : x.source ≠ [] := by
  cases x with
  | literal t => exact hx.1
  | substitution i => exact List.cons_ne_nil _ _

namespace Pattern

theorem render_mirror (p : Pattern) (missing : Missing) :
    p.render .mirror missing = p.source := by
  rw [render_eq, source]
  exact List.flatMap_congr fun x _ => Symbol.contribution_mirror missing x

theorem render_eq_of_recompile_eq {p q r : Pattern} (hp : ∀ x ∈ p.symbols, x.Proper)
    (hq : ∀ x ∈ q.symbols, x.Proper) (hpr : p.recompile = .ok r) (hqr : q.recompile = .ok r)
    (table : Table) (missing : Missing) : p.render table missing = q.render table missing := by
  obtain rfl : p.joined = r := Except.ok.inj ((recompile_of_proper hp).symm.trans hpr)
  have hjoined : q.joined = p.joined := Except.ok.inj ((recompile_of_proper hq).symm.trans hqr)
  calc p.render table missing
      = p.joined.render table missing := (render_joined p table missing).symm
    _ = q.joined.render table missing := by rw [hjoined]
    _ = q.render table missing := render_joined q table missing

theorem eq_of_source_eq {p q : Pattern} (hp : ∀ x ∈ p.symbols, x.Proper)
    (hq : ∀ x ∈ q.symbols, x.Proper) (hps : Symbol.Separated p.symbols)
    (hqs : Symbol.Separated q.symbols) (h : p.source = q.source) : p = q := by
  have hrecompile : p.recompile = q.recompile := by rw [recompile, recompile, h]
  rw [recompile_of_proper hp, recompile_of_proper hq, joined_of_separated hps,
    joined_of_separated hqs] at hrecompile
  exact Except.ok.inj hrecompile

theorem isEmpty_of_source_eq_nil {p : Pattern} (hp : ∀ x ∈ p.symbols, x.Proper)
    (h : p.source = []) : p.isEmpty = true := by
  rw [isEmpty, List.isEmpty_iff]
  refine List.eq_nil_iff_forall_not_mem.mpr fun x hx => ?_
  exact (hp x hx).source_ne_nil (List.flatMap_eq_nil_iff.mp h x hx)

/-- For two compiled sources it is the same to render alike under every table, with
absent identifiers kept or not, to do so where nothing stands for absent ones, to
have one canonical source, and to become one pattern by compiling it.  Where no two
literals meet, it is the same as being equal.  Only the empty pattern never renders
anything. -/
theorem tfae_render_source_recompile {s t : Text} {p q : Pattern} (hp : compile s = .ok p)
    (hq : compile t = .ok q) :
    List.TFAE [
      ∀ table missing, p.render table missing = q.render table missing,
      ∀ table, p.render table .empty = q.render table .empty,
      p.source = q.source,
      ∃ r, p.recompile = .ok r ∧ q.recompile = .ok r] ∧
    (Symbol.Separated p.symbols → Symbol.Separated q.symbols → (p.source = q.source ↔ p = q)) ∧
    ((∀ table missing, p.render table missing = []) ↔ p.isEmpty = true) := by
  have hpp := proper_of_compile hp
  have hqp := proper_of_compile hq
  refine ⟨?_, fun hps hqs => ⟨eq_of_source_eq hpp hqp hps hqs, fun h => by rw [h]⟩, ?_, ?_⟩
  · tfae_have 1 → 2 := fun h table => h table .empty
    tfae_have 2 → 3 := by
      intro h
      rw [← render_mirror p .empty, ← render_mirror q .empty]
      exact h .mirror
    tfae_have 3 → 4 := by
      intro h
      refine ⟨p.joined, recompile_of_proper hpp, ?_⟩
      rw [recompile, ← h]
      exact recompile_of_proper hpp
    tfae_have 4 → 1 := by
      rintro ⟨r, hpr, hqr⟩ table missing
      exact render_eq_of_recompile_eq hpp hqp hpr hqr table missing
    tfae_finish
  · intro h
    refine isEmpty_of_source_eq_nil hpp ?_
    rw [← render_mirror p .empty]
    exact h .mirror .empty
  · intro h table missing
    rw [isEmpty, List.isEmpty_iff] at h
    rw [render_eq, h, List.flatMap_nil]

/-- An empty placeholder between literals cannot be seen in a rendering, while a
placeholder before a literal and one after it can. -/
theorem tfae_render_source_recompile_empty_placeholder :
    let p : Pattern := ⟨[.literal ['a'], .literal ['b'], .substitution ['x']]⟩
    let q : Pattern := ⟨[.literal ['a', 'b'], .substitution ['x']]⟩
    let r : Pattern := ⟨[.substitution ['x'], .literal ['a', 'b']]⟩
    compile "a{}b{x}".toList = .ok p ∧ compile "ab{x}".toList = .ok q ∧
      compile "{x}{}ab".toList = .ok r ∧ p ≠ q ∧
      (∀ table missing, p.render table missing = q.render table missing) ∧
      Symbol.Separated q.symbols ∧ Symbol.Separated r.symbols ∧
      (¬ ∀ table, q.render table .empty = r.render table .empty) ∧
      ¬ ∀ table missing, q.render table missing = [] := by
  intro p q r
  have hp : compile "a{}b{x}".toList = .ok p := rfl
  have hq : compile "ab{x}".toList = .ok q := rfl
  have hr : compile "{x}{}ab".toList = .ok r := rfl
  obtain ⟨hpq, -, -⟩ := tfae_render_source_recompile hp hq
  obtain ⟨hqr, hseparated, hempty⟩ := tfae_render_source_recompile hq hr
  have hqs : Symbol.Separated q.symbols := by
    show List.IsChain _ _
    decide
  have hrs : Symbol.Separated r.symbols := by
    show List.IsChain _ _
    decide
  refine ⟨hp, hq, hr, by decide, (hpq.out 2 0).mp rfl, hqs, hrs, fun h => ?_, fun h => ?_⟩
  · exact absurd ((hseparated hqs hrs).mp ((hqr.out 1 2).mp h)) (by decide)
  · exact absurd (hempty.mp h) (by decide)

end Pattern
end Interpolation
