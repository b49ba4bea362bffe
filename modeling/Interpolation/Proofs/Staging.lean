import Interpolation.Proofs.Concatenation

/-!
# Rendering in stages

What a pattern renders can be compiled and rendered again.  If the first table
holds only accepted sources for the pattern's identifiers, the two stages are one:
the pattern rendered with a table in which each identifier stands for what its
text renders in the second stage.  Otherwise the second stage finds the fault of
the leftmost text that is at fault.
-/

namespace Interpolation

namespace Pattern

/-- Whatever the table has for an identifier of the pattern is an accepted source. -/
def Stageable (p : Pattern) (table : Table) : Prop :=
  ∀ i ∈ p.identifiers, ∀ v, table.lookup i = some v → ∃ q, compile v = .ok q

end Pattern

namespace Table

/-- What an identifier stands for after both stages. -/
def staged (first : Table) (m₁ : Missing) (second : Table) (m₂ : Missing) : Table where
  lookup i := some <|
    match first.lookup i with
    | some v => (Pattern.ofSource v).render second m₂
    | none => match m₁ with
      | .empty => []
      | .keep => (Pattern.ofSource ('{' :: i ++ ['}'])).render second m₂

/-- The identifiers that the first stage leaves in the place of an identifier. -/
def stagedIdentifiers (first : Table) (m₁ : Missing) (i : Text) : List Text :=
  match first.lookup i with
  | some v => (Pattern.ofSource v).identifiers
  | none => match m₁ with
    | .empty => []
    | .keep => [i]

end Table

/-! ## One symbol -/

theorem Pattern.ofSource_source {x : Symbol} (hx : x.Proper) : ofSource x.source = ⟨[x]⟩ := by
  rw [ofSource_of_compile (compile_piece hx.2), Symbol.tidy_singleton hx]

namespace Symbol

section
variable {first : Table} {m₁ : Missing}

theorem compile_contribution {x : Symbol} (hx : x.Proper)
    (h : ∀ i ∈ x.identifier?, ∀ v, first.lookup i = some v → ∃ q, Pattern.compile v = .ok q) :
    ∃ q, Pattern.compile (x.contribution first m₁) = .ok q := by
  cases x with
  | literal t => exact ⟨_, Pattern.compile_piece hx.2⟩
  | substitution i =>
    cases hv : first.lookup i with
    | some v =>
      rw [contribution, hv]
      exact h i rfl v hv
    | none =>
      rw [contribution, hv]
      cases m₁ with
      | empty => exact ⟨.empty, rfl⟩
      | keep => exact ⟨_, Pattern.compile_piece hx.2⟩

theorem render_contribution {x : Symbol} (hx : x.Proper) (second : Table) (m₂ : Missing) :
    (Pattern.ofSource (x.contribution first m₁)).render second m₂ =
      x.contribution (first.staged m₁ second m₂) .empty := by
  cases x with
  | literal t =>
    have hsource : Pattern.ofSource t = ⟨[literal t]⟩ := Pattern.ofSource_source hx
    rw [contribution, hsource, Pattern.render_eq]
    exact List.append_nil t
  | substitution i =>
    cases hv : first.lookup i with
    | some v => simp only [contribution, Table.staged, hv, Option.getD_some]
    | none =>
      simp only [contribution, Table.staged, hv, Option.getD_some, Option.getD_none]
      cases m₁ <;> rfl

theorem identifiers_contribution {x : Symbol} (hx : x.Proper) :
    (Pattern.ofSource (x.contribution first m₁)).identifiers =
      x.identifier?.toList.flatMap (first.stagedIdentifiers m₁) := by
  cases x with
  | literal t =>
    have hsource : Pattern.ofSource t = ⟨[literal t]⟩ := Pattern.ofSource_source hx
    rw [contribution, hsource]
    rfl
  | substitution i =>
    show _ = first.stagedIdentifiers m₁ i ++ []
    rw [List.append_nil]
    cases hv : first.lookup i with
    | some v => simp only [contribution, Table.stagedIdentifiers, hv, Option.getD_some]
    | none =>
      simp only [contribution, Table.stagedIdentifiers, hv, Option.getD_none]
      cases m₁ with
      | empty => rfl
      | keep =>
        show (Pattern.ofSource (substitution i).source).identifiers = [i]
        rw [Pattern.ofSource_source hx]
        rfl

end
end Symbol

/-! ## Patterns -/

namespace Pattern

theorem compile_render_of_stageable {p : Pattern} (hp : ∀ x ∈ p.symbols, x.Proper)
    {first : Table} (h : p.Stageable first) (m₁ : Missing) :
    ∃ out, compile (p.render first m₁) = .ok out ∧
      (∀ second m₂,
        out.render second m₂ = p.render (first.staged m₁ second m₂) .empty) ∧
      out.identifiers = p.identifiers.flatMap (first.stagedIdentifiers m₁) := by
  have haccepted : ∀ x ∈ p.symbols, ∃ q, compile (x.contribution first m₁) = .ok q := by
    intro x hx
    refine Symbol.compile_contribution (hp x hx) fun i hi v hv => ?_
    exact h i (mem_identifiers hx hi) v hv
  obtain ⟨out, hout, hrender, hidentifiers⟩ := compile_flatMap haccepted
  refine ⟨out, ?_, fun second m₂ => ?_, ?_⟩
  · rw [render_eq]
    exact hout
  · rw [hrender, render_eq]
    exact List.flatMap_congr fun x hx => Symbol.render_contribution (hp x hx) second m₂
  · rw [hidentifiers, identifiers_eq_flatMap, List.flatMap_assoc]
    exact List.flatMap_congr fun x hx => Symbol.identifiers_contribution (hp x hx)

/-- The rendering around one substitution. -/
theorem render_split {p : Pattern} {before after : List Symbol} {i v : Text} {table : Table}
    (hp : p.symbols = before ++ .substitution i :: after) (hv : table.lookup i = some v)
    (missing : Missing) :
    p.render table missing =
      (⟨before⟩ : Pattern).render table missing ++ v ++ (⟨after⟩ : Pattern).render table missing := by
  simp only [render_eq, hp, List.flatMap_append, List.flatMap_cons, Symbol.contribution, hv,
    Option.getD_some, List.append_assoc]

/-- Rendering in two stages is rendering once with the staged table, and the
identifiers are those that the first stage leaves.  If the leftmost text at fault
has a brace out of place, so has the output of the first stage, as many characters
further on as stand before that text. -/
theorem compile_render_staged {s : Text} {p : Pattern} (hp : compile s = .ok p)
    (first second : Table) (m₁ m₂ : Missing) :
    (p.Stageable first →
      ∃ out, compile (p.render first m₁) = .ok out ∧
        out.render second m₂ = p.render (first.staged m₁ second m₂) .empty ∧
        out.identifiers = p.identifiers.flatMap (first.stagedIdentifiers m₁)) ∧
    (∀ before i after v e, p.symbols = before ++ .substitution i :: after →
      (⟨before⟩ : Pattern).Stageable first →
      first.lookup i = some v → compile v = .error e → e.fault ≠ .unclosedOpening →
        p.render first m₁ = (⟨before⟩ : Pattern).render first m₁ ++ v ++
          (⟨after⟩ : Pattern).render first m₁ ∧
        compile (p.render first m₁) =
          .error ⟨e.fault, ((⟨before⟩ : Pattern).render first m₁).length + e.position⟩) := by
  have hproper := proper_of_compile hp
  constructor
  · intro h
    obtain ⟨out, hout, hrender, hidentifiers⟩ := compile_render_of_stageable hproper h m₁
    exact ⟨out, hout, hrender second m₂, hidentifiers⟩
  · intro before i after v e hsymbols hbefore hv herror hfault
    have hhead : ∀ x ∈ before, x.Proper := fun x hx =>
      hproper x (hsymbols ▸ List.mem_append_left _ hx)
    obtain ⟨q, hq, -⟩ := compile_render_of_stageable (p := ⟨before⟩) hhead hbefore m₁
    have hsplit := render_split hsymbols hv m₁
    refine ⟨hsplit, ?_⟩
    rw [hsplit, List.append_assoc]
    exact compile_append_error hq (compile_error_append herror hfault _)

/-- A value that ends in a literal joins the text after it, an absent identifier is
left for the second stage, and a fault in the second value moves behind the first. -/
theorem compile_render_staged_two_values :
    let source := "{x}-{y}{z}".toList
    let p : Pattern := ⟨[.substitution ['x'], .literal ['-'], .substitution ['y'],
      .substitution ['z']]⟩
    let sound : Table := ⟨fun i =>
      if i = ['x'] then some "{b}a".toList else if i = ['y'] then some ['c'] else none⟩
    let faulty : Table := ⟨fun i =>
      if i = ['x'] then some "{b}a".toList else if i = ['y'] then some ['{', 'c', '{'] else none⟩
    let second : Table := ⟨fun i => if i = ['b'] then some ['1'] else none⟩
    compile source = .ok p ∧ p.Stageable sound ∧
      (∃ out, compile (p.render sound .keep) = .ok out ∧
        out.render second .keep = "1a-c{z}".toList ∧ out.identifiers = [['b'], ['z']]) ∧
      compile (p.render faulty .keep) = .error ⟨.nestedOpening, 7⟩ := by
  intro source p sound faulty second
  have hp : compile source = .ok p := rfl
  have hx : ∀ v, some "{b}a".toList = some v → ∃ q, compile v = .ok q := by
    rintro v ⟨⟩
    exact ⟨_, rfl⟩
  have hsound : p.Stageable sound := by
    have hids : p.identifiers = [['x'], ['y'], ['z']] := rfl
    intro i hi v hv
    rw [hids] at hi
    rcases List.mem_cons.mp hi with rfl | hi
    · exact hx v hv
    · rcases List.mem_cons.mp hi with rfl | hi
      · cases (show some ['c'] = some v from hv)
        exact ⟨_, rfl⟩
      · rw [List.mem_singleton.mp hi] at hv
        cases (show none = some v from hv)
  have hbefore : (⟨[.substitution ['x'], .literal ['-']]⟩ : Pattern).Stageable faulty := by
    intro i hi v hv
    rw [List.mem_singleton.mp hi] at hv
    exact hx v hv
  obtain ⟨out, hout, hrender, hids⟩ :=
    (compile_render_staged hp sound second .keep .keep).1 hsound
  obtain ⟨-, herror⟩ :=
    (compile_render_staged hp faulty second .keep .keep).2 [.substitution ['x'], .literal ['-']]
      ['y'] [.substitution ['z']] ['{', 'c', '{'] ⟨.nestedOpening, 2⟩ rfl hbefore rfl rfl (by decide)
  exact ⟨hp, hsound, ⟨out, hout, hrender, hids⟩, herror⟩

end Pattern
end Interpolation
