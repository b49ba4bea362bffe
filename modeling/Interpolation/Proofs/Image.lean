import Interpolation.Proofs.Rounds

/-!
# The symbols that sources have

Exactly the rows of proper symbols come from a source.  `exactSource` writes one
that compiles to a given row: the symbols as they stand, with an empty placeholder
wherever two literals would become one.  No source does with less, since each
substitution needs its two braces, and so do two literals that meet.
-/

namespace Interpolation

namespace Symbol

/-- The symbols in order, with an empty placeholder between literals that meet. -/
def exactSource : List Symbol → Text
  | [] => []
  | literal t :: literal u :: rest => t ++ '{' :: '}' :: exactSource (literal u :: rest)
  | x :: rest => x.source ++ exactSource rest

theorem exactSource_substitution (i : Text) (rest : List Symbol) :
    exactSource (substitution i :: rest) = '{' :: i ++ '}' :: exactSource rest := by
  rw [exactSource, source_substitution_append]
  exact fun _ _ _ h => nomatch h

/-- Whether the first symbol is a literal, which would take in a text before it. -/
def startsLiteral (symbols : List Symbol) : Bool := symbols.head?.any isLiteral

theorem exactSource_literal (t : Text) (rest : List Symbol) :
    exactSource (literal t :: rest) =
      t ++ ((if startsLiteral rest then ['{', '}'] else []) ++ exactSource rest) := by
  match rest with
  | [] | literal _ :: _ | substitution _ :: _ => rfl

theorem length_exactSource_literal_le (t : Text) (rest : List Symbol) :
    (exactSource (literal t :: rest)).length ≤ t.length + 2 + (exactSource rest).length := by
  rw [exactSource_literal, List.length_append, List.length_append]
  cases startsLiteral rest with
  | true => exact (Nat.add_assoc _ _ _).ge
  | false =>
    show t.length + (0 + (exactSource rest).length) ≤ _
    omega

theorem length_exactSource_round_le (t c : Text) (rest : List Symbol) :
    (exactSource (Side.outside.symbols t ++ (Side.inside.symbols c ++ rest))).length ≤
      t.length + (c.length + 2) + (exactSource rest).length := by
  cases c with
  | nil =>
    -- The placeholder leaves no symbol, so its braces can pay for one that keeps
    -- the text apart from a literal behind it.
    cases t with
    | nil => exact Nat.le_add_left _ _
    | cons d t => exact length_exactSource_literal_le (d :: t) rest
  | cons d c =>
    have hplaceholder : (exactSource (substitution (d :: c) :: rest)).length =
        (d :: c).length + 2 + (exactSource rest).length := by
      simp only [exactSource_substitution, List.length_append, List.length_cons]
      omega
    cases t with
    | nil =>
      rw [List.length_nil, Nat.zero_add, ← hplaceholder]
      exact Nat.le_refl _
    | cons e t =>
      show ((e :: t) ++ exactSource (substitution (d :: c) :: rest)).length ≤ _
      rw [List.length_append, hplaceholder]
      omega

end Symbol

namespace Rounds

theorem literal {t : Text} (ht : (Symbol.literal t).Proper) {s : Text} {symbols : List Symbol}
    (h : Rounds s symbols) (hhead : ∀ x ∈ symbols.head?, x.isLiteral = false) :
    Rounds (t ++ s) (.literal t :: symbols) := by
  obtain ⟨u, rest, others, -, -, -, rfl, hfront⟩ := h.first_text
  cases u with
  | nil =>
    have hrounds := hfront t ht.2
    obtain ⟨c, t, rfl⟩ := List.exists_cons_of_ne_nil ht.1
    rw [List.append_nil] at hrounds
    exact hrounds
  | cons c u => exact absurd (hhead (.literal (c :: u)) rfl) Bool.noConfusion

theorem literal_apart {t : Text} (ht : (Symbol.literal t).Proper) {s : Text}
    {symbols : List Symbol} (h : Rounds s symbols) :
    Rounds (t ++ '{' :: '}' :: s) (.literal t :: symbols) := by
  have hround := round ht.2 (c := []) .nil h
  obtain ⟨c, t, rfl⟩ := List.exists_cons_of_ne_nil ht.1
  rw [List.append_assoc] at hround
  exact hround

theorem substitution {i : Text} (hi : (Symbol.substitution i).Proper) {s : Text}
    {symbols : List Symbol} (h : Rounds s symbols) :
    Rounds ('{' :: i ++ '}' :: s) (.substitution i :: symbols) := by
  have hround := round (t := []) .nil hi.2 h
  obtain ⟨c, i, rfl⟩ := List.exists_cons_of_ne_nil hi.1
  exact hround

theorem exactSource {symbols : List Symbol} (h : ∀ x ∈ symbols, x.Proper) :
    Rounds (Symbol.exactSource symbols) symbols := by
  fun_induction Symbol.exactSource symbols with
  | case1 => exact last .nil
  | case2 t u rest ih =>
    obtain ⟨ht, hrest⟩ := List.forall_mem_cons.mp h
    exact literal_apart ht (ih hrest)
  | case3 x rest hapart ih =>
    obtain ⟨hx, hrest⟩ := List.forall_mem_cons.mp h
    cases x with
    | literal t =>
      refine literal hx (ih hrest) fun y hy => ?_
      cases y with
      | literal u =>
        obtain ⟨after, rfl⟩ := List.head?_eq_some_iff.mp hy
        exact absurd rfl (hapart t u after rfl)
      | substitution i => rfl
    | substitution i =>
      rw [Symbol.source_substitution_append]
      exact substitution hx (ih hrest)

theorem length_exactSource_le {s : Text} {symbols : List Symbol} (h : Rounds s symbols) :
    (Symbol.exactSource symbols).length ≤ s.length := by
  induction h with
  | @last t _ =>
    cases t with
    | nil => exact Nat.le_refl 0
    | cons c t =>
      show ((c :: t) ++ []).length ≤ _
      rw [List.append_nil]
  | @round t c s symbols _ _ _ ih =>
    have hround := Symbol.length_exactSource_round_le t c symbols
    rw [List.length_append, List.length_append, List.length_cons, List.length_cons]
    omega

end Rounds

namespace Pattern

/-- A row of symbols comes from some source exactly if all its symbols are proper.
Then its exact source compiles to it, and no source that does so is shorter. -/
theorem exists_compile_iff_proper (symbols : List Symbol) :
    ((∃ s, compile s = .ok ⟨symbols⟩) ↔ ∀ x ∈ symbols, x.Proper) ∧
      ((∀ x ∈ symbols, x.Proper) →
        compile (Symbol.exactSource symbols) = .ok ⟨symbols⟩ ∧
          ∀ s, compile s = .ok ⟨symbols⟩ → (Symbol.exactSource symbols).length ≤ s.length) := by
  have hexact : (∀ x ∈ symbols, x.Proper) →
      compile (Symbol.exactSource symbols) = .ok ⟨symbols⟩ := fun h => (Rounds.exactSource h).compile
  refine ⟨⟨?_, fun h => ⟨_, hexact h⟩⟩, fun h => ⟨hexact h, fun s hs => ?_⟩⟩
  · rintro ⟨s, hs⟩
    exact proper_of_compile hs
  · exact (Rounds.of_compile hs).length_exactSource_le

/-- Three literals that meet, and a substitution between two literals. -/
theorem exists_compile_iff_proper_literals :
    let symbols : List Symbol := [.literal ['a'], .literal ['b'], .literal ['c'],
      .substitution ['x'], .literal ['d']]
    (∀ x ∈ symbols, x.Proper) ∧ Symbol.exactSource symbols = "a{}b{}c{x}d".toList ∧
      compile "a{}b{}c{x}d".toList = .ok ⟨symbols⟩ ∧
      compile "{}a{}b{}{}c{x}{}d".toList = .ok ⟨symbols⟩ ∧
      "a{}b{}c{x}d".toList.length ≤ "{}a{}b{}{}c{x}{}d".toList.length := by
  intro symbols
  have hproper : ∀ x ∈ symbols, x.Proper := by decide
  obtain ⟨-, h⟩ := exists_compile_iff_proper symbols
  obtain ⟨hexact, hshortest⟩ := h hproper
  exact ⟨hproper, rfl, hexact, rfl, hshortest _ rfl⟩

end Pattern
end Interpolation
