import Interpolation.Proofs.Grammar

/-!
# Rounds

An accepted source goes in rounds: a text, then a placeholder.  A last text ends
it.  Texts and contents may be empty and then leave no symbol, but a round always
has both, so two texts never meet and each symbol is found by itself.  What holds
of all accepted sources is proved by induction on their rounds.
-/

namespace Interpolation

/-- A source in rounds, and its symbols. -/
inductive Rounds : Text → List Symbol → Prop
  | last {t : Text} : t.BraceFree → Rounds t (Side.outside.symbols t)
  | round {t c s : Text} {symbols : List Symbol} : t.BraceFree → c.BraceFree → Rounds s symbols →
      Rounds (t ++ '{' :: c ++ '}' :: s)
        (Side.outside.symbols t ++ (Side.inside.symbols c ++ symbols))

namespace Rounds

theorem of_pieces {pieces : List Symbol} (h : ∀ x ∈ pieces, x.text.BraceFree) {t : Text}
    (ht : t.BraceFree) :
    Rounds (t ++ pieces.flatMap Symbol.source) (Symbol.tidy (.literal t :: pieces)) := by
  -- Literals in a row are one text, which `t` gathers until the next placeholder.
  induction pieces generalizing t with
  | nil =>
    rw [List.flatMap_nil, List.append_nil, Symbol.tidy_literal]
    exact last ht
  | cons x rest ih =>
    have hx := h x List.mem_cons_self
    have hrest : ∀ y ∈ rest, y.text.BraceFree := fun y hy => h y (List.mem_cons_of_mem _ hy)
    cases x with
    | literal u =>
      have hu : u.BraceFree := hx
      rw [List.flatMap_cons, ← List.append_assoc, Symbol.tidy_literal_literal]
      exact ih hrest (ht.append hu)
    | substitution c =>
      have hround := round ht hx (ih hrest .nil)
      rw [Symbol.tidy_literal_nil, List.nil_append, List.append_assoc] at hround
      rw [List.flatMap_cons, Symbol.source_substitution_append, Symbol.tidy_literal_substitution]
      exact hround

theorem of_compile {s : Text} {p : Pattern} (h : Pattern.compile s = .ok p) :
    Rounds s p.symbols := by
  obtain ⟨pieces, hpieces, rfl, rfl⟩ := Pattern.exists_pieces h
  have hrounds := of_pieces hpieces .nil
  rw [Symbol.tidy_literal_nil] at hrounds
  exact hrounds

theorem compile {s : Text} {symbols : List Symbol} (h : Rounds s symbols) :
    Pattern.compile s = .ok ⟨symbols⟩ := by
  induction h with
  | @last t ht =>
    rw [← Symbol.tidy_literal]
    exact Pattern.compile_piece (x := .literal t) ht
  | @round t c s symbols ht hc _ ih =>
    obtain ⟨pieces, hpieces, rfl, hsymbols⟩ := Pattern.exists_pieces ih
    have hall : ∀ x ∈ Symbol.literal t :: .substitution c :: pieces, x.text.BraceFree := by
      rintro x (_ | ⟨_, _ | ⟨_, hx⟩⟩)
      · exact ht
      · exact hc
      · exact hpieces x hx
    have hcompile := Pattern.compile_pieces hall
    rw [List.flatMap_cons, List.flatMap_cons, Symbol.source_substitution_append,
      Symbol.tidy_literal_substitution, ← Pattern.mk.inj hsymbols] at hcompile
    rw [List.append_assoc]
    exact hcompile

/-- The first text of a source.  More text in front of the source only makes that
one longer. -/
theorem first_text {s : Text} {symbols : List Symbol} (h : Rounds s symbols) :
    ∃ t rest others, s = t ++ rest ∧ t.BraceFree ∧ (∀ c ∈ rest.head?, c = '{') ∧
      symbols = Side.outside.symbols t ++ others ∧
      ∀ u : Text, u.BraceFree → Rounds (u ++ s) (Side.outside.symbols (u ++ t) ++ others) := by
  cases h with
  | last hs =>
    refine ⟨s, [], [], (List.append_nil s).symm, hs, fun _ hc => absurd hc (by simp),
      (List.append_nil _).symm, fun u hu => ?_⟩
    rw [List.append_nil]
    exact last (hu.append hs)
  | @round t c s symbols ht hc hs =>
    refine ⟨t, '{' :: c ++ '}' :: s, Side.inside.symbols c ++ symbols, List.append_assoc _ _ _, ht,
      fun d hd => ?_, rfl, fun u hu => ?_⟩
    · exact (Option.some.inj hd).symm
    · rw [← List.append_assoc, ← List.append_assoc]
      exact round (hu.append ht) hc hs

end Rounds
end Interpolation
