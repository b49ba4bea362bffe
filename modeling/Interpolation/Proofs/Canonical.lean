import Interpolation.Proofs.Grammar
import Interpolation.Proofs.Rendering

/-!
# Canonical sources

The canonical source of a compiled source is that source without its empty
placeholders.  Compiling it joins the literals that those kept apart, which
cannot be seen in a rendering, and from then on nothing changes.  Symbols that come
from elsewhere may have any text; only some rows of them come back.
-/

namespace Interpolation

namespace Text

/-- The text without every `{}`. -/
def dropEmpty : Text → Text
  | '{' :: '}' :: s => dropEmpty s
  | c :: s => c :: dropEmpty s
  | [] => []

theorem dropEmpty_cons {c : Char} {s : Text} (h : ∀ r, c = '{' → s ≠ '}' :: r) :
    dropEmpty (c :: s) = c :: dropEmpty s :=
  dropEmpty.eq_2 c s h

theorem dropEmpty_braceFree {t : Text} (ht : t.BraceFree) (s : Text) :
    dropEmpty (t ++ s) = t ++ dropEmpty s := by
  induction t with
  | nil => rfl
  | cons c t ih =>
    obtain ⟨ho, -, htail⟩ := ht.of_cons
    rw [List.cons_append, dropEmpty_cons fun _ h => absurd h ho, ih htail, List.cons_append]

theorem dropEmpty_placeholder {c : Text} (hc : c.BraceFree) (h : c ≠ []) (s : Text) :
    dropEmpty ('{' :: c ++ '}' :: s) = '{' :: c ++ '}' :: dropEmpty s := by
  have hopen : ∀ r, c ++ '}' :: s ≠ '}' :: r := by
    cases c with
    | nil => exact absurd rfl h
    | cons d c => exact fun r hr => hc.of_cons.2.1 (List.cons.inj hr).1
  have hclose : dropEmpty ('}' :: s) = '}' :: dropEmpty s :=
    dropEmpty_cons fun _ hbrace => absurd hbrace (by decide)
  rw [List.cons_append, dropEmpty_cons fun r _ => hopen r, dropEmpty_braceFree hc, hclose,
    List.cons_append]

theorem dropEmpty_pieces {pieces : List Symbol} (h : ∀ x ∈ pieces, x.text.BraceFree) :
    dropEmpty (pieces.flatMap Symbol.source) =
      pieces.flatMap (Symbol.skipBlank Symbol.source) := by
  refine Symbol.flatMap_source rfl (fun x s hx => ?_) h
  cases x with
  | literal t =>
    have hskip : Symbol.skipBlank Symbol.source (.literal t) = t := by cases t <;> rfl
    rw [hskip]
    exact dropEmpty_braceFree hx s
  | substitution c =>
    rw [Symbol.source_substitution_append]
    by_cases hne : c = []
    · subst hne
      rfl
    · have hc : c.BraceFree := hx
      have hskip : Symbol.skipBlank Symbol.source (.substitution c) = '{' :: c ++ ['}'] :=
        if_neg hne
      rw [dropEmpty_placeholder hc hne, hskip, List.append_assoc, List.singleton_append]

theorem length_dropEmpty_le (s : Text) : (dropEmpty s).length ≤ s.length := by
  fun_induction dropEmpty s with
  | case1 s ih =>
    simp only [List.length_cons]
    omega
  | case2 c s _ ih =>
    simp only [List.length_cons]
    omega
  | case3 => exact Nat.le_refl 0

theorem dropEmpty_eq_self_iff (s : Text) : dropEmpty s = s ↔ ¬ ['{', '}'] <:+: s := by
  fun_induction dropEmpty s with
  | case1 s ih =>
    have hlength := length_dropEmpty_le s
    refine iff_of_false (fun h => ?_) fun h => h ⟨[], s, rfl⟩
    have := congrArg List.length h
    simp only [List.length_cons] at this
    omega
  | case2 c s hne ih =>
    have hprefix : ¬ ['{', '}'] <+: c :: s := by
      rintro ⟨r, hr⟩
      obtain ⟨rfl, rfl⟩ := List.cons.inj hr
      exact hne r rfl rfl
    rw [List.infix_cons_iff, or_iff_right hprefix, ← ih]
    exact ⟨fun h => (List.cons.inj h).2, fun h => congrArg (c :: ·) h⟩
  | case3 => decide

end Text

namespace Pattern

/-! ## Joined patterns -/

/-- The pattern with its neighbouring literals joined. -/
def joined (p : Pattern) : Pattern := ⟨Symbol.join p.symbols⟩

theorem source_joined (p : Pattern) : p.joined.source = p.source :=
  Symbol.source_join p.symbols

theorem identifiers_joined (p : Pattern) : p.joined.identifiers = p.identifiers :=
  Symbol.identifiers_join p.symbols

theorem render_joined (p : Pattern) (table : Table) (missing : Missing) :
    p.joined.render table missing = p.render table missing := by
  rw [render_eq, render_eq]
  exact Symbol.flatMap_join (Symbol.additive_contribution table missing) p.symbols

theorem joined_of_separated {p : Pattern} (h : Symbol.Separated p.symbols) : p.joined = p := by
  rw [joined, Symbol.join_of_separated h]

theorem joined_eq_self_iff {p : Pattern} : p.joined = p ↔ Symbol.Separated p.symbols := by
  constructor
  · intro h
    have hsymbols : Symbol.join p.symbols = p.symbols := congrArg symbols h
    rw [← hsymbols]
    exact Symbol.separated_join p.symbols
  · exact joined_of_separated

theorem recompile_of_proper {p : Pattern} (h : ∀ x ∈ p.symbols, x.Proper) :
    p.recompile = .ok p.joined := by
  show compile (p.symbols.flatMap Symbol.source) = _
  rw [compile_pieces fun x hx => (h x hx).2, Symbol.tidy_of_proper h, joined]

theorem recompile_joined {p : Pattern} (h : ∀ x ∈ p.symbols, x.Proper) :
    p.joined.recompile = .ok p.joined := by
  rw [recompile, source_joined]
  exact recompile_of_proper h

/-- A row of any symbols is what compiling its source gives exactly if no text in it
is empty or holds a brace and no two literals are neighbours.  Braces of neighbouring
symbols may fit together by accident, but then another row comes out. -/
theorem compile_source_eq_self_iff (symbols : List Symbol) :
    compile (symbols.flatMap Symbol.source) = .ok ⟨symbols⟩ ↔
      (∀ x ∈ symbols, x.text ≠ [] ∧ x.text.BraceFree) ∧ Symbol.Separated symbols := by
  constructor
  · intro h
    -- Whatever the source is, compiling it gives proper symbols only.
    have hproper : ∀ x ∈ symbols, x.Proper := proper_of_compile h
    have hjoined : joined ⟨symbols⟩ = ⟨symbols⟩ :=
      Except.ok.inj ((recompile_of_proper (p := ⟨symbols⟩) hproper).symm.trans h)
    exact ⟨hproper, joined_eq_self_iff.mp hjoined⟩
  · rintro ⟨hproper, hseparated⟩
    have hrecompile := recompile_of_proper (p := ⟨symbols⟩) hproper
    rw [joined_of_separated hseparated] at hrecompile
    exact hrecompile

example : compile ([.literal ['a', '{'], .literal ['b', '}']].flatMap Symbol.source) =
    .ok ⟨[.literal ['a'], .substitution ['b']]⟩ := rfl

/-! ## The canonical source of a compiled source -/

theorem source_of_compile {s : Text} {p : Pattern} (hp : compile s = .ok p) :
    p.source = s.dropEmpty := by
  obtain ⟨pieces, hpieces, rfl, rfl⟩ := exists_pieces hp
  rw [source, Symbol.flatMap_tidy Symbol.additive_source, Text.dropEmpty_pieces hpieces]

/-- The canonical source is the source without its empty placeholders, so it is
the source itself if there are none.  It compiles to the symbols with neighbouring
literals joined.  That pattern differs in nothing that can be seen of it without
its symbols, and compiling its own canonical source gives it back. -/
theorem recompile_of_compile {s : Text} {p : Pattern} (hp : compile s = .ok p) :
    p.source = s.dropEmpty ∧ (p.source = s ↔ ¬ ['{', '}'] <:+: s) ∧
      ∃ q : Pattern, p.recompile = .ok q ∧
        q.symbols = Symbol.join p.symbols ∧ Symbol.Separated q.symbols ∧
        q.source = p.source ∧ q.identifiers = p.identifiers ∧
        (∀ table missing, q.render table missing = p.render table missing) ∧
        q.recompile = .ok q := by
  have hproper := proper_of_compile hp
  have hsource := source_of_compile hp
  refine ⟨hsource, ?_, p.joined, recompile_of_proper hproper, rfl, ?_, source_joined p,
    identifiers_joined p, render_joined p, recompile_joined hproper⟩
  · rw [hsource]
    exact Text.dropEmpty_eq_self_iff s
  · exact Symbol.separated_join p.symbols

/-- Two empty placeholders and a substitution between four texts. -/
theorem recompile_of_compile_two_empty :
    ∃ p q : Pattern, compile "a{}b{x}{}c{}d".toList = .ok p ∧ p.source = "ab{x}cd".toList ∧
      p.source ≠ "a{}b{x}{}c{}d".toList ∧ p.recompile = .ok q ∧
      q.symbols = [.literal ['a', 'b'], .substitution ['x'], .literal ['c', 'd']] ∧
      q.recompile = .ok q := by
  have hp : compile "a{}b{x}{}c{}d".toList =
      .ok ⟨[.literal ['a'], .literal ['b'], .substitution ['x'], .literal ['c'],
        .literal ['d']]⟩ := rfl
  obtain ⟨hsource, hsame, q, hq, hsymbols, -, -, -, -, hagain⟩ := recompile_of_compile hp
  exact ⟨_, q, hp, hsource, fun h => hsame.mp h ⟨['a'], "b{x}{}c{}d".toList, rfl⟩, hq, hsymbols,
    hagain⟩

end Pattern
end Interpolation
