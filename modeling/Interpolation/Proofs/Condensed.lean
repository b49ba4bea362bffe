import Interpolation.Proofs.Image
import Interpolation.Proofs.Segments

/-!
# Condensed sources

Empty placeholders leave no symbol, and only where one stands between two texts does
it keep them apart; a second one in the same place does nothing.  A condensed source
has one there and none elsewhere.  Condensing keeps the pattern, and two sources have
the same pattern exactly if they are the same when condensed.
-/

namespace Interpolation

namespace Text

/-- Whether a character is there and is no brace. -/
def isContent (c : Option Char) : Bool := c.any (!isBrace ·)

/-- The text behind the run of empty placeholders that it starts with. -/
def dropRun : Text → Text
  | '{' :: '}' :: s => dropRun s
  | s => s

theorem length_dropRun_le (s : Text) : (dropRun s).length ≤ s.length := by
  fun_induction dropRun s with
  | case1 s ih =>
    rw [List.length_cons, List.length_cons]
    omega
  | case2 s => exact Nat.le_refl _

/-- Each whole run of empty placeholders becomes one of them if the characters before
and behind the run are content, and nothing otherwise. -/
def condenseAfter (before : Option Char) : Text → Text
  | [] => []
  | '{' :: '}' :: s =>
    (if isContent before && isContent (dropRun s).head? then ['{', '}'] else []) ++
      condenseAfter before (dropRun s)
  | c :: s => c :: condenseAfter (some c) s
termination_by s => s.length
decreasing_by
  · have h := length_dropRun_le s
    simp only [List.length_cons]
    omega
  · simp

def condensed (s : Text) : Text := condenseAfter none s

/-! ## One text and one placeholder -/

variable (before : Option Char)

theorem dropRun_cons {c : Char} (hc : c ≠ '{') (s : Text) : dropRun (c :: s) = c :: s :=
  dropRun.eq_2 _ fun _ h => hc (List.cons.inj h).1

theorem dropRun_placeholder {c : Text} (hc : c.BraceFree) (hne : c ≠ []) (s : Text) :
    dropRun ('{' :: c ++ '}' :: s) = '{' :: c ++ '}' :: s := by
  obtain ⟨d, c, rfl⟩ := List.exists_cons_of_ne_nil hne
  exact dropRun.eq_2 _ fun _ h => hc.of_cons.2.1 (List.cons.inj (List.cons.inj h).2).1

theorem condenseAfter_nil : condenseAfter before [] = [] := by
  rw [condenseAfter]

theorem condenseAfter_cons {c : Char} (hc : c ≠ '{') (s : Text) :
    condenseAfter before (c :: s) = c :: condenseAfter (some c) s :=
  condenseAfter.eq_3 _ _ _ fun _ h => absurd h hc

theorem condenseAfter_opening {c : Char} (hc : c ≠ '}') (s : Text) :
    condenseAfter before ('{' :: c :: s) = '{' :: condenseAfter (some '{') (c :: s) :=
  condenseAfter.eq_3 _ _ _ fun _ _ h => hc (List.cons.inj h).1

theorem condenseAfter_braceFree {t : Text} (ht : t.BraceFree) (hne : t ≠ []) (s : Text) :
    condenseAfter before (t ++ s) = t ++ condenseAfter t.getLast? s := by
  induction t generalizing before with
  | nil => exact absurd rfl hne
  | cons c t ih =>
    obtain ⟨ho, -, htail⟩ := ht.of_cons
    rw [List.cons_append, condenseAfter_cons before ho]
    cases t with
    | nil => rfl
    | cons d t => rw [ih (some c) htail (List.cons_ne_nil d t), List.getLast?_cons_cons]; rfl

theorem condenseAfter_placeholder {c : Text} (hc : c.BraceFree) (hne : c ≠ []) (s : Text) :
    condenseAfter before ('{' :: c ++ '}' :: s) =
      '{' :: c ++ '}' :: condenseAfter (some '}') s := by
  have hcontent := condenseAfter_braceFree (some '{') hc hne ('}' :: s)
  rw [condenseAfter_cons _ (by decide)] at hcontent
  obtain ⟨d, c, rfl⟩ := List.exists_cons_of_ne_nil hne
  rw [List.cons_append, List.cons_append, condenseAfter_opening before hc.of_cons.2.1,
    ← List.cons_append, hcontent]
  rfl

end Text

/-! ## Whole sources -/

open Text (dropRun isContent condenseAfter)

/-- A source is condensed to the exact source of its symbols, behind a run of empty
placeholders and behind a brace, where a run at its front must go. -/
structure Condenses (s : Text) (symbols : List Symbol) : Prop where
  head : isContent (dropRun s).head? = Symbol.startsLiteral symbols
  behind_run : ∀ before, condenseAfter before (dropRun s) = Symbol.exactSource symbols
  behind_brace : ∀ before, isContent before = false →
    condenseAfter before s = Symbol.exactSource symbols

namespace Condenses

theorem nil : Condenses [] [] :=
  ⟨rfl, Text.condenseAfter_nil, fun before _ => Text.condenseAfter_nil before⟩

variable {s : Text} {symbols : List Symbol}

theorem substitution (h : Condenses s symbols) {c : Text} (hc : c.BraceFree) (hne : c ≠ [])
    (before : Option Char) :
    condenseAfter before ('{' :: c ++ '}' :: s) =
      Symbol.exactSource (.substitution c :: symbols) := by
  rw [Text.condenseAfter_placeholder before hc hne, h.behind_brace _ rfl,
    Symbol.exactSource_substitution]

theorem placeholder (h : Condenses s symbols) {c : Text} (hc : c.BraceFree)
    (before : Option Char) :
    condenseAfter before ('{' :: c ++ '}' :: s) =
      (if isContent before && Symbol.startsLiteral (Side.inside.symbols c ++ symbols)
        then ['{', '}'] else []) ++ Symbol.exactSource (Side.inside.symbols c ++ symbols) := by
  cases c with
  | nil =>
    -- The run goes on into `s`, and what is behind all of it decides whether it stays.
    show condenseAfter before ('{' :: '}' :: s) = _
    rw [condenseAfter, h.head, h.behind_run]
    rfl
  | cons d c =>
    have hliteral : (isContent before &&
        Symbol.startsLiteral (Side.inside.symbols (d :: c) ++ symbols)) = false :=
      Bool.and_false _
    rw [hliteral]
    exact h.substitution hc (List.cons_ne_nil d c) before

theorem round_nil (h : Condenses s symbols) {c : Text} (hc : c.BraceFree) :
    Condenses ('{' :: c ++ '}' :: s) (Side.inside.symbols c ++ symbols) := by
  cases c with
  | nil =>
    refine ⟨h.head, h.behind_run, fun before hbefore => ?_⟩
    rw [h.placeholder hc, hbefore]
    rfl
  | cons d c =>
    have hne := List.cons_ne_nil d c
    have hdrop := Text.dropRun_placeholder hc hne s
    refine ⟨?_, fun before => ?_, fun before _ => h.substitution hc hne before⟩
    · rw [hdrop]
      rfl
    · rw [hdrop]
      exact h.substitution hc hne before

/-- A text is content up to its last character, so behind it a run of empty
placeholders stays if the next symbol is a literal, as in the exact source. -/
theorem of_text {t : Text} (ht : t.BraceFree) (hne : t ≠ []) {others : List Symbol}
    (h : ∀ before, isContent before = true → condenseAfter before s =
      (if Symbol.startsLiteral others then ['{', '}'] else []) ++ Symbol.exactSource others) :
    Condenses (t ++ s) (.literal t :: others) := by
  have hall : ∀ before, condenseAfter before (t ++ s) = Symbol.exactSource (.literal t :: others) := by
    intro before
    have hlast : isContent t.getLast? = true := by
      rw [List.getLast?_eq_some_getLast hne]
      show (!Text.isBrace _) = true
      rw [Text.braceFree_iff.mp ht _ (List.getLast_mem hne)]
      rfl
    rw [Text.condenseAfter_braceFree before ht hne, h _ hlast, Symbol.exactSource_literal]
  obtain ⟨c, t, rfl⟩ := List.exists_cons_of_ne_nil hne
  have hdrop : dropRun (c :: t ++ s) = c :: t ++ s := Text.dropRun_cons ht.of_cons.1 _
  refine ⟨?_, fun before => ?_, fun before _ => hall before⟩
  · rw [hdrop]
    show (!Text.isBrace c) = true
    rw [Text.braceFree_iff.mp ht c List.mem_cons_self]
    rfl
  · rw [hdrop]
    exact hall before

end Condenses

namespace Rounds

theorem condenses {s : Text} {symbols : List Symbol} (h : Rounds s symbols) :
    Condenses s symbols := by
  induction h with
  | @last t ht =>
    cases t with
    | nil => exact .nil
    | cons c t =>
      have htext : Condenses (c :: t ++ []) [.literal (c :: t)] :=
        .of_text ht (List.cons_ne_nil c t) fun before _ => Text.condenseAfter_nil before
      rw [List.append_nil] at htext
      exact htext
  | @round t c s symbols ht hc _ ih =>
    cases t with
    | nil => exact ih.round_nil hc
    | cons d t =>
      rw [List.append_assoc]
      refine .of_text ht (List.cons_ne_nil d t) fun before hbefore => ?_
      have hplaceholder := ih.placeholder hc before
      rw [hbefore, Bool.true_and] at hplaceholder
      exact hplaceholder

theorem condensed {s : Text} {symbols : List Symbol} (h : Rounds s symbols) :
    s.condensed = Symbol.exactSource symbols :=
  h.condenses.behind_brace none rfl

end Rounds

namespace Pattern

theorem condensed_of_compile {s : Text} {p : Pattern} (h : compile s = .ok p) :
    s.condensed = Symbol.exactSource p.symbols :=
  (Rounds.of_compile h).condensed

theorem compile_condensed {s : Text} {p : Pattern} (h : compile s = .ok p) :
    compile s.condensed = .ok p := by
  rw [condensed_of_compile h]
  exact (Rounds.exactSource (proper_of_compile h)).compile

/-- Condensing a source keeps its pattern, and condensing it again changes nothing.
Two sources have equal patterns exactly if they are condensed to the same source. -/
theorem eq_iff_condensed_eq :
    (∀ s p, compile s = .ok p →
      compile s.condensed = .ok p ∧ s.condensed.condensed = s.condensed) ∧
    ∀ s t p q, compile s = .ok p → compile t = .ok q → (p = q ↔ s.condensed = t.condensed) := by
  refine ⟨fun s p hp => ⟨compile_condensed hp, ?_⟩, fun s t p q hp hq => ⟨?_, ?_⟩⟩
  · rw [condensed_of_compile (compile_condensed hp), condensed_of_compile hp]
  · rintro rfl
    rw [condensed_of_compile hp, condensed_of_compile hq]
  · intro h
    have hsame := compile_condensed hp
    rw [h, compile_condensed hq] at hsame
    exact (Except.ok.inj hsame).symm

/-- Runs at both ends, between two texts and beside a placeholder.  Without the run
between the two texts the pattern is another one. -/
theorem eq_iff_condensed_eq_runs :
    let s : Text := "{}a{}{}b{x}{}{}c{}".toList
    let t : Text := "a{}b{}{x}c".toList
    let u : Text := "ab{x}{}c".toList
    let p : Pattern :=
      ⟨[.literal ['a'], .literal ['b'], .substitution ['x'], .literal ['c']]⟩
    compile s = .ok p ∧ compile t = .ok p ∧ Text.condensed s = "a{}b{x}c".toList ∧
      compile "a{}b{x}c".toList = .ok p ∧ Text.condensed s = Text.condensed t ∧
      Text.condensed (Text.condensed s) = Text.condensed s ∧
      ∃ q, compile u = .ok q ∧ p ≠ q ∧ Text.condensed s ≠ Text.condensed u := by
  intro s t u p
  have hs : compile s = .ok p := rfl
  have ht : compile t = .ok p := rfl
  have hu : compile u = .ok ⟨[.literal ['a', 'b'], .substitution ['x'], .literal ['c']]⟩ := rfl
  have hcondensed : Text.condensed s = "a{}b{x}c".toList := by decide +kernel
  obtain ⟨hkeeps, hsame⟩ := eq_iff_condensed_eq
  obtain ⟨hagain, htwice⟩ := hkeeps s p hs
  have hne : p ≠ ⟨[.literal ['a', 'b'], .substitution ['x'], .literal ['c']]⟩ := by decide
  refine ⟨hs, ht, hcondensed, ?_, (hsame s t p p hs ht).mp rfl, htwice, _, hu, hne,
    fun h => hne ((hsame s u p _ hs hu).mpr h)⟩
  rw [← hcondensed]
  exact hagain

end Pattern
end Interpolation
