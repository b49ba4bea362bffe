import Interpolation.Proofs.Concatenation
import Interpolation.Proofs.Segments

/-!
# The seam of two sources

Where two accepted sources are put together, their symbols stay as they are,
except at the seam: if no brace stands on either side of it, the literals on both
sides are one.
-/

namespace Interpolation

/-- Two sources meet in a text if neither character at the seam is a brace. -/
def Text.Meet (s t : Text) : Prop :=
  (∃ c ∈ s.getLast?, isBrace c = false) ∧ ∃ c ∈ t.head?, isBrace c = false

/-- `both` is `left` and `right` with the literals at the seam made one. -/
def Symbol.Welded (left right both : List Symbol) : Prop :=
  ∃ before u v after, left = before ++ [literal u] ∧ right = literal v :: after ∧
    both = before ++ literal (u ++ v) :: after

namespace Text

theorem not_meet_nil (t : Text) : ¬ Meet [] t := by
  rintro ⟨⟨c, hc, -⟩, -⟩
  cases hc

theorem meet_append_brace (r : Text) {b : Char} (hb : isBrace b = true) (s t : Text) :
    Meet (r ++ b :: s) t ↔ Meet s t := by
  cases s with
  | nil =>
    refine iff_of_false ?_ (not_meet_nil t)
    rintro ⟨⟨c, hc, hcontent⟩, -⟩
    rw [List.getLast?_concat] at hc
    cases hc
    rw [hb] at hcontent
    cases hcontent
  | cons c s => rw [Meet, Meet, List.getLast?_append_cons, List.getLast?_cons_cons]

theorem meet_of_braceFree {s t : Text} (hs : s.BraceFree) (hsne : s ≠ []) (ht : t.BraceFree)
    (htne : t ≠ []) (rest : Text) : Meet s (t ++ rest) := by
  refine ⟨⟨s.getLast hsne, List.getLast?_eq_some_getLast hsne, ?_⟩, t.head htne, ?_, ?_⟩
  · exact braceFree_iff.mp hs _ (List.getLast_mem hsne)
  · rw [List.head?_append_of_ne_nil _ htne]
    exact List.head?_eq_some_head htne
  · exact braceFree_iff.mp ht _ (List.head_mem htne)

theorem not_meet_opening (s : Text) {t : Text} (ht : ∀ c ∈ t.head?, c = '{') : ¬ Meet s t := by
  rintro ⟨-, c, hc, hcontent⟩
  rw [ht c hc] at hcontent
  cases hcontent

end Text

theorem Symbol.Welded.append_left {left right both : List Symbol} (h : Welded left right both)
    (front : List Symbol) : Welded (front ++ left) right (front ++ both) := by
  obtain ⟨before, u, v, after, rfl, rfl, rfl⟩ := h
  exact ⟨front ++ before, u, v, after, (List.append_assoc ..).symm, rfl,
    (List.append_assoc ..).symm⟩

namespace Rounds

theorem append {s t : Text} {l m : List Symbol} (hs : Rounds s l) (ht : Rounds t m) :
    ∃ n, Rounds (s ++ t) n ∧ (Text.Meet s t → Symbol.Welded l m n) ∧
      (¬ Text.Meet s t → n = l ++ m) := by
  induction hs with
  | @last u hu =>
    -- The last text of the first source and the first text `v` of the second one
    -- are one text of both.
    obtain ⟨v, rest, others, rfl, hv, hrest, rfl, hfront⟩ := ht.first_text
    refine ⟨_, hfront u hu, ?_⟩
    by_cases hune : u = []
    · subst hune
      exact ⟨fun h => absurd h (Text.not_meet_nil _), fun _ => rfl⟩
    · by_cases hvne : v = []
      · subst hvne
        refine ⟨fun h => absurd h (Text.not_meet_opening u hrest), fun _ => ?_⟩
        rw [List.append_nil]
        rfl
      · have hmeet := Text.meet_of_braceFree hu hune hv hvne rest
        refine ⟨fun _ => ?_, fun h => absurd hmeet h⟩
        obtain ⟨c, u, rfl⟩ := List.exists_cons_of_ne_nil hune
        obtain ⟨d, v, rfl⟩ := List.exists_cons_of_ne_nil hvne
        exact ⟨[], c :: u, d :: v, others, rfl, rfl, rfl⟩
  | @round u c s l hu hc _ ih =>
    obtain ⟨n, hn, hweld, hplain⟩ := ih
    have hmeet := Text.meet_append_brace (u ++ '{' :: c) (b := '}') rfl s t
    have hround := round hu hc hn
    rw [← List.cons_append, ← List.append_assoc] at hround
    refine ⟨_, hround, fun h => ?_, fun h => ?_⟩
    · have hinside := (hweld (hmeet.mp h)).append_left (Side.inside.symbols c)
      exact hinside.append_left (Side.outside.symbols u)
    · rw [hplain fun h' => h (hmeet.mpr h'), List.append_assoc, List.append_assoc]

end Rounds

namespace Pattern

/-- A source behind an accepted one is accepted exactly if it is so by itself, and
has its faults where it has them by itself, moved by the length of the first one.
A brace out of place in the first source stays the fault of both.  Two accepted
sources have their symbols one after the other, with the literals at the seam made
one if the sources meet there, and they render and ask one after the other. -/
theorem compile_append_seam (s t : Text) :
    (∀ p, compile s = .ok p →
      ((∃ r, compile (s ++ t) = .ok r) ↔ ∃ q, compile t = .ok q) ∧
      ∀ fault n, compile t = .error ⟨fault, n⟩ →
        compile (s ++ t) = .error ⟨fault, s.length + n⟩) ∧
    (∀ e, compile s = .error e → e.fault = .nestedOpening ∨ e.fault = .unmatchedClosing →
      compile (s ++ t) = .error e) ∧
    ∀ p q, compile s = .ok p → compile t = .ok q → ∃ r, compile (s ++ t) = .ok r ∧
      (Text.Meet s t → Symbol.Welded p.symbols q.symbols r.symbols) ∧
      (¬ Text.Meet s t → r.symbols = p.symbols ++ q.symbols) ∧
      ∀ table missing,
        r.render table missing = p.render table missing ++ q.render table missing ∧
        (r.renderTo (.ofText []) table missing).1.lookups =
          (p.renderTo (.ofText []) table missing).1.lookups ++
            (q.renderTo (.ofText []) table missing).1.lookups := by
  refine ⟨fun p hp => ⟨⟨?_, ?_⟩, ?_⟩, ?_, fun p q hp hq => ?_⟩
  · rintro ⟨r, hr⟩
    cases ht : compile t with
    | ok q => exact ⟨q, rfl⟩
    | error e =>
      rw [compile_append_error hp ht] at hr
      cases hr
  · rintro ⟨q, hq⟩
    obtain ⟨r, hr, -⟩ := compile_append hp hq
    exact ⟨r, hr⟩
  · exact fun fault n ht => compile_append_error hp ht
  · intro e hs he
    refine compile_error_append hs (fun hfault => ?_) t
    rw [hfault] at he
    rcases he with he | he <;> cases he
  · obtain ⟨r, hr, hrender, hidentifiers⟩ := compile_append hp hq
    obtain ⟨n, hn, hweld, hplain⟩ := (Rounds.of_compile hp).append (Rounds.of_compile hq)
    obtain rfl : r = ⟨n⟩ := Except.ok.inj (hr.symm.trans hn.compile)
    refine ⟨_, hr, hweld, hplain, fun table missing => ⟨hrender table missing, ?_⟩⟩
    rw [lookups_renderTo, lookups_renderTo, lookups_renderTo, hidentifiers]

/-- A text that goes on behind the seam, a placeholder at the seam, and faults on
either side. -/
theorem compile_append_seam_text_and_placeholder :
    let s : Text := "a{x}b".toList
    let t : Text := "c{}{y}".toList
    let faulty : Text := ['d', '}']
    let table : Table := ⟨fun i => if i = ['x'] then some ['1'] else none⟩
    (∃ r, compile (s ++ t) = .ok r ∧
      Symbol.Welded [.literal ['a'], .substitution ['x'], .literal ['b']]
        [.literal ['c'], .substitution ['y']] r.symbols ∧
      r.render table .keep = "a1bc{y}".toList ∧
      (r.renderTo (.ofText []) table .keep).1.lookups = [['x'], ['y']]) ∧
    (∃ r, compile (t ++ s) = .ok r ∧
      r.symbols = [.literal ['c'], .substitution ['y'], .literal ['a'], .substitution ['x'],
        .literal ['b']]) ∧
    compile (s ++ faulty) = .error ⟨.unmatchedClosing, 6⟩ ∧
    compile (faulty ++ t) = .error ⟨.unmatchedClosing, 1⟩ := by
  intro s t faulty table
  have hs : compile s =
      .ok ⟨[.literal ['a'], .substitution ['x'], .literal ['b']]⟩ := rfl
  have ht : compile t = .ok ⟨[.literal ['c'], .substitution ['y']]⟩ := rfl
  have hmeet : Text.Meet s t := ⟨⟨'b', rfl, rfl⟩, 'c', rfl, rfl⟩
  have hapart : ¬ Text.Meet t s := by
    rintro ⟨⟨c, hc, hcontent⟩, -⟩
    obtain rfl : '}' = c := Option.some.inj hc
    cases hcontent
  obtain ⟨r, hr, hweld, -, hrender⟩ := (compile_append_seam s t).2.2 _ _ hs ht
  obtain ⟨q, hq, -, hplain, -⟩ := (compile_append_seam t s).2.2 _ _ ht hs
  refine ⟨⟨r, hr, hweld hmeet, (hrender table .keep).1, (hrender table .keep).2⟩,
    ⟨q, hq, hplain hapart⟩, ?_, ?_⟩
  · exact ((compile_append_seam s faulty).1 _ hs).2 .unmatchedClosing 1 rfl
  · exact (compile_append_seam faulty t).2.1 ⟨.unmatchedClosing, 1⟩ rfl (Or.inr rfl)

end Pattern
end Interpolation
