import Interpolation.Pattern
import Interpolation.Proofs.Pieces

/-!
# Reading pieces

`pass` is what one piece does to a reading that stands outside of the braces, and
`ahead` is what such a reading will have collected after more pieces.  Passing a
piece moves it from what is to come to what has been read and keeps `ahead` as it
was, so the collected symbols of a source are its pieces, tidied.
-/

namespace Interpolation

namespace Side

theorem reverse_symbols (side : Side) (run : Text) :
    (side.symbols run).reverse = side.symbols run := by
  cases side <;> cases run <;> rfl

end Side

namespace Symbol

theorem tidy_literal_literal (t u : Text) (rest : List Symbol) :
    tidy (literal t :: literal u :: rest) = tidy (literal (t ++ u) :: rest) := by
  rw [tidy, tidy, join_literal_literal]

theorem tidy_literal_nil (rest : List Symbol) : tidy (literal [] :: rest) = tidy rest := by
  rw [tidy, tidy, join_cons]
  cases join rest with
  | nil => rfl
  | cons x rest =>
    cases x with
    | literal t => rfl
    | substitution c => rfl

theorem tidy_literal (t : Text) : tidy [literal t] = Side.outside.symbols t := by
  cases t <;> rfl

theorem tidy_literal_substitution (t c : Text) (rest : List Symbol) :
    tidy (literal t :: substitution c :: rest) =
      Side.outside.symbols t ++ (Side.inside.symbols c ++ tidy rest) := by
  show (literal t :: substitution c :: join rest).filter (·.text ≠ []) = _
  cases t <;> cases c <;> rfl

end Symbol

namespace Reading

/-- Read a text without braces. -/
def absorb (r : Reading) (t : Text) : Reading :=
  { r with position := r.position + t.length, run := t.reverse ++ r.run }

def pass (r : Reading) : Symbol → Reading
  | .literal t => r.absorb t
  | .substitution c => ((r.cross .inside).absorb c).cross .outside

/-- The symbols of `r` once `pieces` have been read, for a reading outside of the
braces: its open run is one more literal in front of them. -/
def ahead (r : Reading) (pieces : List Symbol) : List Symbol :=
  r.symbols.reverse ++ Symbol.tidy (.literal r.run.reverse :: pieces)

theorem read_cons (r : Reading) (c : Char) (s : Text) :
    r.read (c :: s) = r.step c >>= fun q => q.read s := rfl

/-! ## Single characters -/

theorem step_content {c : Char} (ho : c ≠ '{') (hc : c ≠ '}') (r : Reading) :
    r.step c = .ok (r.hold c) := by
  unfold step
  split
  · exact absurd rfl ho
  · exact absurd rfl ho
  · exact absurd rfl hc
  · exact absurd rfl hc
  · rfl

section
variable {r : Reading}

theorem step_opening (hr : r.side = .outside) : r.step '{' = .ok (r.cross .inside) := by
  simp only [step, hr]

theorem step_closing (hr : r.side = .inside) : r.step '}' = .ok (r.cross .outside) := by
  simp only [step, hr]

theorem step_nested (hr : r.side = .inside) :
    r.step '{' = .error ⟨.nestedOpening, r.position⟩ := by
  simp only [step, hr]

theorem step_unmatched (hr : r.side = .outside) :
    r.step '}' = .error ⟨.unmatchedClosing, r.position⟩ := by
  simp only [step, hr]

end

/-! ## Pieces -/

theorem read_braceFree {t : Text} (ht : t.BraceFree) (r : Reading) (s : Text) :
    r.read (t ++ s) = (r.absorb t).read s := by
  induction t generalizing r with
  | nil => rfl
  | cons c t ih =>
    obtain ⟨ho, hc, htail⟩ := ht.of_cons
    have habsorb : (r.hold c).absorb t = r.absorb (c :: t) := by
      simp only [absorb, hold, List.length_cons, List.reverse_cons, List.append_assoc,
        List.singleton_append, Nat.add_assoc, Nat.add_comm 1]
    calc r.read (c :: (t ++ s))
        = (r.hold c).read (t ++ s) := by rw [read_cons, step_content ho hc]; rfl
      _ = ((r.hold c).absorb t).read s := ih htail (r.hold c)
      _ = (r.absorb (c :: t)).read s := by rw [habsorb]

/-- An opening brace and the content after it. -/
theorem read_open {r : Reading} (hr : r.side = .outside) {c : Text} (hc : c.BraceFree) (s : Text) :
    r.read ('{' :: c ++ s) = ((r.cross .inside).absorb c).read s := by
  rw [List.cons_append, read_cons, step_opening hr]
  exact read_braceFree hc (r.cross .inside) s

theorem read_piece {r : Reading} (hr : r.side = .outside) {x : Symbol} (hx : x.text.BraceFree)
    (s : Text) : r.read (x.source ++ s) = (r.pass x).read s := by
  cases x with
  | literal t => exact read_braceFree hx r s
  | substitution c =>
    have hc : c.BraceFree := hx
    rw [Symbol.source_substitution_append, read_open hr hc, read_cons, step_closing rfl]
    rfl

theorem pass_side {r : Reading} (hr : r.side = .outside) (x : Symbol) :
    (r.pass x).side = .outside := by
  cases x with
  | literal t => exact hr
  | substitution c => rfl

theorem pass_position (r : Reading) (x : Symbol) :
    (r.pass x).position = r.position + x.source.length := by
  cases x with
  | literal t => rfl
  | substitution c =>
    simp only [pass, cross, absorb, Symbol.source, List.length_append, List.length_cons,
      List.length_nil]
    omega

theorem ahead_pass {r : Reading} (hr : r.side = .outside) (x : Symbol) (rest : List Symbol) :
    (r.pass x).ahead rest = r.ahead (x :: rest) := by
  cases x with
  | literal t =>
    simp only [ahead, pass, absorb, Symbol.tidy_literal_literal, List.reverse_append,
      List.reverse_reverse]
  | substitution c =>
    simp only [ahead, pass, absorb, cross, hr, Symbol.tidy_literal_substitution,
      Symbol.tidy_literal_nil, List.reverse_append, List.reverse_reverse, List.append_nil,
      List.reverse_nil, Side.reverse_symbols, List.append_assoc]

theorem ahead_nil {r : Reading} (hr : r.side = .outside) : r.ahead [] = r.collect := by
  rw [ahead, collect, hr, Symbol.tidy_literal]

theorem ahead_start (pieces : List Symbol) : start.ahead pieces = Symbol.tidy pieces :=
  Symbol.tidy_literal_nil pieces

/-! ## Rows of pieces -/

theorem read_pieces {pieces : List Symbol} (h : ∀ x ∈ pieces, x.text.BraceFree) {r : Reading}
    (hr : r.side = .outside) (s : Text) :
    r.read (pieces.flatMap Symbol.source ++ s) = (pieces.foldl pass r).read s := by
  induction pieces generalizing r with
  | nil => rfl
  | cons x rest ih =>
    rw [List.flatMap_cons, List.append_assoc, read_piece hr (h x List.mem_cons_self),
      ih (fun y hy => h y (List.mem_cons_of_mem _ hy)) (pass_side hr x)]
    rfl

theorem foldl_pass_side (pieces : List Symbol) {r : Reading} (hr : r.side = .outside) :
    (pieces.foldl pass r).side = .outside := by
  induction pieces generalizing r with
  | nil => exact hr
  | cons x rest ih => exact ih (pass_side hr x)

theorem foldl_pass_position (pieces : List Symbol) (r : Reading) :
    (pieces.foldl pass r).position = r.position + (pieces.flatMap Symbol.source).length := by
  induction pieces generalizing r with
  | nil => rfl
  | cons x rest ih =>
    rw [List.foldl_cons, ih, pass_position, List.flatMap_cons, List.length_append, Nat.add_assoc]

theorem foldl_pass_collect (pieces : List Symbol) {r : Reading} (hr : r.side = .outside) :
    (pieces.foldl pass r).collect = r.ahead pieces := by
  induction pieces generalizing r with
  | nil => exact (ahead_nil hr).symm
  | cons x rest ih => rw [List.foldl_cons, ih (pass_side hr x), ahead_pass hr]

end Reading
end Interpolation
