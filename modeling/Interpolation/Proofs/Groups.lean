import Interpolation.Proofs.Segments
import Mathlib.Data.List.SplitBy

/-!
# Groups

The symbols of a source can also be found in two stages.  The first one drops the
braces and gives each other character a number, which every brace raises.  The
second one sees only these numbers: neighbours with the same number are one
symbol.  Both stages together compile a source, with the same faults.

The number of a character counts the braces before it.  So equal numbers mean that no
brace stands between two characters, and the numbers alone find the segments.
-/

namespace Interpolation

/-- A character other than a brace, with the number of its group. -/
structure Tagged where
  group : Nat
  value : Char
  side : Side
deriving DecidableEq, Repr

def Side.symbol : Side → Text → Symbol
  | outside, t => .literal t
  | inside, t => .substitution t

namespace Tagged

/-- The symbol of a run of characters; the last one tells the side. -/
def symbol (run : List Tagged) : Option Symbol :=
  run.getLast?.map fun c => c.side.symbol (run.map value)

/-- Neighbours of one group form a symbol. -/
def symbols (tagged : List Tagged) : List Symbol :=
  (tagged.splitBy fun c d => c.group == d.group).filterMap symbol

end Tagged

/-- The side and the group of the next character. -/
structure Tagger where
  side : Side
  group : Nat
deriving DecidableEq, Repr

namespace Tagger

def start : Tagger := ⟨.outside, 0⟩

def cross (g : Tagger) (side : Side) : Tagger := ⟨side, g.group + 1⟩

def mark (g : Tagger) (c : Char) : Tagged := ⟨g.group, c, g.side⟩

/-- Read the character at a position.  A brace passes to the other side and is not
kept. -/
def step (g : Tagger) (position : Nat) (c : Char) : Except BraceError (Tagger × Option Tagged) :=
  match c, g.side with
  | '{', .inside => .error ⟨.nestedOpening, position⟩
  | '{', .outside => .ok (g.cross .inside, none)
  | '}', .outside => .error ⟨.unmatchedClosing, position⟩
  | '}', .inside => .ok (g.cross .outside, none)
  | c, _ => .ok (g, some (g.mark c))

def finish (g : Tagger) (length : Nat) : Except BraceError Unit :=
  match g.side with
  | .outside => .ok ()
  | .inside => .error ⟨.unclosedOpening, length⟩

/-- Tag the characters of a source that stand at `position` and behind it. -/
def tag (g : Tagger) (position : Nat) : Text → Except BraceError (List Tagged)
  | [] => do
    g.finish position
    return []
  | c :: rest => do
    let (next, tagged) ← g.step position c
    let others ← next.tag (position + 1) rest
    return tagged.toList ++ others

theorem group_of_mem_mark {g : Tagger} {t : Text} {c : Tagged} (h : c ∈ t.map g.mark) :
    c.group = g.group := by
  obtain ⟨a, -, rfl⟩ := List.mem_map.mp h
  rfl

end Tagger

/-! ## Grouping -/

namespace Tagged

theorem symbols_append {l m : List Tagged} (h : ∀ c ∈ l, ∀ d ∈ m, c.group ≠ d.group) :
    symbols (l ++ m) = symbols l ++ symbols m := by
  have happart : ∀ c ∈ l.getLast?, ∀ d ∈ m.head?, (c.group == d.group) = false :=
    fun c hc d hd => beq_false_of_ne (h c (List.mem_of_getLast? hc) d (List.mem_of_mem_head? hd))
  rw [symbols, List.splitBy_append happart, List.filterMap_append, symbols, symbols]

theorem symbols_mark (g : Tagger) (t : Text) : symbols (t.map g.mark) = g.side.symbols t := by
  cases t with
  | nil => rfl
  | cons c t =>
    have hchain : ((c :: t).map g.mark).IsChain fun c d => (c.group == d.group) = true :=
      (List.isChain_map _).mpr (List.pairwise_of_forall fun _ _ => beq_self_eq_true _).isChain
    have hvalue : ((c :: t).map g.mark).map value = c :: t := by
      rw [List.map_map]
      exact List.map_id _
    have hlast : ((c :: t).map g.mark).getLast? =
        some (g.mark ((c :: t).getLast (List.cons_ne_nil c t))) := by
      rw [List.getLast?_map, List.getLast?_eq_some_getLast (List.cons_ne_nil c t)]
      rfl
    have hsymbol : symbol ((c :: t).map g.mark) = some (g.side.symbol (c :: t)) := by
      rw [symbol, hlast, hvalue]
      rfl
    have hne : (c :: t).map g.mark ≠ [] := List.cons_ne_nil _ _
    rw [symbols, List.splitBy_of_isChain hne hchain, List.filterMap_cons_some hsymbol]
    cases g.side <;> rfl

theorem symbols_mark_append (g : Tagger) (t : Text) {rest : List Tagged}
    (h : ∀ d ∈ rest, g.group < d.group) :
    symbols (t.map g.mark ++ rest) = g.side.symbols t ++ symbols rest := by
  rw [symbols_append, symbols_mark]
  intro c hc d hd
  rw [Tagger.group_of_mem_mark hc]
  exact (h d hd).ne

end Tagged

/-! ## Tagging -/

namespace Tagger

theorem step_content {c : Char} (ho : c ≠ '{') (hc : c ≠ '}') (g : Tagger) (position : Nat) :
    g.step position c = .ok (g, some (g.mark c)) := by
  unfold step
  split
  · exact absurd rfl ho
  · exact absurd rfl ho
  · exact absurd rfl hc
  · exact absurd rfl hc
  · rfl

/-- `tagged`, and then what `r` gives. -/
def ahead (tagged : List Tagged) (r : Except BraceError (List Tagged)) :
    Except BraceError (List Tagged) :=
  r.map (tagged ++ ·)

theorem ahead_nil (r : Except BraceError (List Tagged)) : ahead [] r = r := by
  cases r <;> rfl

theorem ahead_ahead (front back : List Tagged) (r : Except BraceError (List Tagged)) :
    ahead front (ahead back r) = ahead (front ++ back) r := by
  cases r with
  | ok others => exact congrArg Except.ok (List.append_assoc ..).symm
  | error e => rfl

theorem tag_cons_ok {g next : Tagger} {position : Nat} {c : Char} {tagged : Option Tagged}
    (h : g.step position c = .ok (next, tagged)) (rest : Text) :
    g.tag position (c :: rest) = ahead tagged.toList (next.tag (position + 1) rest) := by
  rw [tag, h]
  rfl

theorem tag_cons_error {g : Tagger} {position : Nat} {c : Char} {e : BraceError}
    (h : g.step position c = .error e) (rest : Text) : g.tag position (c :: rest) = .error e := by
  rw [tag, h]
  rfl

theorem tag_braceFree {t : Text} (ht : t.BraceFree) (g : Tagger) (position : Nat) (rest : Text) :
    g.tag position (t ++ rest) =
      ahead (t.map g.mark) (g.tag (position + t.length) rest) := by
  induction t generalizing position with
  | nil => exact (ahead_nil _).symm
  | cons c t ih =>
    obtain ⟨ho, hc, htail⟩ := ht.of_cons
    rw [List.cons_append, tag_cons_ok (step_content ho hc g position), ih htail, ahead_ahead,
      List.length_cons, Nat.add_assoc, Nat.add_comm 1]
    rfl

theorem tag_open {c : Text} (hc : c.BraceFree) (n position : Nat) (rest : Text) :
    tag ⟨.outside, n⟩ position ('{' :: c ++ rest) =
      ahead (c.map (mark ⟨.inside, n + 1⟩))
        (tag ⟨.inside, n + 1⟩ (position + 1 + c.length) rest) := by
  rw [List.cons_append, tag_cons_ok rfl, Option.toList_none, ahead_nil]
  exact tag_braceFree hc ⟨.inside, n + 1⟩ (position + 1) rest

theorem tag_close (n position : Nat) (rest : Text) :
    tag ⟨.inside, n⟩ position ('}' :: rest) = tag ⟨.outside, n + 1⟩ (position + 1) rest := by
  rw [tag_cons_ok rfl, Option.toList_none, ahead_nil]
  rfl

theorem tag_round {t c : Text} (ht : t.BraceFree) (hc : c.BraceFree) (n position : Nat)
    (rest : Text) :
    tag ⟨.outside, n⟩ position (t ++ '{' :: c ++ '}' :: rest) =
      ahead (t.map (mark ⟨.outside, n⟩) ++ c.map (mark ⟨.inside, n + 1⟩))
        (tag ⟨.outside, n + 2⟩ (position + (t ++ '{' :: c ++ ['}']).length) rest) := by
  have hlength : position + (t ++ '{' :: c ++ ['}']).length =
      position + t.length + 1 + c.length + 1 := by
    simp only [List.length_append, List.length_cons, List.length_nil]
    omega
  rw [List.append_assoc, tag_braceFree ht, tag_open hc, tag_close, ahead_ahead, hlength]

theorem tag_rounds {s : Text} {symbols : List Symbol} (h : Rounds s symbols) (n position : Nat) :
    ∃ m tagged, (∀ d ∈ tagged, n ≤ d.group) ∧ Tagged.symbols tagged = symbols ∧
      ∀ rest, tag ⟨.outside, n⟩ position (s ++ rest) =
        ahead tagged (tag ⟨.outside, m⟩ (position + s.length) rest) := by
  -- The numbers go on from round to round, so the first one has to be arbitrary.
  induction h generalizing n position with
  | @last t ht =>
    exact ⟨n, t.map (mark ⟨.outside, n⟩), fun d hd => (group_of_mem_mark hd).ge,
      Tagged.symbols_mark ⟨.outside, n⟩ t, tag_braceFree ht ⟨.outside, n⟩ position⟩
  | @round t c s symbols ht hc _ ih =>
    obtain ⟨m, tagged, hgroups, hsymbols, htag⟩ :=
      ih (n + 2) (position + (t ++ '{' :: c ++ ['}']).length)
    have hinside : ∀ d ∈ c.map (mark ⟨.inside, n + 1⟩) ++ tagged, n < d.group := by
      intro d hd
      rcases List.mem_append.mp hd with hd | hd
      · exact (group_of_mem_mark hd).ge
      · exact (Nat.le_succ (n + 1)).trans (hgroups d hd)
    refine ⟨m, t.map (mark ⟨.outside, n⟩) ++ (c.map (mark ⟨.inside, n + 1⟩) ++ tagged), ?_, ?_, ?_⟩
    · intro d hd
      rcases List.mem_append.mp hd with hd | hd
      · exact (group_of_mem_mark hd).ge
      · exact (hinside d hd).le
    · rw [Tagged.symbols_mark_append ⟨.outside, n⟩ t hinside,
        Tagged.symbols_mark_append ⟨.inside, n + 1⟩ c hgroups, hsymbols]
    · intro rest
      have hlength : position + (t ++ '{' :: c ++ ['}']).length + s.length =
          position + (t ++ '{' :: c ++ '}' :: s).length := by
        simp only [List.length_append, List.length_cons, List.length_nil]
        omega
      rw [List.append_assoc, List.cons_append, tag_round ht hc, htag, ahead_ahead, hlength,
        List.append_assoc]

end Tagger

theorem Text.WellFormed.tag {u : Text} (hu : u.WellFormed) :
    ∃ m tagged, Pattern.compile u = .ok ⟨Tagged.symbols tagged⟩ ∧
      ∀ rest, Tagger.start.tag 0 (u ++ rest) =
        Tagger.ahead tagged (Tagger.tag ⟨.outside, m⟩ u.length rest) := by
  obtain ⟨p, hp⟩ := Shape.iff_compile_ok.mp (.wellFormed hu)
  obtain ⟨m, tagged, -, hsymbols, htag⟩ := Tagger.tag_rounds (Rounds.of_compile hp) 0 0
  rw [Nat.zero_add] at htag
  exact ⟨m, tagged, hsymbols ▸ hp, htag⟩

namespace Pattern

/-- The two stages in a row are compiling, for accepted and for rejected sources. -/
theorem compile_eq_tag_symbols (s : Text) :
    compile s = (Tagger.start.tag 0 s).map fun tagged => ⟨Tagged.symbols tagged⟩ := by
  -- Up to the fault, if there is one, the source is well-formed in every shape.
  obtain ⟨v, hv⟩ := Shape.exists_shape s
  cases hv with
  | wellFormed hs =>
    obtain ⟨m, tagged, hcompile, htag⟩ := hs.tag
    have hend := htag []
    rw [List.append_nil] at hend
    rw [hcompile, hend]
    show _ = Except.ok (Pattern.mk (Tagged.symbols (tagged ++ [])))
    rw [List.append_nil]
  | @unmatched u r hu =>
    obtain ⟨m, tagged, -, htag⟩ := hu.tag
    rw [(Shape.unmatched r hu).compile_error, htag, Tagger.tag_cons_error rfl]
    rfl
  | @nested u c r hu hc =>
    obtain ⟨m, tagged, -, htag⟩ := hu.tag
    rw [(Shape.nested r hu hc).compile_error, List.append_assoc, htag, Tagger.tag_open hc,
      Tagger.tag_cons_error rfl]
    rfl
  | @unclosed u c hu hc =>
    obtain ⟨m, tagged, -, htag⟩ := hu.tag
    have hopen := Tagger.tag_open hc m u.length []
    rw [List.append_nil] at hopen
    rw [(Shape.unclosed hu hc).compile_error, htag, hopen, List.length_append, List.length_cons,
      Nat.add_comm c.length, ← Nat.add_assoc]
    rfl

end Pattern

/-! ## Numbers and braces -/

namespace Tagger

/-- All that a character can do. -/
theorem step_cases {g next : Tagger} {position : Nat} {c : Char} {tagged : Option Tagged}
    (h : g.step position c = .ok (next, tagged)) :
    (Text.isBrace c = true ∧ next.group = g.group + 1 ∧ tagged = none) ∨
      (Text.isBrace c = false ∧ next = g ∧ tagged = some (g.mark c)) := by
  cases hc : Text.isBrace c with
  | false =>
    obtain ⟨ho, hclose⟩ := not_or.mp (of_decide_eq_false hc)
    rw [step_content ho hclose] at h
    cases h
    exact Or.inr ⟨rfl, rfl, rfl⟩
  | true =>
    refine Or.inl ⟨rfl, ?_⟩
    rcases of_decide_eq_true hc with rfl | rfl
    · cases hside : g.side with
      | outside =>
        simp only [step, hside, Except.ok.injEq, Prod.mk.injEq] at h
        exact ⟨h.1 ▸ rfl, h.2.symm⟩
      | inside => simp only [step, hside, reduceCtorEq] at h
    · cases hside : g.side with
      | outside => simp only [step, hside, reduceCtorEq] at h
      | inside =>
        simp only [step, hside, Except.ok.injEq, Prod.mk.injEq] at h
        exact ⟨h.1 ▸ rfl, h.2.symm⟩

theorem tag_cons_eq_ok {g : Tagger} {position : Nat} {c : Char} {rest : Text}
    {all : List Tagged} (h : g.tag position (c :: rest) = .ok all) :
    ∃ next tagged others, g.step position c = .ok (next, tagged) ∧
      next.tag (position + 1) rest = .ok others ∧ all = tagged.toList ++ others := by
  cases hstep : g.step position c with
  | error e =>
    rw [tag_cons_error hstep] at h
    cases h
  | ok result =>
    obtain ⟨next, tagged⟩ := result
    rw [tag_cons_ok hstep] at h
    cases hothers : next.tag (position + 1) rest with
    | error e =>
      rw [hothers] at h
      cases h
    | ok others =>
      rw [hothers] at h
      exact ⟨next, tagged, others, rfl, hothers, (Except.ok.inj h).symm⟩

theorem map_value_of_tag {g : Tagger} {position : Nat} {s : Text} {all : List Tagged}
    (h : g.tag position s = .ok all) : all.map Tagged.value = Text.content s := by
  induction s generalizing g position all with
  | nil =>
    cases hside : g.side with
    | outside =>
      simp only [tag, finish, hside] at h
      cases h
      rfl
    | inside =>
      simp only [tag, finish, hside] at h
      cases h
  | cons c s ih =>
    obtain ⟨next, tagged, others, hstep, hothers, rfl⟩ := tag_cons_eq_ok h
    rcases step_cases hstep with ⟨hbrace, -, rfl⟩ | ⟨hcontent, -, rfl⟩
    · rw [Text.content_cons_brace hbrace]
      exact ih hothers
    · rw [Text.content_cons hcontent]
      exact congrArg (List.cons c) (ih hothers)

/-- The number of a character counts the braces before it. -/
theorem getElem?_tag {g : Tagger} {position : Nat} (a : Text) {c : Char}
    (hc : Text.isBrace c = false) {b : Text} {all : List Tagged}
    (h : g.tag position (a ++ c :: b) = .ok all) :
    ∃ side, all[(Text.content a).length]? = some ⟨g.group + a.countP Text.isBrace, c, side⟩ := by
  induction a generalizing g position all with
  | nil =>
    obtain ⟨next, tagged, others, hstep, -, rfl⟩ := tag_cons_eq_ok h
    rcases step_cases hstep with ⟨hbrace, -⟩ | ⟨-, -, rfl⟩
    · rw [hc] at hbrace
      cases hbrace
    · exact ⟨g.side, rfl⟩
  | cons d a ih =>
    obtain ⟨next, tagged, others, hstep, hothers, rfl⟩ := tag_cons_eq_ok h
    obtain ⟨side, hside⟩ := ih hothers
    rcases step_cases hstep with ⟨hbrace, hgroup, rfl⟩ | ⟨hcontent, rfl, rfl⟩
    · refine ⟨side, ?_⟩
      rw [Text.content_cons_brace hbrace, List.countP_cons_of_pos hbrace,
        Nat.add_comm (a.countP _), ← Nat.add_assoc, ← hgroup]
      exact hside
    · refine ⟨side, ?_⟩
      rw [Text.content_cons hcontent, List.countP_cons_of_neg (by simp [hcontent])]
      exact hside

/-- Empty placeholders count too, although nothing of them is left. -/
example : (start.tag 0 "a{}{}b".toList).map (List.map Tagged.group) = .ok [0, 4] := rfl

end Tagger

theorem Text.countP_isBrace_eq_zero {t : Text} : t.countP isBrace = 0 ↔ t.BraceFree := by
  rw [List.countP_eq_zero, braceFree_iff]
  simp only [Bool.not_eq_true]

/-- Two characters of an accepted source have the same number exactly if no brace
stands between them, whatever was dropped there. -/
theorem Tagger.group_eq_iff_braceFree {a b e : Text} {c d : Char} {all : List Tagged}
    (hc : Text.isBrace c = false) (hd : Text.isBrace d = false)
    (h : Tagger.start.tag 0 (a ++ c :: b ++ d :: e) = .ok all) :
    ∃ x y, all[(Text.content a).length]? = some x ∧
      all[(Text.content (a ++ c :: b)).length]? = some y ∧ x.value = c ∧ y.value = d ∧
      (x.group = y.group ↔ b.BraceFree) := by
  obtain ⟨side₂, hy⟩ := getElem?_tag (a ++ c :: b) hd h
  rw [List.append_assoc, List.cons_append] at h
  obtain ⟨side₁, hx⟩ := getElem?_tag a hc h
  refine ⟨_, _, hx, hy, rfl, rfl, ?_⟩
  rw [← Text.countP_isBrace_eq_zero, List.countP_append, List.countP_cons_of_neg (by simp [hc]),
    ← Nat.add_assoc]
  exact Nat.left_eq_add

/-! ## The symbols of a source -/

namespace Pattern

theorem exists_tag_of_compile {s : Text} {p : Pattern} (hp : compile s = .ok p) :
    ∃ tagged, Tagger.start.tag 0 s = .ok tagged ∧ Tagged.symbols tagged = p.symbols := by
  rw [compile_eq_tag_symbols] at hp
  cases htag : Tagger.start.tag 0 s with
  | error e =>
    rw [htag] at hp
    cases hp
  | ok tagged =>
    rw [htag] at hp
    exact ⟨tagged, rfl, congrArg symbols (Except.ok.inj hp)⟩

/-- The symbols of an accepted source are its segments in order, those with even
numbers as literals and those with odd numbers as substitutions, less the empty
ones.  So no character other than a brace is lost, altered or moved, and one symbol
holds two characters exactly if no brace stands between them.  The two stages find
the same symbols: the first one keeps every character but the braces, and gives two
of them the same number exactly if they belong to one symbol. -/
theorem symbols_eq_ofSegments {s : Text} {p : Pattern} (hp : compile s = .ok p) :
    (∃ k, s.countP Text.isBrace = 2 * k ∧ s.segments.length = 2 * k + 1) ∧
      p.symbols = Symbol.ofSegments 0 s.segments ∧
      p.symbols.flatMap Symbol.text = s.content ∧
      (∀ a c b d e, s = a ++ c :: b ++ d :: e →
        Text.isBrace c = false → Text.isBrace d = false →
        ∃ i j, (Symbol.holders p.symbols)[(Text.content a).length]? = some i ∧
          (Symbol.holders p.symbols)[(Text.content (a ++ c :: b)).length]? = some j ∧
          (i = j ↔ Text.BraceFree b)) ∧
      ∃ tagged, Tagger.start.tag 0 s = .ok tagged ∧ Tagged.symbols tagged = p.symbols ∧
        tagged.map Tagged.value = s.content ∧
        ∀ a c b d e, s = a ++ c :: b ++ d :: e →
          Text.isBrace c = false → Text.isBrace d = false →
          ∃ x y, tagged[(Text.content a).length]? = some x ∧
            tagged[(Text.content (a ++ c :: b)).length]? = some y ∧
            x.value = c ∧ y.value = d ∧ (x.group = y.group ↔ Text.BraceFree b) := by
  obtain ⟨⟨k, hk⟩, hsymbols⟩ := (Rounds.of_compile hp).eq_ofSegments
  obtain ⟨tagged, htag, hgrouped⟩ := exists_tag_of_compile hp
  have hcount := Text.length_segments s
  refine ⟨⟨k, by omega, hk⟩, hsymbols, ?_, ?_, tagged, htag, hgrouped,
    Tagger.map_value_of_tag htag, ?_⟩
  · rw [hsymbols, Symbol.text_ofSegments, Text.flatten_segments]
  · rintro a c b d e rfl hc hd
    rw [hsymbols]
    exact Symbol.holders_eq_iff_braceFree hc hd a b e
  · rintro a c b d e rfl hc hd
    exact Tagger.group_eq_iff_braceFree hc hd htag

/-- Only empty segments stand between `b` and `c`, and still they have different
holders and different numbers. -/
theorem symbols_eq_ofSegments_empty_between :
    let source : Text := "{}ab{}{}c{ x}{y}".toList
    ∃ p, compile source = .ok p ∧ (∃ k, source.countP Text.isBrace = 2 * k) ∧
      source.segments = [[], [], ['a', 'b'], [], [], [], ['c'], [' ', 'x'], [], ['y'], []] ∧
      Symbol.ofSegments 0 source.segments =
        [.literal ['a', 'b'], .literal ['c'], .substitution [' ', 'x'], .substitution ['y']] ∧
      p.symbols.flatMap Symbol.text = "abc xy".toList ∧
      (∃ i, (Symbol.holders p.symbols)[0]? = some i ∧ (Symbol.holders p.symbols)[1]? = some i) ∧
      (∃ i j, (Symbol.holders p.symbols)[1]? = some i ∧ (Symbol.holders p.symbols)[2]? = some j ∧
        i ≠ j) ∧
      ∃ tagged, Tagger.start.tag 0 source = .ok tagged ∧ Tagged.symbols tagged = p.symbols ∧
        ∃ x y, tagged[1]? = some x ∧ tagged[2]? = some y ∧ x.value = 'b' ∧ y.value = 'c' ∧
          x.group ≠ y.group := by
  intro source
  have hp : compile source = .ok ⟨[.literal ['a', 'b'], .literal ['c'],
      .substitution [' ', 'x'], .substitution ['y']]⟩ := rfl
  obtain ⟨⟨k, hk, -⟩, hsymbols, htext, hholders, tagged, htag, hgrouped, -, hgroups⟩ :=
    symbols_eq_ofSegments hp
  obtain ⟨i, j, hi, hj, hij⟩ := hholders ['{', '}'] 'a' [] 'b' "{}{}c{ x}{y}".toList rfl rfl rfl
  obtain ⟨m, n, hm, hn, hmn⟩ :=
    hholders ['{', '}', 'a'] 'b' "{}{}".toList 'c' "{ x}{y}".toList rfl rfl rfl
  obtain ⟨x, y, hx, hy, hb, hc, hxy⟩ :=
    hgroups ['{', '}', 'a'] 'b' "{}{}".toList 'c' "{ x}{y}".toList rfl rfl rfl
  obtain rfl := hij.mpr (by decide)
  exact ⟨_, hp, ⟨k, hk⟩, rfl, hsymbols.symm, htext, ⟨i, hi, hj⟩,
    ⟨m, n, hm, hn, fun heq => absurd (hmn.mp heq) (by decide)⟩,
    tagged, htag, hgrouped, x, y, hx, hy, hb, hc, fun heq => absurd (hxy.mp heq) (by decide)⟩

end Pattern
end Interpolation
