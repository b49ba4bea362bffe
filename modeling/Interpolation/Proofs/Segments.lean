import Interpolation.Proofs.Rounds

/-!
# Segments

The braces of a source cut it into segments.  The symbols of its rounds are the
segments that are not empty, in order and with their characters as they stand; the
number of a segment tells on which side of the braces it lies.  So a brace is the
only thing that separates two characters, whether or not anything stands between it
and the next one.
-/

namespace Interpolation

namespace Text

def isBrace (c : Char) : Bool := c = '{' ∨ c = '}'

/-- The parts of a text between its braces, the ends of the text included. -/
def segments (s : Text) : List Text := s.splitOnP isBrace

/-- The characters of a text other than its braces. -/
def content (s : Text) : Text := s.filter (!isBrace ·)

end Text

namespace Symbol

/-- The symbol of the segment with number `n`, if it has one. -/
def ofSegment (n : Nat) (g : Text) : Option Symbol :=
  if g = [] then none
  else if n % 2 = 0 then some (.literal g)
  else some (.substitution g)

/-- The symbols of segments in a row, the first of which has number `start`. -/
def ofSegments (start : Nat) (gs : List Text) : List Symbol :=
  (gs.zipIdx start).filterMap fun (g, n) => ofSegment n g

/-- For each character of the texts in a row, the number of the symbol that holds
it. -/
def holders (symbols : List Symbol) : List Nat :=
  symbols.zipIdx.flatMap fun (x, n) => List.replicate x.text.length n

end Symbol

/-! ## Cutting a text -/

namespace Text

theorem braceFree_iff {t : Text} : t.BraceFree ↔ ∀ c ∈ t, isBrace c = false := by
  constructor
  · intro ht c hc
    refine decide_eq_false fun hbrace => ?_
    rcases hbrace with rfl | rfl
    · exact ht.1 hc
    · exact ht.2 hc
  · intro h
    exact ⟨fun hc => Bool.noConfusion (h _ hc), fun hc => Bool.noConfusion (h _ hc)⟩

theorem exists_brace {t : Text} (h : ¬ t.BraceFree) :
    ∃ before b after, t = before ++ b :: after ∧ isBrace b = true := by
  simp only [braceFree_iff, not_forall, Bool.not_eq_false] at h
  obtain ⟨b, hb, hbrace⟩ := h
  obtain ⟨before, after, rfl⟩ := List.append_of_mem hb
  exact ⟨before, b, after, rfl, hbrace⟩

theorem content_cons_brace {b : Char} (hb : isBrace b = true) (s : Text) :
    content (b :: s) = content s :=
  List.filter_cons_of_neg (by simp [hb])

theorem content_cons {c : Char} (hc : isBrace c = false) (s : Text) :
    content (c :: s) = c :: content s :=
  List.filter_cons_of_pos (by simp [hc])

theorem content_append (s t : Text) : content (s ++ t) = content s ++ content t :=
  List.filter_append ..

theorem content_append_cons (s : Text) {c : Char} (hc : isBrace c = false) (t : Text) :
    content (s ++ c :: t) = content s ++ c :: content t := by
  rw [content_append, content_cons hc]

theorem content_braceFree {t : Text} (ht : t.BraceFree) : content t = t :=
  List.filter_eq_self.mpr fun c hc => by simp [braceFree_iff.mp ht c hc]

theorem segments_nil : segments [] = [[]] := List.splitOnP_nil

theorem segments_cons_brace {b : Char} (hb : isBrace b = true) (s : Text) :
    segments (b :: s) = [] :: segments s := by
  rw [segments, List.splitOnP_cons_eq_if_modifyHead, if_pos hb, segments]

theorem segments_cons {c : Char} (hc : isBrace c = false) (s : Text) :
    segments (c :: s) = (segments s).modifyHead (List.cons c) := by
  rw [segments, List.splitOnP_cons_eq_if_modifyHead, if_neg (by simp [hc]), segments]

theorem exists_segments_eq_cons (s : Text) : ∃ g gs, segments s = g :: gs :=
  List.exists_cons_of_ne_nil (List.splitOnP_ne_nil isBrace s)

theorem segments_cut (s : Text) {b : Char} (hb : isBrace b = true) (t : Text) :
    segments (s ++ b :: t) = segments s ++ segments t :=
  List.splitOnP_append_cons s t hb

/-- Without a brace between them, the last segment and the first one become one. -/
theorem segments_append (s t : Text) :
    ∃ before g h after, segments s = before ++ [g] ∧ segments t = h :: after ∧
      segments (s ++ t) = before ++ (g ++ h) :: after := by
  induction s with
  | nil =>
    obtain ⟨h, after, ht⟩ := exists_segments_eq_cons t
    exact ⟨[], [], h, after, segments_nil, ht, ht⟩
  | cons c s ih =>
    obtain ⟨before, g, h, after, hs, ht, hst⟩ := ih
    cases hc : isBrace c with
    | true =>
      refine ⟨[] :: before, g, h, after, ?_, ht, ?_⟩
      · rw [segments_cons_brace hc, hs, List.cons_append]
      · rw [List.cons_append, segments_cons_brace hc, hst, List.cons_append]
    | false =>
      -- The first segment grows, which may be the last one too.
      have hcs := segments_cons hc s
      have hcst := segments_cons hc (s ++ t)
      rw [hs] at hcs
      rw [hst] at hcst
      cases before with
      | nil => exact ⟨[], c :: g, h, after, hcs, ht, hcst⟩
      | cons k before => exact ⟨(c :: k) :: before, g, h, after, hcs, ht, hcst⟩

theorem segments_braceFree {t : Text} (ht : t.BraceFree) : segments t = [t] :=
  List.splitOnP_eq_singleton (braceFree_iff.mp ht)

theorem flatten_segments (s : Text) : (segments s).flatten = content s := by
  induction s with
  | nil => rfl
  | cons c s ih =>
    cases hc : isBrace c with
    | true =>
      rw [segments_cons_brace hc, List.flatten_cons, ih, content_cons_brace hc, List.nil_append]
    | false =>
      obtain ⟨g, gs, hs⟩ := exists_segments_eq_cons s
      rw [hs] at ih
      rw [segments_cons hc, hs, List.modifyHead_cons, List.flatten_cons, List.cons_append,
        ← List.flatten_cons, ih, content_cons hc]

theorem length_segments (s : Text) : (segments s).length = s.countP isBrace + 1 := by
  induction s with
  | nil => rfl
  | cons c s ih =>
    cases hc : isBrace c with
    | true => rw [segments_cons_brace hc, List.length_cons, ih, List.countP_cons_of_pos hc]
    | false =>
      rw [segments_cons hc, List.length_modifyHead, ih, List.countP_cons_of_neg (by simp [hc])]

end Text

/-! ## Symbols of segments -/

namespace Symbol

theorem ofSegments_cons (n : Nat) (g : Text) (gs : List Text) :
    ofSegments n (g :: gs) = (ofSegment n g).toList ++ ofSegments (n + 1) gs := by
  simp only [ofSegments, List.zipIdx_cons, List.filterMap_cons]
  cases ofSegment n g <;> rfl

theorem ofSegments_append (n : Nat) (gs hs : List Text) :
    ofSegments n (gs ++ hs) = ofSegments n gs ++ ofSegments (n + gs.length) hs := by
  rw [ofSegments, List.zipIdx_append, List.filterMap_append, ofSegments, ofSegments]

theorem ofSegments_add_two (n : Nat) (gs : List Text) :
    ofSegments (n + 2) gs = ofSegments n gs := by
  induction gs generalizing n with
  | nil => rfl
  | cons g gs ih =>
    have hg : ofSegment (n + 2) g = ofSegment n g := by
      rw [ofSegment, ofSegment, Nat.add_mod_right]
    rw [ofSegments_cons, ofSegments_cons, hg, ← ih (n + 1)]

theorem toList_ofSegment_zero (g : Text) : (ofSegment 0 g).toList = Side.outside.symbols g := by
  cases g <;> rfl

theorem toList_ofSegment_one (g : Text) : (ofSegment 1 g).toList = Side.inside.symbols g := by
  cases g <;> rfl

theorem exists_ofSegment (n : Nat) {g : Text} (hg : g ≠ []) :
    ∃ x : Symbol, x.text = g ∧ ofSegment n g = some x := by
  rw [ofSegment, if_neg hg]
  by_cases hn : n % 2 = 0
  · exact ⟨.literal g, rfl, if_pos hn⟩
  · exact ⟨.substitution g, rfl, if_neg hn⟩

theorem text_ofSegments (n : Nat) (gs : List Text) :
    (ofSegments n gs).flatMap text = gs.flatten := by
  induction gs generalizing n with
  | nil => rfl
  | cons g gs ih =>
    rw [ofSegments_cons, List.flatMap_append, ih, List.flatten_cons]
    by_cases hg : g = []
    · subst hg
      rfl
    · obtain ⟨x, hx, hsome⟩ := exists_ofSegment n hg
      rw [hsome, Option.toList_some, List.flatMap_singleton, hx]

/-! ## Holders -/

theorem holders_append (l m : List Symbol) :
    holders (l ++ m) = holders l ++ (holders m).map (l.length + ·) := by
  simp only [holders, List.zipIdx_append, List.flatMap_append, Nat.zero_add,
    List.zipIdx_eq_map_add (i := l.length), List.flatMap_map, List.map_flatMap, List.map_replicate]

theorem holders_cons (x : Symbol) (rest : List Symbol) :
    holders (x :: rest) = List.replicate x.text.length 0 ++ (holders rest).map (1 + ·) := by
  have hx : holders [x] = List.replicate x.text.length 0 := List.append_nil _
  rw [← hx]
  exact holders_append [x] rest

theorem length_holders (symbols : List Symbol) :
    (holders symbols).length = (symbols.flatMap text).length := by
  induction symbols with
  | nil => rfl
  | cons x rest ih =>
    rw [holders_cons, List.length_append, List.length_replicate, List.length_map, ih,
      List.flatMap_cons, List.length_append]

theorem holders_lt {symbols : List Symbol} {i : Nat} (hi : i ∈ holders symbols) :
    i < symbols.length := by
  obtain ⟨⟨x, n⟩, hx, hi⟩ := List.mem_flatMap.mp hi
  rw [List.eq_of_mem_replicate hi]
  exact (List.mem_zipIdx' hx).1

theorem getElem?_holders (before : List Symbol) (x : Symbol) (after : List Symbol) {i : Nat}
    (hi : i < x.text.length) :
    (holders (before ++ x :: after))[(before.flatMap text).length + i]? = some before.length := by
  rw [holders_append, ← length_holders, List.getElem?_append_right (Nat.le_add_right _ _),
    Nat.add_sub_cancel_left, List.getElem?_map, holders_cons,
    List.getElem?_append_left (by rwa [List.length_replicate]), List.getElem?_replicate_of_lt hi]
  rfl

theorem holders_append_lt {l m : List Symbol} {i j h k : Nat} (hi : i < (l.flatMap text).length)
    (hj : (l.flatMap text).length ≤ j) (hh : (holders (l ++ m))[i]? = some h)
    (hk : (holders (l ++ m))[j]? = some k) : h < k := by
  rw [← length_holders] at hi hj
  rw [holders_append, List.getElem?_append_left hi] at hh
  rw [holders_append, List.getElem?_append_right hj, List.getElem?_map] at hk
  obtain ⟨n, -, rfl⟩ := Option.map_eq_some_iff.mp hk
  have hlt := holders_lt (List.mem_of_getElem? hh)
  omega

/-! ## Braces between characters -/

/-- A text without braces lies within one symbol. -/
theorem ofSegments_braceFree (a : Text) {w : Text} (hw : w.BraceFree) (hne : w ≠ []) (e : Text) :
    ∃ before x after u v, ofSegments 0 (a ++ w ++ e).segments = before ++ x :: after ∧
      x.text = u ++ w ++ v ∧ a.content = before.flatMap text ++ u := by
  obtain ⟨gs, u, v, hs, ha, hwe, hall⟩ := Text.segments_append a (w ++ e)
  -- The segment at the border starts with all of `w`.
  have hv : ∃ v', v = w ++ v' := by
    obtain ⟨front, g, h, back, hfront, -, hback⟩ := Text.segments_append w e
    rw [Text.segments_braceFree hw] at hfront
    cases front with
    | nil =>
      rw [hback] at hwe
      obtain rfl := List.singleton_inj.mp hfront
      exact ⟨h, (List.cons.inj hwe).1.symm⟩
    | cons f front => simp at hfront
  obtain ⟨v', rfl⟩ := hv
  obtain ⟨x, hx, hsome⟩ := exists_ofSegment gs.length (g := u ++ (w ++ v')) (by simp [hne])
  refine ⟨ofSegments 0 gs, x, ofSegments (gs.length + 1) hs, u, v', ?_, ?_, ?_⟩
  · rw [List.append_assoc, hall, ofSegments_append, ofSegments_cons, Nat.zero_add, hsome]
    rfl
  · rw [hx, List.append_assoc]
  · rw [← Text.flatten_segments, ha, text_ofSegments, List.flatten_append, List.flatten_singleton]

theorem ofSegments_brace (a : Text) {z : Char} (hz : Text.isBrace z = true) (e : Text) :
    ∃ before after, ofSegments 0 (a ++ z :: e).segments = before ++ after ∧
      a.content = before.flatMap text := by
  refine ⟨ofSegments 0 a.segments, ofSegments a.segments.length e.segments, ?_, ?_⟩
  · rw [Text.segments_cut a hz, ofSegments_append, Nat.zero_add]
  · rw [text_ofSegments, Text.flatten_segments]

theorem length_holders_ofSegments (s : Text) :
    (holders (ofSegments 0 s.segments)).length = s.content.length := by
  rw [length_holders, text_ofSegments, Text.flatten_segments]

section
variable {c d : Char} (hc : Text.isBrace c = false) (hd : Text.isBrace d = false)

include hc hd in
theorem holders_of_braceFree (a : Text) {b : Text} (hb : b.BraceFree) (e : Text) :
    ∃ i, (holders (ofSegments 0 (a ++ c :: b ++ d :: e).segments))[a.content.length]? = some i ∧
      (holders (ofSegments 0 (a ++ c :: b ++ d :: e).segments))[(a ++ c :: b).content.length]? =
        some i := by
  have hw : Text.BraceFree (c :: (b ++ [d])) := by
    refine Text.braceFree_iff.mpr ?_
    rw [List.forall_mem_cons, List.forall_mem_append, List.forall_mem_singleton]
    exact ⟨hc, Text.braceFree_iff.mp hb, hd⟩
  obtain ⟨before, x, after, u, v, hsplit, hx, ha⟩ :=
    ofSegments_braceFree a hw (List.cons_ne_nil _ _) e
  have htext : a ++ c :: b ++ d :: e = a ++ c :: (b ++ [d]) ++ e := by simp
  have hlength : x.text.length = u.length + (b.length + 2) + v.length := by
    rw [hx, List.length_append, List.length_append, List.length_cons, List.length_append]
    rfl
  rw [htext, hsplit, Text.content_append_cons a hc, Text.content_braceFree hb, ha,
    List.length_append, List.length_append, List.length_append, List.length_cons, Nat.add_assoc]
  refine ⟨before.length, getElem?_holders before x after ?_, getElem?_holders before x after ?_⟩
  · omega
  · omega

include hc hd in
theorem holders_of_brace (a : Text) {b : Text} (hb : ¬ b.BraceFree) (e : Text) :
    ∃ i j, (holders (ofSegments 0 (a ++ c :: b ++ d :: e).segments))[a.content.length]? = some i ∧
      (holders (ofSegments 0 (a ++ c :: b ++ d :: e).segments))[(a ++ c :: b).content.length]? =
        some j ∧ i < j := by
  -- The symbols before a brace of `b` hold `c`, and those behind it hold `d`.
  obtain ⟨b₁, z, b₂, rfl, hz⟩ := Text.exists_brace hb
  obtain ⟨before, after, hsplit, hbefore⟩ := ofSegments_brace (a ++ c :: b₁) hz (b₂ ++ d :: e)
  have htext : a ++ c :: (b₁ ++ z :: b₂) ++ d :: e = a ++ c :: b₁ ++ z :: (b₂ ++ d :: e) := by simp
  have hfirst : a.content.length < (before.flatMap text).length := by
    rw [← hbefore, Text.content_append_cons a hc, List.length_append, List.length_cons]
    omega
  have hsecond : (before.flatMap text).length ≤
      (a ++ c :: (b₁ ++ z :: b₂)).content.length := by
    have hparts : a ++ c :: (b₁ ++ z :: b₂) = a ++ c :: b₁ ++ z :: b₂ := by simp
    rw [← hbefore, hparts, Text.content_append (a ++ c :: b₁), List.length_append]
    omega
  have hlast : (a ++ c :: (b₁ ++ z :: b₂)).content.length < (holders (before ++ after)).length := by
    rw [← hsplit, ← htext, length_holders_ofSegments, Text.content_append_cons _ hd,
      List.length_append, List.length_cons]
    omega
  have hi := List.getElem?_eq_getElem ((hfirst.trans_le hsecond).trans hlast)
  have hj := List.getElem?_eq_getElem hlast
  rw [htext, hsplit]
  exact ⟨_, _, hi, hj, holders_append_lt hfirst hsecond hi hj⟩

include hc hd in
theorem holders_eq_iff_braceFree (a b e : Text) :
    ∃ i j, (holders (ofSegments 0 (a ++ c :: b ++ d :: e).segments))[a.content.length]? = some i ∧
      (holders (ofSegments 0 (a ++ c :: b ++ d :: e).segments))[(a ++ c :: b).content.length]? =
        some j ∧ (i = j ↔ b.BraceFree) := by
  by_cases hb : b.BraceFree
  · obtain ⟨i, hi, hj⟩ := holders_of_braceFree hc hd a hb e
    exact ⟨i, i, hi, hj, iff_of_true rfl hb⟩
  · obtain ⟨i, j, hi, hj, hlt⟩ := holders_of_brace hc hd a hb e
    exact ⟨i, j, hi, hj, iff_of_false hlt.ne hb⟩

end

end Symbol

/-! ## Segments of rounds -/

theorem Rounds.eq_ofSegments {s : Text} {symbols : List Symbol} (h : Rounds s symbols) :
    (∃ k, s.segments.length = 2 * k + 1) ∧ symbols = Symbol.ofSegments 0 s.segments := by
  induction h with
  | last ht =>
    rw [Text.segments_braceFree ht]
    refine ⟨⟨0, rfl⟩, ?_⟩
    rw [Symbol.ofSegments_cons, Symbol.toList_ofSegment_zero]
    exact (List.append_nil _).symm
  | @round t c s symbols ht hc _ ih =>
    obtain ⟨⟨k, hk⟩, hsymbols⟩ := ih
    have hsegments : Text.segments (t ++ '{' :: c ++ '}' :: s) = t :: c :: Text.segments s := by
      rw [Text.segments_cut _ rfl, Text.segments_cut _ rfl, Text.segments_braceFree ht,
        Text.segments_braceFree hc]
      rfl
    rw [hsegments]
    refine ⟨⟨k + 1, ?_⟩, ?_⟩
    · rw [List.length_cons, List.length_cons, hk]
      rfl
    · rw [Symbol.ofSegments_cons, Symbol.ofSegments_cons, Symbol.ofSegments_add_two,
        Symbol.toList_ofSegment_zero, Symbol.toList_ofSegment_one, hsymbols]

end Interpolation
