import Interpolation.Symbol
import Mathlib.Data.List.Basic
import Mathlib.Data.List.Chain

/-!
# Pieces

A piece is a symbol that need not have text.  A source is written from pieces
whose texts are free of braces.  Two literals that meet read as one, since
nothing in a source stands between them: `join` makes them one, and `tidy` also
leaves out symbols without text, which is what a source keeps of its pieces.
Whatever takes literals character by character cannot see the difference.
-/

namespace Interpolation

namespace Text.BraceFree

theorem nil : Text.BraceFree [] := ⟨List.not_mem_nil, List.not_mem_nil⟩

theorem append {t u : Text} (ht : t.BraceFree) (hu : u.BraceFree) : (t ++ u).BraceFree := by
  constructor
  · exact fun h => (List.mem_append.mp h).elim ht.1 hu.1
  · exact fun h => (List.mem_append.mp h).elim ht.2 hu.2

theorem singleton {c : Char} (ho : c ≠ '{') (hc : c ≠ '}') : Text.BraceFree [c] :=
  ⟨fun h => ho (List.mem_singleton.mp h).symm, fun h => hc (List.mem_singleton.mp h).symm⟩

theorem of_cons {c : Char} {t : Text} (h : Text.BraceFree (c :: t)) :
    c ≠ '{' ∧ c ≠ '}' ∧ t.BraceFree := by
  refine ⟨fun hc => h.1 ?_, fun hc => h.2 ?_, fun ht => h.1 ?_, fun ht => h.2 ?_⟩
  · exact hc ▸ List.mem_cons_self
  · exact hc ▸ List.mem_cons_self
  · exact List.mem_cons_of_mem c ht
  · exact List.mem_cons_of_mem c ht

end Text.BraceFree

namespace Symbol

/-- Put a symbol in front of others.  A literal takes in a literal that it meets. -/
def prepend : Symbol → List Symbol → List Symbol
  | literal t, literal u :: rest => literal (t ++ u) :: rest
  | x, rest => x :: rest

/-- Make one literal of each row of neighbouring literals. -/
def join (symbols : List Symbol) : List Symbol := symbols.foldr prepend []

def tidy (pieces : List Symbol) : List Symbol := (join pieces).filter (·.text ≠ [])

/-- No two literals are neighbours. -/
def Separated (symbols : List Symbol) : Prop :=
  symbols.IsChain fun x y => ¬ (x.isLiteral ∧ y.isLiteral)

/-- `f` reads a literal as the row of its characters. -/
def Additive {α : Type} (f : Symbol → List α) : Prop :=
  ∀ t u, f (literal (t ++ u)) = f (literal t) ++ f (literal u)

/-- `f`, except that a symbol without text is passed over. -/
def skipBlank {α : Type} (f : Symbol → List α) (x : Symbol) : List α :=
  if x.text = [] then [] else f x

/-! ## Writing pieces -/

theorem source_substitution_append (c s : Text) :
    (substitution c).source ++ s = '{' :: c ++ '}' :: s := by
  rw [source, List.append_assoc, List.singleton_append]

/-- A function that takes a source piece by piece gives the row of what it gives
for the pieces. -/
theorem flatMap_source {α : Type} {g : Text → List α} {f : Symbol → List α} (hnil : g [] = [])
    (hpiece : ∀ x s, x.text.BraceFree → g (x.source ++ s) = f x ++ g s)
    {pieces : List Symbol} (h : ∀ x ∈ pieces, x.text.BraceFree) :
    g (pieces.flatMap source) = pieces.flatMap f := by
  induction pieces with
  | nil => exact hnil
  | cons x rest ih =>
    rw [List.flatMap_cons, List.flatMap_cons, hpiece x _ (h x List.mem_cons_self),
      ih fun y hy => h y (List.mem_cons_of_mem _ hy)]

/-! ## Joining literals -/

theorem join_cons (x : Symbol) (rest : List Symbol) : join (x :: rest) = prepend x (join rest) := rfl

theorem prepend_literal_prepend (t u : Text) (rest : List Symbol) :
    prepend (literal t) (prepend (literal u) rest) = prepend (literal (t ++ u)) rest := by
  cases rest with
  | nil => rfl
  | cons x rest =>
    cases x with
    | literal v =>
      show literal (t ++ (u ++ v)) :: rest = literal (t ++ u ++ v) :: rest
      rw [List.append_assoc]
    | substitution i => rfl

theorem join_literal_literal (t u : Text) (rest : List Symbol) :
    join (literal t :: literal u :: rest) = join (literal (t ++ u) :: rest) := by
  simp only [join_cons, prepend_literal_prepend]

/-- Either nothing joins, since two literals do not meet, or they do. -/
theorem prepend_cases (x : Symbol) (rest : List Symbol) :
    (prepend x rest = x :: rest ∧ ∀ y ∈ rest.head?, ¬ (x.isLiteral ∧ y.isLiteral)) ∨
      ∃ t u after, x = literal t ∧ rest = literal u :: after ∧
        prepend x rest = literal (t ++ u) :: after := by
  cases x with
  | substitution i => exact Or.inl ⟨rfl, fun _ _ h => Bool.false_ne_true h.1⟩
  | literal t =>
    cases rest with
    | nil => exact Or.inl ⟨rfl, fun y hy => by cases hy⟩
    | cons y after =>
      cases y with
      | literal u => exact Or.inr ⟨t, u, after, rfl, rfl, rfl⟩
      | substitution i =>
        refine Or.inl ⟨rfl, fun z hz h => ?_⟩
        cases hz
        exact Bool.false_ne_true h.2

section
variable {α : Type} {f : Symbol → List α}

theorem flatMap_prepend (hf : Additive f) (x : Symbol) (rest : List Symbol) :
    (prepend x rest).flatMap f = f x ++ rest.flatMap f := by
  rcases prepend_cases x rest with ⟨h, -⟩ | ⟨t, u, after, rfl, rfl, h⟩
  · rw [h, List.flatMap_cons]
  · rw [h, List.flatMap_cons, List.flatMap_cons, hf, List.append_assoc]

theorem flatMap_join (hf : Additive f) (symbols : List Symbol) :
    (join symbols).flatMap f = symbols.flatMap f := by
  induction symbols with
  | nil => rfl
  | cons x rest ih => rw [join_cons, flatMap_prepend hf, ih, List.flatMap_cons]

theorem additive_skipBlank (hf : Additive f) : Additive (skipBlank f) := by
  intro t u
  cases t with
  | nil => rfl
  | cons c t =>
    cases u with
    | nil => simp [skipBlank, text]
    | cons d u => exact hf (c :: t) (d :: u)

theorem flatMap_filter_text (symbols : List Symbol) :
    (symbols.filter (·.text ≠ [])).flatMap f = symbols.flatMap (skipBlank f) := by
  induction symbols with
  | nil => rfl
  | cons x rest ih =>
    by_cases hx : x.text = []
    · rw [List.filter_cons_of_neg (by simp [hx]), List.flatMap_cons, ih, skipBlank, if_pos hx,
        List.nil_append]
    · rw [List.filter_cons_of_pos (by simp [hx]), List.flatMap_cons, List.flatMap_cons, ih,
        skipBlank, if_neg hx]

theorem flatMap_tidy (hf : Additive f) (pieces : List Symbol) :
    (tidy pieces).flatMap f = pieces.flatMap (skipBlank f) := by
  rw [tidy, flatMap_filter_text, flatMap_join (additive_skipBlank hf)]

end

theorem additive_source : Additive source := fun _ _ => rfl

theorem source_join (symbols : List Symbol) :
    (join symbols).flatMap source = symbols.flatMap source :=
  flatMap_join additive_source symbols

theorem additive_identifier : Additive fun x => x.identifier?.toList := fun _ _ => rfl

theorem identifiers_join (symbols : List Symbol) :
    (join symbols).filterMap identifier? = symbols.filterMap identifier? := by
  simp only [List.filterMap_eq_flatMap_toList]
  exact flatMap_join additive_identifier symbols

/-! ## Separated literals -/

theorem separated_cons {x : Symbol} {rest : List Symbol} :
    Separated (x :: rest) ↔
      (∀ y ∈ rest.head?, ¬ (x.isLiteral ∧ y.isLiteral)) ∧ Separated rest :=
  List.isChain_cons

theorem separated_prepend {rest : List Symbol} (hrest : Separated rest) (x : Symbol) :
    Separated (prepend x rest) := by
  rcases prepend_cases x rest with ⟨h, hhead⟩ | ⟨t, u, after, rfl, rfl, h⟩
  · rw [h]
    exact separated_cons.mpr ⟨hhead, hrest⟩
  · -- The joined literal has the neighbour that `literal u` had.
    rw [h]
    obtain ⟨hhead, htail⟩ := separated_cons.mp hrest
    exact separated_cons.mpr ⟨hhead, htail⟩

theorem separated_join (symbols : List Symbol) : Separated (join symbols) := by
  induction symbols with
  | nil => exact .nil
  | cons x rest ih => exact separated_prepend ih x

theorem prepend_of_separated {x : Symbol} {rest : List Symbol} (hx : Separated (x :: rest)) :
    prepend x rest = x :: rest := by
  rcases prepend_cases x rest with ⟨h, -⟩ | ⟨t, u, after, rfl, rfl, -⟩
  · exact h
  · exact absurd ⟨rfl, rfl⟩ ((separated_cons.mp hx).1 (literal u) rfl)

theorem join_of_separated {symbols : List Symbol} (h : Separated symbols) :
    join symbols = symbols := by
  induction symbols with
  | nil => rfl
  | cons x rest ih => rw [join_cons, ih (separated_cons.mp h).2, prepend_of_separated h]

/-! ## Texts after joining -/

theorem mem_prepend {x y : Symbol} {rest : List Symbol} (hy : y ∈ prepend x rest) :
    y ∈ x :: rest ∨ ∃ t u, x = literal t ∧ literal u ∈ rest ∧ y = literal (t ++ u) := by
  rcases prepend_cases x rest with ⟨h, -⟩ | ⟨t, u, after, rfl, rfl, h⟩
  · exact Or.inl (h ▸ hy)
  · rw [h] at hy
    rcases List.mem_cons.mp hy with rfl | hy
    · exact Or.inr ⟨t, u, rfl, List.mem_cons_self, rfl⟩
    · exact Or.inl (List.mem_cons_of_mem _ (List.mem_cons_of_mem _ hy))

/-- What holds of the texts of all symbols, and of two such texts joined, holds
after joining. -/
theorem text_of_mem_join {P : Text → Prop} (hP : ∀ {t u}, P t → P u → P (t ++ u))
    {symbols : List Symbol} (h : ∀ x ∈ symbols, P x.text) : ∀ x ∈ join symbols, P x.text := by
  induction symbols with
  | nil => exact fun x hx => absurd hx List.not_mem_nil
  | cons y rest ih =>
    have hrest := ih fun x hx => h x (List.mem_cons_of_mem _ hx)
    intro x hx
    rcases mem_prepend hx with hx | ⟨t, u, rfl, hu, rfl⟩
    · rcases List.mem_cons.mp hx with rfl | hx
      · exact h x List.mem_cons_self
      · exact hrest x hx
    · exact hP (h (literal t) List.mem_cons_self) (hrest (literal u) hu)

/-- The symbols that some source has need only to be joined. -/
theorem tidy_of_proper {symbols : List Symbol} (h : ∀ x ∈ symbols, x.Proper) :
    tidy symbols = join symbols := by
  refine List.filter_eq_self.mpr fun x hx => decide_eq_true ?_
  exact text_of_mem_join (P := (· ≠ [])) (fun _ hu => List.append_ne_nil_of_right_ne_nil _ hu)
    (fun y hy => (h y hy).1) x hx

theorem tidy_singleton {x : Symbol} (hx : x.Proper) : tidy [x] = [x] := by
  have h : ∀ y ∈ [x], y.Proper := fun y hy => (List.mem_singleton.mp hy) ▸ hx
  rw [tidy_of_proper h, join_of_separated (.singleton x)]

theorem proper_tidy {pieces : List Symbol} (h : ∀ x ∈ pieces, x.text.BraceFree) :
    ∀ x ∈ tidy pieces, x.Proper := by
  intro x hx
  obtain ⟨hx, htext⟩ := List.mem_filter.mp hx
  exact ⟨of_decide_eq_true htext, text_of_mem_join Text.BraceFree.append h x hx⟩

end Symbol
end Interpolation
