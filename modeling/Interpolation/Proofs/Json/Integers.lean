import Interpolation.Json.Literal

/-!
# Integers in JSON

A literal without point and exponent is an integer if it fits into 64 bits and is no
negative zero.  Every integer that fits is printed as such a literal, which reads back
as the integer that it was, provided that the text behind it does not go on with it.
-/

namespace Interpolation.Json

/-- The integers that have a literal of their own. -/
def IsWord (n : Int) : Prop := -(signedBound : Int) ≤ n ∧ n < wordBound

/-- A text that cannot go on with a number in front of it. -/
def EndsNumber (t : Text) : Prop :=
  ∀ c ∈ t.head?, c.isDigit = false ∧ c ≠ '.' ∧ c ≠ 'e' ∧ c ≠ 'E'

theorem endsNumber_nil : EndsNumber [] := fun _ h => absurd h (by simp)

theorem endsNumber_cons {c : Char}
    (h : c.isDigit = false ∧ c ≠ '.' ∧ c ≠ 'e' ∧ c ≠ 'E') (t : Text) : EndsNumber (c :: t) :=
  fun _ hd => Option.some.inj hd ▸ h

namespace Literal

/-- The number that the digits before the point make. -/
def magnitude (l : Literal) : Nat := l.whole.foldl (fun n d => 10 * n + digitValue d) 0

def integer (l : Literal) : Int := if l.negative then -l.magnitude else l.magnitude

/-- The literals of integers: they have neither point nor exponent, they fit into 64
bits, and zero has no sign. -/
structure Plain (l : Literal) : Prop where
  fraction : l.fraction = none
  exponent : l.exponent = none
  range : if l.negative then 0 < l.magnitude ∧ l.magnitude ≤ signedBound
    else l.magnitude < wordBound

theorem Plain.isWord {l : Literal} (h : l.Plain) : IsWord l.integer := by
  have hrange := h.range
  rw [integer]
  by_cases hneg : l.negative = true
  · rw [if_pos hneg] at hrange ⊢
    have hlow := hrange.2
    constructor <;> omega
  · rw [if_neg hneg] at hrange ⊢
    constructor <;> omega

/-! ## The number of a literal -/

theorem le_foldl_digits (n : Nat) (t : Text) :
    n ≤ t.foldl (fun n d => 10 * n + digitValue d) n := by
  induction t generalizing n with
  | nil => exact Nat.le_refl n
  | cons d t ih =>
    have h := ih (10 * n + digitValue d)
    rw [List.foldl_cons]
    omega

/-- Digits whose number fits are all taken, since no number on the way is larger. -/
theorem grow_of_lt {n : Nat} {t : Text}
    (h : t.foldl (fun n d => 10 * n + digitValue d) n < wordBound) :
    grow n t = (t.foldl (fun n d => 10 * n + digitValue d) n, []) := by
  induction t generalizing n with
  | nil => rfl
  | cons d t ih =>
    rw [List.foldl_cons] at h
    have hnext : 10 * n + digitValue d < wordBound := Nat.lt_of_le_of_lt (le_foldl_digits _ t) h
    show (if 10 * n + digitValue d < wordBound then grow (10 * n + digitValue d) t
      else (n, d :: t)) = _
    rw [if_pos hnext, ih h, List.foldl_cons]

theorem number?_of_plain {l : Literal} (h : l.Plain) :
    l.number? = some (.integer l.integer) := by
  have hrange := h.range
  have hfits : l.magnitude < wordBound := by
    cases hneg : l.negative with
    | false => rwa [if_neg (by simp [hneg])] at hrange
    | true =>
      rw [if_pos hneg] at hrange
      exact Nat.lt_of_le_of_lt hrange.2 (by decide)
  have hgrow : grow 0 l.whole = (l.magnitude, []) := grow_of_lt hfits
  rw [number?, h.fraction, h.exponent, hgrow, integer]
  cases hneg : l.negative with
  | false => rfl
  | true =>
    rw [if_pos hneg] at hrange
    have hout : ¬ (l.magnitude = 0 ∨ signedBound < l.magnitude) := by omega
    show (if l.magnitude = 0 ∨ signedBound < l.magnitude then l.double?
      else some (.integer (-l.magnitude))) = _
    rw [if_neg hout]
    rfl

/-! ## Reading digits -/

theorem readDigits_append {digits rest : Text} (hdigits : ∀ c ∈ digits, c.isDigit = true)
    (hne : digits ≠ []) (hrest : EndsNumber rest) :
    readDigits (digits ++ rest) = .ok (digits, rest) := by
  have htake : rest.takeWhile Char.isDigit = [] := by
    cases rest with
    | nil => rfl
    | cons c rest => exact List.takeWhile_cons_of_neg (by simp [(hrest c rfl).1])
  have hdrop : rest.dropWhile Char.isDigit = rest := by
    cases rest with
    | nil => rfl
    | cons c rest => exact List.dropWhile_cons_of_neg (by simp [(hrest c rfl).1])
  have hread : readDigits (digits ++ rest) = .ok ((digits ++ rest).takeWhile Char.isDigit,
      (digits ++ rest).dropWhile Char.isDigit) := by
    obtain ⟨d, digits, rfl⟩ := List.exists_cons_of_ne_nil hne
    exact if_pos (hdigits d List.mem_cons_self)
  rw [hread, List.takeWhile_append_of_pos hdigits, List.dropWhile_append_of_pos hdigits, htake,
    hdrop, List.append_nil]

theorem isDigit_of_mem_ofNat {n : Nat} {c : Char} (h : c ∈ Text.ofNat n) : c.isDigit = true :=
  Nat.isDigit_of_mem_toDigits (by decide) (by decide) h

theorem ofNat_ne_nil (n : Nat) : Text.ofNat n ≠ [] := Nat.toDigits_ne_nil

/-- Only zero starts with a zero. -/
theorem head?_ofNat_ne_zero {n : Nat} (h : 0 < n) : (Text.ofNat n).head? ≠ some '0' := by
  induction n using Nat.strongRecOn with
  | ind n ih =>
    by_cases hlt : n < 10
    · have hall : ∀ m ∈ List.range 10, 0 < m → (Text.ofNat m).head? ≠ some '0' := by decide
      exact hall n (List.mem_range.mpr hlt) h
    · have htens := ih (n / 10) (by omega) (by omega)
      obtain ⟨d, digits, hd⟩ := List.exists_cons_of_ne_nil (ofNat_ne_nil (n / 10))
      have hsplit : Text.ofNat n = Text.ofNat (n / 10) ++ [Nat.digitChar (n % 10)] :=
        Nat.toDigits_of_base_le (by decide) (by omega)
      rw [hd] at htens hsplit
      rw [hsplit]
      exact htens

theorem readWhole_ofNat (n : Nat) {rest : Text} (hrest : EndsNumber rest) :
    readWhole (Text.ofNat n ++ rest) = .ok (Text.ofNat n, rest) := by
  have hdigits := readDigits_append (fun c => isDigit_of_mem_ofNat (n := n) (c := c))
    (ofNat_ne_nil n) hrest
  cases n with
  | zero =>
    cases rest with
    | nil => rfl
    | cons c rest =>
      show (if c.isDigit then Except.error Error.malformed else .ok (['0'], c :: rest)) = _
      rw [if_neg (by simp [(hrest c rfl).1])]
      rfl
  | succ n =>
    have hhead := head?_ofNat_ne_zero (Nat.succ_pos n)
    obtain ⟨d, digits, h⟩ := List.exists_cons_of_ne_nil (ofNat_ne_nil (n + 1))
    rw [h] at hhead hdigits ⊢
    rw [← hdigits, List.cons_append, readWhole]
    rintro c t hzero
    exact absurd (congrArg some (List.cons.inj hzero).1) hhead

/-! ## Reading an integer -/

/-- The literal that an integer is printed as. -/
def ofInt (n : Int) : Literal := ⟨n < 0, Text.ofNat n.natAbs, none, none⟩

theorem negative_ofInt {n : Int} : (ofInt n).negative = true ↔ n < 0 := decide_eq_true_iff

theorem magnitude_ofInt (n : Int) : (ofInt n).magnitude = n.natAbs :=
  Nat.ofDigitChars_ten_toDigits

theorem integer_ofInt (n : Int) : (ofInt n).integer = n := by
  rw [integer, magnitude_ofInt]
  by_cases hneg : n < 0
  · rw [if_pos (negative_ofInt.mpr hneg)]
    omega
  · rw [if_neg (mt negative_ofInt.mp hneg)]
    omega

theorem plain_ofInt {n : Int} (h : IsWord n) : (ofInt n).Plain := by
  obtain ⟨hlow, hhigh⟩ := h
  refine ⟨rfl, rfl, ?_⟩
  rw [magnitude_ofInt]
  by_cases hneg : n < 0
  · rw [if_pos (negative_ofInt.mpr hneg)]
    omega
  · rw [if_neg (mt negative_ofInt.mp hneg)]
    omega

/-- What is read after the sign. -/
def readUnsigned (negative : Bool) (t : Text) : Except Error (Literal × Text) := do
  let (whole, t) ← readWhole t
  let (fraction, t) ← readFraction t
  let (exponent, t) ← readExponent t
  return (⟨negative, whole, fraction, exponent⟩, t)

theorem read_of_ne_minus {c : Char} (h : c ≠ '-') (t : Text) :
    read (c :: t) = readUnsigned false (c :: t) := by
  rw [read]
  · rfl
  · exact fun _ hminus => h (List.cons.inj hminus).1

theorem readUnsigned_ofNat (negative : Bool) (n : Nat) {rest : Text} (hrest : EndsNumber rest) :
    readUnsigned negative (Text.ofNat n ++ rest) =
      .ok (⟨negative, Text.ofNat n, none, none⟩, rest) := by
  have hfraction : readFraction rest = .ok (none, rest) := by
    unfold readFraction
    split
    · exact absurd rfl (hrest '.' rfl).2.1
    · rfl
  have hexponent : readExponent rest = .ok (none, rest) := by
    cases rest with
    | nil => rfl
    | cons c rest =>
      obtain ⟨-, -, he, hE⟩ := hrest c rfl
      exact if_neg (by simp [he, hE])
  rw [readUnsigned, readWhole_ofNat n hrest]
  show (readFraction rest >>= _) = _
  rw [hfraction]
  show (readExponent rest >>= _) = _
  rw [hexponent]
  rfl

theorem read_ofInt (n : Int) {rest : Text} (hrest : EndsNumber rest) :
    read (Text.ofInt n ++ rest) = .ok (ofInt n, rest) := by
  cases n with
  | ofNat n =>
    have hread := readUnsigned_ofNat false n hrest
    obtain ⟨d, digits, h⟩ := List.exists_cons_of_ne_nil (ofNat_ne_nil n)
    have hdigit : d.isDigit = true := isDigit_of_mem_ofNat (n := n) (h ▸ List.mem_cons_self)
    have hminus : d ≠ '-' := fun hd => absurd (hd ▸ hdigit) (by decide)
    show read (Text.ofNat n ++ rest) = _
    rw [h, List.cons_append, read_of_ne_minus hminus, ← List.cons_append, ← h, hread]
    rfl
  | negSucc n =>
    have hliteral : ofInt (.negSucc n) = ⟨true, Text.ofNat (n + 1), none, none⟩ := by
      rw [ofInt, decide_eq_true (Int.negSucc_lt_zero n)]
      rfl
    rw [hliteral]
    exact readUnsigned_ofNat true (n + 1) hrest

end Literal

theorem readNumber_of_some {t rest : Text} {literal : Literal} {n : Number}
    (h : Literal.read t = .ok (literal, rest)) (hn : literal.number? = some n) :
    readNumber t = .ok (n, rest) := by
  simp only [readNumber, h, hn, bind, Except.bind, pure, Except.pure]

theorem readNumber_of_none {t rest : Text} {literal : Literal}
    (h : Literal.read t = .ok (literal, rest)) (hn : literal.number? = none) :
    readNumber t = .error .malformed := by
  simp only [readNumber, h, hn, bind, Except.bind]
  rfl

theorem readNumber_ofInt {n : Int} (hn : IsWord n) {rest : Text} (hrest : EndsNumber rest) :
    readNumber (Text.ofInt n ++ rest) = .ok (.integer n, rest) := by
  have hnumber := Literal.number?_of_plain (Literal.plain_ofInt hn)
  rw [Literal.integer_ofInt] at hnumber
  exact readNumber_of_some (Literal.read_ofInt n hrest) hnumber

theorem exists_ofInt_eq_cons (n : Int) :
    ∃ c t, Text.ofInt n = c :: t ∧ (c = '-' ∨ c.isDigit = true) := by
  cases n with
  | ofNat n =>
    obtain ⟨d, digits, h⟩ := List.exists_cons_of_ne_nil (Literal.ofNat_ne_nil n)
    exact ⟨d, digits, h, Or.inr (Literal.isDigit_of_mem_ofNat (n := n) (h ▸ List.mem_cons_self))⟩
  | negSucc n => exact ⟨'-', Text.ofNat (n + 1), rfl, Or.inl rfl⟩

end Interpolation.Json
