import Interpolation.Json.Decoder

/-!
# Reading a quoted text back

Every character of a text is written in one of three ways: as it is, as a short
escape, or by its number in four digits.  The reader undoes each of them and goes on
behind it, so a quoted text reads back as the text it was, whatever stands after
the closing quote.
-/

namespace Interpolation.Json

/-! ## Characters by their number -/

theorem hexValue_digitChar {n : Nat} (h : n < 16) : hexValue (Nat.digitChar n) = some n := by
  have hall : ∀ m ∈ List.range 16, hexValue (Nat.digitChar m) = some m := by decide
  exact hall n (List.mem_range.mpr h)

theorem readUnit_digits {n : Nat} (h : n < 65536) (rest : Text) :
    readUnit (Nat.digitChar (n / 4096 % 16) :: Nat.digitChar (n / 256 % 16) ::
      Nat.digitChar (n / 16 % 16) :: Nat.digitChar (n / 1 % 16) :: rest) = .ok n := by
  have hdigit (w : Nat) : hexValue (Nat.digitChar (n / w % 16)) = some (n / w % 16) :=
    hexValue_digitChar (by omega)
  have hsum : ((n / 4096 % 16 * 16 + n / 256 % 16) * 16 + n / 16 % 16) * 16 + n / 1 % 16 = n := by
    omega
  simp only [readUnit, hdigit, hsum]

/-- The number of a character below the surrogates takes one escape. -/
theorem readCode_of_readUnit {c : Char} {t : Text} (h : readUnit t = .ok c.toNat)
    (hc : c.toNat < 0xD800) : readCode t = .ok (c, 4) := by
  have hhigh : isHighSurrogate c.toNat = false := by
    simp only [isHighSurrogate, Bool.and_eq_false_iff, decide_eq_false_iff_not]
    omega
  have hlow : isLowSurrogate c.toNat = false := by
    simp only [isLowSurrogate, Bool.and_eq_false_iff, decide_eq_false_iff_not]
    omega
  have hchar : Char.ofNat c.toNat = c := Char.ofNat_toNat c
  rw [readCode, h]
  show (if isHighSurrogate c.toNat then _ else _) = _
  rw [if_neg (by simp [hhigh]), if_neg (by simp [hlow]), hchar]
  rfl

/-! ## One character -/

theorem readStringFrom_length (passed rest : Text) :
    readStringFrom passed.length (passed ++ rest) = readStringFrom 0 rest := by
  induction passed with
  | nil => rfl
  | cons c passed ih => exact ih

/-- `told` tells the character after a backslash. -/
theorem readStringFrom_backslash {c : Char} (told : Text) {rest : Text}
    (h : readEscape (told ++ rest) = .ok (c, told.length)) :
    readStringFrom 0 ('\\' :: (told ++ rest)) =
      (readStringFrom 0 rest).map fun r => (c :: r.1, r.2) := by
  show (readEscape (told ++ rest) >>= fun e =>
    readStringFrom e.2 (told ++ rest) >>= fun r => pure (e.1 :: r.1, r.2)) = _
  rw [h]
  show (readStringFrom told.length (told ++ rest) >>= fun r => pure (c :: r.1, r.2)) = _
  rw [readStringFrom_length]
  cases readStringFrom 0 rest <;> rfl

theorem readStringFrom_plain {c : Char} (hquote : c ≠ '"') (hslash : c ≠ '\\') (hblank : ¬ c < ' ')
    (rest : Text) :
    readStringFrom 0 (c :: rest) =
      (readStringFrom 0 rest).map fun r => (c :: r.1, r.2) := by
  rw [readStringFrom, if_neg hquote, if_neg hslash, if_neg hblank]
  cases readStringFrom 0 rest <;> rfl

theorem readEscape_codeEscape {c : Char} (hc : c < ' ') (rest : Text) :
    readEscape ((codeEscape c).tail ++ rest) = .ok (c, 5) := by
  have hlt : c.toNat < 32 := hc
  have hunit := readUnit_digits (n := c.toNat) (by omega) rest
  have hcode : readCode ((codeEscape c).tail.tail ++ rest) = .ok (c, 4) :=
    readCode_of_readUnit hunit (by omega)
  show (readCode ((codeEscape c).tail.tail ++ rest)).map _ = _
  rw [hcode]
  rfl

theorem readStringFrom_escape (c : Char) (rest : Text) :
    readStringFrom 0 (escape c ++ rest) =
      (readStringFrom 0 rest).map fun r => (c :: r.1, r.2) := by
  fun_cases escape c with
  | case1 => exact readStringFrom_backslash ['"'] rfl
  | case2 => exact readStringFrom_backslash ['\\'] rfl
  | case3 => exact readStringFrom_backslash ['b'] rfl
  | case4 => exact readStringFrom_backslash ['f'] rfl
  | case5 => exact readStringFrom_backslash ['n'] rfl
  | case6 => exact readStringFrom_backslash ['r'] rfl
  | case7 => exact readStringFrom_backslash ['t'] rfl
  | case8 c _ _ _ _ _ _ _ hblank =>
    exact readStringFrom_backslash _ (readEscape_codeEscape hblank rest)
  | case9 c hquote hslash _ _ _ _ _ hblank =>
    exact readStringFrom_plain hquote hslash hblank rest

/-! ## Whole texts -/

theorem readString_quoted (t rest : Text) :
    readString (t.flatMap escape ++ '"' :: rest) = .ok (t, rest) := by
  induction t with
  | nil => rfl
  | cons c t ih =>
    have hrest : readStringFrom 0 (t.flatMap escape ++ '"' :: rest) = .ok (t, rest) := ih
    rw [readString, List.flatMap_cons, List.append_assoc, readStringFrom_escape, hrest]
    rfl

theorem quote_append (t rest : Text) : quote t ++ rest = '"' :: (t.flatMap escape ++ '"' :: rest) := by
  simp only [quote, List.cons_append, List.append_assoc, List.nil_append]

theorem skipBlank_quote_append (t rest : Text) :
    skipBlank (quote t ++ rest) = '"' :: (t.flatMap escape ++ '"' :: rest) := by
  rw [quote_append]
  rfl

theorem readText_quote_append (t rest : Text) : readText (quote t ++ rest) = .ok (t, rest) := by
  unfold readText
  rw [skipBlank_quote_append]
  exact readString_quoted t rest

theorem quote_inj {s t : Text} : quote s = quote t ↔ s = t := by
  constructor
  · intro h
    have hs := readText_quote_append s []
    rw [h, readText_quote_append] at hs
    exact (congrArg Prod.fst (Except.ok.inj hs)).symm
  · rintro rfl
    rfl

/-- A quoted text is a value at any depth. -/
theorem read_quote_append (depth : Nat) (t rest : Text) :
    grammar.read depth (quote t ++ rest) = .ok (string t, rest) := by
  have hscalar : readScalar ('"' :: (t.flatMap escape ++ '"' :: rest)) = .ok (string t, rest) := by
    show (readString _ >>= fun r => pure (string r.1, r.2)) = _
    rw [readString_quoted]
    rfl
  cases depth with
  | zero =>
    rw [Grammar.read, skipBlank_quote_append]
    exact hscalar
  | succ depth =>
    rw [Grammar.read, skipBlank_quote_append]
    exact hscalar

theorem readWhole_of_read {α : Type} {reader : Reader α} {t : Text} {x : α}
    (h : reader t = .ok (x, [])) : readWhole reader t = .ok x := by
  rw [readWhole, h]
  rfl

theorem parse_quote (t : Text) : parse (quote t) = .ok (string t) := by
  have h := read_quote_append maxDepth t []
  rw [List.append_nil] at h
  exact readWhole_of_read h

/-! ## Decoded strings -/

namespace Decoder

variable {α : Type} (decode : Text → Except Error α)

theorem direct_string_quote (t : Text) : (string decode).direct (quote t) = decode t := by
  have h := readText_quote_append t []
  rw [List.append_nil] at h
  show (readText (quote t) >>= _) >>= _ = _
  rw [h]
  show (decode t >>= _) >>= _ = _
  cases decode t <;> rfl

theorem byValue_string_quote (t : Text) : (string decode).byValue (quote t) = decode t := by
  rw [byValue, parse_quote]
  rfl

end Decoder
end Interpolation.Json
