import Interpolation.Proofs.Json.Printed

/-!
# Values as they are written

Reading keeps less than a text says: a number forgets its literal, and an object the
order of its fields and all but the last field of a key.  A value as it is written
keeps them.  It is read by the same grammar, so it says of every text what was there
before anything was dropped; and where all its literals are plain, what is left after
that is told exactly by its printed text.
-/

namespace Interpolation.Json

inductive Written where
  | null
  | bool (value : Bool)
  | number (literal : Literal) (fits : literal.number?.isSome = true)
  | string (text : Text)
  | array (items : List Written)
  | object (fields : List (Text × Written))

namespace Written

def readNumber : Reader Written := fun t => do
  let (literal, rest) ← Literal.read t
  if fits : literal.number?.isSome = true then return (number literal fits, rest)
  else throw .malformed

theorem readNumber_of_fits {t rest : Text} {literal : Literal}
    (h : Literal.read t = .ok (literal, rest)) (fits : literal.number?.isSome = true) :
    readNumber t = .ok (number literal fits, rest) := by
  simp only [readNumber, h, bind, Except.bind, dif_pos fits, pure, Except.pure]

theorem readNumber_of_not_fits {t rest : Text} {literal : Literal}
    (h : Literal.read t = .ok (literal, rest)) (hnot : ¬ literal.number?.isSome = true) :
    readNumber t = .error .malformed := by
  simp only [readNumber, h, bind, Except.bind, dif_neg hnot]
  rfl

def readScalar : Reader Written := fun t =>
  match t with
  | [] => .error .endOfText
  | 'n' :: rest => do return (null, ← readWord "ull".toList rest)
  | 't' :: rest => do return (bool true, ← readWord "rue".toList rest)
  | 'f' :: rest => do return (bool false, ← readWord "alse".toList rest)
  | '"' :: rest => do
    let (s, rest) ← readString rest
    return (string s, rest)
  | c :: rest => if c = '-' ∨ c.isDigit then readNumber (c :: rest) else .error .malformed

def grammar : Grammar Written := ⟨readScalar, readString, array, object⟩

def parse (t : Text) : Except Error Written := readWhole (grammar.read maxDepth) t

/-! ## What is left of it -/

mutual

def value : Written → Json
  | null => .null
  | bool b => .bool b
  | number literal fits => .number (literal.number?.get fits)
  | string t => .string t
  | array items => .array (values items)
  | object fields => ofFields (fieldValues fields)

def values : List Written → List Json
  | [] => []
  | item :: rest => value item :: values rest

def fieldValues : List (Text × Written) → List (Text × Json)
  | [] => []
  | (key, item) :: rest => (key, value item) :: fieldValues rest

end

theorem values_eq_map (items : List Written) : values items = items.map value := by
  induction items with
  | nil => rfl
  | cons item rest ih => rw [values, ih, List.map_cons]

theorem fieldValues_eq_map (fields : List (Text × Written)) :
    fieldValues fields = fields.map fun field => (field.1, field.2.value) := by
  induction fields with
  | nil => rfl
  | cons field rest ih => rw [fieldValues, ih, List.map_cons]

theorem eq_string_of_value {w : Written} {s : Text} (h : w.value = .string s) : w = string s := by
  cases w with
  | string t =>
    rw [value] at h
    cases h
    rfl
  | _ =>
    rw [value] at h
    cases h

theorem exists_items_of_value {w : Written} {items : List Json} (h : w.value = .array items) :
    ∃ written, w = array written := by
  cases w with
  | array written => exact ⟨written, rfl⟩
  | _ =>
    rw [value] at h
    cases h

theorem exists_fields_of_value {w : Written} {fields : Record Json}
    (h : w.value = .object fields) :
    ∃ written, w = object written ∧ Record.ofList (fieldValues written) = fields := by
  cases w with
  | object written =>
    rw [value] at h
    cases h
    exact ⟨written, rfl, rfl⟩
  | _ =>
    rw [value] at h
    cases h

theorem readNumber_map (t : Text) :
    ((Json.readNumber t).map fun r => (Json.number r.1, r.2)) =
      (readNumber t).map fun r => (r.1.value, r.2) := by
  cases hread : Literal.read t with
  | error e => simp only [Json.readNumber, readNumber, hread, bind, Except.bind, Except.map]
  | ok r =>
    obtain ⟨literal, rest⟩ := r
    by_cases fits : literal.number?.isSome = true
    · obtain ⟨n, hn⟩ := Option.isSome_iff_exists.mp fits
      have hvalue : (number literal fits).value = .number n := by
        rw [value, Option.get_of_eq_some fits hn]
      rw [readNumber_of_some hread hn, readNumber_of_fits hread fits]
      exact congrArg (fun j => Except.ok (j, rest)) hvalue.symm
    · rw [readNumber_of_none hread (Option.not_isSome_iff_eq_none.mp fits),
        readNumber_of_not_fits hread fits]
      rfl

theorem readScalar_map : Json.readScalar = readScalar.map value := by
  funext t
  rw [Reader.map]
  fun_cases readScalar t with
  | case1 => rfl
  | case2 rest =>
    show (readWord "ull".toList rest >>= _) = _
    cases readWord "ull".toList rest <;> rfl
  | case3 rest =>
    show (readWord "rue".toList rest >>= _) = _
    cases readWord "rue".toList rest <;> rfl
  | case4 rest =>
    show (readWord "alse".toList rest >>= _) = _
    cases readWord "alse".toList rest <;> rfl
  | case5 rest =>
    show (readString rest >>= _) = _
    cases readString rest <;> rfl
  | case6 c rest _ _ _ _ hc => rw [readScalar_numeral hc, readNumber_map]
  | case7 c rest _ _ _ _ hc =>
    rw [Json.readScalar, if_neg hc]
    · rfl
    all_goals assumption

/-! ## Both readings -/

theorem maps_value : grammar.Maps value Json.grammar where
  scalar := readScalar_map
  string := rfl
  array items := by
    show Json.array (items.map value) = _
    rw [← values_eq_map]
    rfl
  object fields := by
    show ofFields (fields.map _) = _
    rw [← fieldValues_eq_map]
    rfl

/-- A text is read as a value if and only if it is read as it is written, and the value
is what is left of that. -/
theorem parse_map (t : Text) : Json.parse t = (parse t).map value := by
  rw [Json.parse, Json.read, maps_value.read, readWhole_map, parse]

theorem exists_of_parse {t : Text} {j : Json} (h : Json.parse t = .ok j) :
    ∃ w, parse t = .ok w ∧ w.value = j :=
  ok_of_map (parse_map t ▸ h)

/-! ## What was read -/

theorem exists_literal_of_readNumber {t : Text} {w : Written} {rest : Text}
    (h : readNumber t = .ok (w, rest)) : ∃ literal fits, w = number literal fits := by
  obtain ⟨⟨literal, after⟩, hread, -⟩ := ok_of_bind h
  by_cases fits : literal.number?.isSome = true
  · rw [readNumber_of_fits hread fits] at h
    cases h
    exact ⟨literal, fits, rfl⟩
  · rw [readNumber_of_not_fits hread fits] at h
    cases h

theorem readScalar_cases {t : Text} {w : Written} {rest : Text}
    (h : readScalar t = .ok (w, rest)) :
    w = null ∨ (∃ b, w = bool b) ∨ (∃ literal fits, w = number literal fits) ∨
      ∃ u s, t = '"' :: u ∧ readString u = .ok (s, rest) ∧ w = string s := by
  revert h
  fun_cases readScalar t <;> intro h
  case case1 => cases h
  case case2 =>
    obtain ⟨_, -, h⟩ := ok_of_bind h
    cases h
    exact Or.inl rfl
  case case3 =>
    obtain ⟨_, -, h⟩ := ok_of_bind h
    cases h
    exact Or.inr (Or.inl ⟨true, rfl⟩)
  case case4 =>
    obtain ⟨_, -, h⟩ := ok_of_bind h
    cases h
    exact Or.inr (Or.inl ⟨false, rfl⟩)
  case case5 u =>
    obtain ⟨⟨s, after⟩, hs, h⟩ := ok_of_bind h
    cases h
    exact Or.inr (Or.inr (Or.inr ⟨u, s, rfl, hs, rfl⟩))
  case case6 => exact Or.inr (Or.inr (Or.inl (exists_literal_of_readNumber h)))
  case case7 => cases h

section
variable {depth : Nat} {t rest : Text}

theorem exists_of_read_string {s : Text} (h : grammar.read depth t = .ok (string s, rest)) :
    ∃ u, skipBlank t = '"' :: u ∧ readString u = .ok (s, rest) := by
  rcases Grammar.read_cases h with ⟨_, _, _, -, -, -, hw⟩ | ⟨_, _, _, -, -, -, hw⟩ | hscalar
  · cases hw
  · cases hw
  · rcases readScalar_cases hscalar with hw | ⟨_, hw⟩ | ⟨_, _, hw⟩ | ⟨u, s', hu, hs, hw⟩
    · cases hw
    · cases hw
    · cases hw
    · cases hw
      exact ⟨u, hu, hs⟩

theorem exists_of_read_array {items : List Written}
    (h : grammar.read depth t = .ok (array items, rest)) :
    ∃ u below, skipBlank t = '[' :: u ∧ depth = below + 1 ∧
      readAll ']' (grammar.read below) u = .ok (items, rest) := by
  rcases Grammar.read_cases h with ⟨u, below, _, hu, hdepth, hitems, hw⟩ |
    ⟨_, _, _, -, -, -, hw⟩ | hscalar
  · cases hw
    exact ⟨u, below, hu, hdepth, hitems⟩
  · cases hw
  · rcases readScalar_cases hscalar with hw | ⟨_, hw⟩ | ⟨_, _, hw⟩ | ⟨_, _, -, -, hw⟩ <;> cases hw

theorem exists_of_read_object {fields : List (Text × Written)}
    (h : grammar.read depth t = .ok (object fields, rest)) :
    ∃ u below, skipBlank t = '{' :: u ∧ depth = below + 1 ∧
      readAll '}' (readField readString (grammar.read below)) u = .ok (fields, rest) := by
  rcases Grammar.read_cases h with ⟨_, _, _, -, -, -, hw⟩ |
    ⟨u, below, _, hu, hdepth, hfields, hw⟩ | hscalar
  · cases hw
  · cases hw
    exact ⟨u, below, hu, hdepth, hfields⟩
  · rcases readScalar_cases hscalar with hw | ⟨_, hw⟩ | ⟨_, _, hw⟩ | ⟨_, _, -, -, hw⟩ <;> cases hw

end

/-! ## Plain literals -/

/-- All numbers are written as integers that fit. -/
inductive Plain : Written → Prop where
  | null : Plain null
  | bool (b : Bool) : Plain (bool b)
  | number {literal : Literal} {fits : literal.number?.isSome = true} (plain : literal.Plain) :
      Plain (number literal fits)
  | string (t : Text) : Plain (string t)
  | array {items : List Written} (parts : ∀ item ∈ items, Plain item) : Plain (array items)
  | object {fields : List (Text × Written)} (parts : ∀ field ∈ fields, Plain (Prod.snd field)) :
      Plain (object fields)

theorem exact_number {literal : Literal} (fits : literal.number?.isSome = true)
    (h : literal.Plain) (depth : Nat) : Exact depth (number literal fits).value := by
  have hvalue : (number literal fits).value = .number (.integer literal.integer) := by
    rw [value, Option.get_of_eq_some fits (Literal.number?_of_plain h)]
  rw [hvalue]
  exact Exact.integer h.isWord

theorem exact_array {depth : Nat} {items : List Written}
    (h : ∀ item ∈ items, Exact depth item.value) : Exact (depth + 1) (array items).value := by
  rw [value, values_eq_map]
  exact Exact.array (List.forall_mem_map.mpr h)

theorem exact_object {depth : Nat} {fields : List (Text × Written)}
    (h : ∀ field ∈ fields, Exact depth (Prod.snd field).value) :
    Exact (depth + 1) (object fields).value := by
  rw [value, fieldValues_eq_map]
  exact Exact.object (Record.ordered_ofList _)
    (Record.forall_mem_ofList (List.forall_mem_map.mpr h))

theorem exact_of_readScalar {t : Text} {w : Written} {rest : Text}
    (h : readScalar t = .ok (w, rest)) (hplain : w.Plain) (depth : Nat) :
    Exact depth w.value := by
  rcases readScalar_cases h with rfl | ⟨b, rfl⟩ | ⟨literal, fits, rfl⟩ | ⟨_, s, -, -, rfl⟩
  · exact Exact.null
  · exact Exact.bool b
  · cases hplain with
    | number plain => exact exact_number fits plain depth
  · exact Exact.string s

/-- What is left of a value is exact if its literals are plain. -/
theorem exact_of_read {depth : Nat} {t : Text} {w : Written} {rest : Text}
    (h : grammar.read depth t = .ok (w, rest)) : w.Plain → Exact depth w.value := by
  refine Grammar.forall_of_read (P := fun depth w => w.Plain → Exact depth w.value)
    (fun {depth} _ _ _ hread hplain => exact_of_readScalar hread hplain depth)
    (fun ih hplain => ?_) (fun ih hplain => ?_) h
  · cases hplain with
    | array parts => exact exact_array fun item hitem => ih item hitem (parts item hitem)
  · cases hplain with
    | object parts => exact exact_object fun field hfield => ih field hfield (parts field hfield)

/-! ## Repeated keys -/

/-- `w.Contains v`: `v` is `w`, or it stands somewhere in it. -/
inductive Contains : Written → Written → Prop where
  | self (w : Written) : Contains w w
  | item {items : List Written} {item v : Written} (mem : item ∈ items) (part : Contains item v) :
      Contains (array items) v
  | field {fields : List (Text × Written)} {field : Text × Written} {v : Written}
      (mem : field ∈ fields) (part : Contains field.2 v) : Contains (object fields) v

/-- An object in it has a key more than once. -/
def Repeats (w : Written) : Prop :=
  ∃ fields, w.Contains (object fields) ∧ ¬ (fields.map (·.1)).Nodup

theorem repeats_array_iff {items : List Written} :
    (array items).Repeats ↔ ∃ item ∈ items, item.Repeats := by
  constructor
  · rintro ⟨fields, hpart, hkeys⟩
    cases hpart with
    | item mem part => exact ⟨_, mem, fields, part, hkeys⟩
  · rintro ⟨item, mem, fields, part, hkeys⟩
    exact ⟨fields, .item mem part, hkeys⟩

theorem nodup_of_not_repeats {fields : List (Text × Written)} (h : ¬ (object fields).Repeats) :
    (fields.map (·.1)).Nodup :=
  Decidable.byContradiction fun hkeys => h ⟨fields, .self _, hkeys⟩

end Written
end Interpolation.Json
