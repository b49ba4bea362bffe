import Interpolation.Json.Reader

/-!
# What readers keep

All values are read in the same way, whatever is made of their parts.  So readings by
two grammars go together if what they make of the parts does; and a property of scalars
that arrays and objects take over from their parts holds of every value that is read.
-/

namespace Interpolation.Json

variable {α β : Type}

theorem ok_of_bind {x : Except Error α} {f : α → Except Error β} {b : β} (h : x >>= f = .ok b) :
    ∃ a, x = .ok a ∧ f a = .ok b := by
  cases x with
  | error e => cases h
  | ok a => exact ⟨a, rfl, h⟩

theorem ok_of_map {x : Except Error α} {f : α → β} {b : β} (h : x.map f = .ok b) :
    ∃ a, x = .ok a ∧ f a = b := by
  cases x with
  | error e => cases h
  | ok a => exact ⟨a, rfl, Except.ok.inj h⟩

/-- Read in the same way, and make something else of it. -/
def Reader.map (f : α → β) (reader : Reader α) : Reader β :=
  fun t => (reader t).map fun r => (f r.1, r.2)

/-! ## Elements and fields -/

theorem readElements_map (f : α → β) (element : Reader α) (close : Char) (bound : Nat)
    (first : Bool) (t : Text) :
    readElements close (element.map f) bound first t =
      (readElements close element bound first t).map fun r => (r.1.map f, r.2) := by
  induction bound generalizing first t with
  | zero => rfl
  | succ bound ih =>
    rw [readElements, readElements]
    cases turn close first t with
    | error e => rfl
    | ok next =>
      cases next with
      | closed rest => rfl
      | element start =>
        show (Reader.map f element start >>= _) = Except.map _ (element start >>= _)
        rw [Reader.map]
        cases element start with
        | error e => rfl
        | ok r =>
          show (readElements close (element.map f) bound false r.2 >>= _) =
            Except.map _ (readElements close element bound false r.2 >>= _)
          rw [ih]
          cases readElements close element bound false r.2 <;> rfl

theorem readAll_map (f : α → β) (element : Reader α) (close : Char) (t : Text) :
    readAll close (element.map f) t = (readAll close element t).map fun r => (r.1.map f, r.2) :=
  readElements_map f element close (t.length + 1) true t

theorem readField_map (f : α → β) (string : Reader Text) (value : Reader α) :
    readField string (value.map f) =
      (readField string value).map fun field => (field.1, f field.2) := by
  funext t
  show (readKey string t >>= _) = Except.map _ (readKey string t >>= _)
  cases readKey string t with
  | error e => rfl
  | ok key =>
    show (readColon key.2 >>= _) = Except.map _ (readColon key.2 >>= _)
    cases readColon key.2 with
    | error e => rfl
    | ok start =>
      show (Reader.map f value start >>= _) = Except.map _ (value start >>= _)
      rw [Reader.map]
      cases value start <;> rfl

theorem readElements_closed {element : Reader α} {close : Char} {first : Bool} {t rest : Text}
    (h : turn close first t = .ok (.closed rest)) (bound : Nat) :
    readElements close element (bound + 1) first t = .ok ([], rest) := by
  rw [readElements, h]
  rfl

theorem readElements_element {element : Reader α} {close : Char} {bound : Nat} {first : Bool}
    {t start after rest : Text} {x : α} {xs : List α}
    (h : turn close first t = .ok (.element start)) (hx : element start = .ok (x, after))
    (hxs : readElements close element bound false after = .ok (xs, rest)) :
    readElements close element (bound + 1) first t = .ok (x :: xs, rest) := by
  rw [readElements, h]
  show (element start >>= _) = _
  rw [hx]
  show (readElements close element bound false after >>= _) = _
  rw [hxs]
  rfl

/-- Elements were read up to the closing bracket at once, or after one more element. -/
theorem readElements_cases {element : Reader α} {close : Char} {bound : Nat} {first : Bool}
    {t rest : Text} {xs : List α}
    (h : readElements close element bound first t = .ok (xs, rest)) :
    ∃ below, bound = below + 1 ∧
      ((turn close first t = .ok (.closed rest) ∧ xs = []) ∨
        ∃ start x after others, turn close first t = .ok (.element start) ∧
          element start = .ok (x, after) ∧
          readElements close element below false after = .ok (others, rest) ∧
          xs = x :: others) := by
  cases bound with
  | zero => cases h
  | succ below =>
    obtain ⟨next, hnext, h⟩ := ok_of_bind h
    refine ⟨below, rfl, ?_⟩
    cases next with
    | closed after =>
      cases h
      exact Or.inl ⟨hnext, rfl⟩
    | element start =>
      obtain ⟨⟨x, after⟩, hx, h⟩ := ok_of_bind h
      obtain ⟨⟨others, last⟩, hothers, h⟩ := ok_of_bind h
      cases h
      exact Or.inr ⟨start, x, after, others, hnext, hx, hothers, rfl⟩

theorem turn_eq_closed_iff {close : Char} {first : Bool} {t rest : Text} :
    turn close first t = .ok (.closed rest) ↔ skipBlank t = close :: rest := by
  unfold turn
  cases skipBlank t with
  | nil => simp
  | cons c u =>
    dsimp only
    by_cases hclose : c = close
    · subst hclose
      simp
    · cases first with
      | true => simp [hclose]
      | false =>
        by_cases hcomma : c = ','
        · subst hcomma
          cases skipBlank u with
          | nil => simp [hclose]
          | cons d v => by_cases hd : d = close <;> simp [hclose, hd]
        · simp [hclose, hcomma]

/-- One element and no other stands before the closing bracket. -/
theorem readAll_eq_singleton_iff {element : Reader α} {close : Char} {t rest : Text} {x : α} :
    readAll close element t = .ok ([x], rest) ↔
      ∃ start after, turn close true t = .ok (.element start) ∧
        element start = .ok (x, after) ∧ skipBlank after = close :: rest := by
  constructor
  · intro h
    obtain ⟨below, -, ⟨-, hnil⟩ | ⟨start, y, after, others, hturn, hy, hothers, hxs⟩⟩ :=
      readElements_cases h
    · cases hnil
    · obtain ⟨rfl, rfl⟩ := List.cons.inj hxs
      obtain ⟨_, -, ⟨hclosed, -⟩ | ⟨_, _, _, _, -, -, -, hmore⟩⟩ := readElements_cases hothers
      · exact ⟨start, after, hturn, hy, turn_eq_closed_iff.mp hclosed⟩
      · cases hmore
  · rintro ⟨start, after, hturn, hx, hclosed⟩
    cases t with
    | nil => cases hturn
    | cons c u =>
      have hend : readElements close element (u.length + 1) false after = .ok ([], rest) :=
        readElements_closed (turn_eq_closed_iff.mpr hclosed) u.length
      exact readElements_element hturn hx hend

theorem readField_eq_ok_iff {string : Reader Text} {value : Reader α} {t rest : Text}
    {field : Text × α} :
    readField string value t = .ok (field, rest) ↔
      ∃ colon start, readKey string t = .ok (field.1, colon) ∧ readColon colon = .ok start ∧
        value start = .ok (field.2, rest) := by
  constructor
  · intro h
    obtain ⟨⟨key, colon⟩, hkey, h⟩ := ok_of_bind h
    obtain ⟨start, hcolon, h⟩ := ok_of_bind h
    obtain ⟨⟨v, after⟩, hv, h⟩ := ok_of_bind h
    cases h
    exact ⟨colon, start, hkey, hcolon, hv⟩
  · rintro ⟨colon, start, hkey, hcolon, hv⟩
    rw [readField, hkey]
    show (readColon colon >>= _) = _
    rw [hcolon]
    show (value start >>= _) = _
    rw [hv]
    rfl

theorem forall_of_readElements {P : α → Prop} {element : Reader α}
    (h : ∀ {t x rest}, element t = .ok (x, rest) → P x) {close : Char} {bound : Nat}
    {first : Bool} {t : Text} {xs : List α} {rest : Text}
    (hread : readElements close element bound first t = .ok (xs, rest)) : ∀ x ∈ xs, P x := by
  induction bound generalizing first t xs with
  | zero => cases hread
  | succ bound ih =>
    obtain ⟨below, hbelow, ⟨-, rfl⟩ | ⟨start, x, after, others, -, hx, hothers, rfl⟩⟩ :=
      readElements_cases hread
    · exact fun x hx => absurd hx List.not_mem_nil
    · obtain rfl : bound = below := Nat.succ.inj hbelow
      exact List.forall_mem_cons.mpr ⟨h hx, ih hothers⟩

theorem value_of_readField {P : α → Prop} {string : Reader Text} {value : Reader α}
    (h : ∀ {t x rest}, value t = .ok (x, rest) → P x) {t : Text} {field : Text × α} {rest : Text}
    (hread : readField string value t = .ok (field, rest)) : P field.2 := by
  obtain ⟨_, _, -, -, hv⟩ := readField_eq_ok_iff.mp hread
  exact h hv

/-! ## Values -/

/-- A text starts with one of the brackets, or with neither. -/
theorem bracket_cases (t : Text) :
    (∃ u, t = '[' :: u) ∨ (∃ u, t = '{' :: u) ∨ ∀ c ∈ t.head?, c ≠ '[' ∧ c ≠ '{' := by
  cases t with
  | nil => exact Or.inr (Or.inr fun c hc => absurd hc (by simp))
  | cons c u =>
    by_cases harray : c = '['
    · exact Or.inl ⟨u, by rw [harray]⟩
    · by_cases hobject : c = '{'
      · exact Or.inr (Or.inl ⟨u, by rw [hobject]⟩)
      · exact Or.inr (Or.inr fun d hd => Option.some.inj hd ▸ ⟨harray, hobject⟩)

namespace Grammar

section
variable (g : Grammar α) {t u : Text} (depth : Nat)

theorem read_scalar (h : ∀ c ∈ (skipBlank t).head?, c ≠ '[' ∧ c ≠ '{') :
    g.read depth t = g.scalar (skipBlank t) := by
  cases depth <;>
  · unfold read
    split
    · rename_i hstart
      exact absurd rfl (h '[' (by rw [hstart]; rfl)).1
    · rename_i hstart
      exact absurd rfl (h '{' (by rw [hstart]; rfl)).2
    · rfl

theorem read_zero_array (h : skipBlank t = '[' :: u) : g.read 0 t = .error .malformed := by
  rw [read, h]
  rfl

theorem read_zero_object (h : skipBlank t = '{' :: u) : g.read 0 t = .error .malformed := by
  rw [read, h]
  rfl

theorem read_array (h : skipBlank t = '[' :: u) :
    g.read (depth + 1) t = (readAll ']' (g.read depth) u).map fun r => (g.array r.1, r.2) := by
  rw [read, h]
  show (readAll ']' (g.read depth) u >>= _) = _
  cases readAll ']' (g.read depth) u <;> rfl

theorem read_object (h : skipBlank t = '{' :: u) :
    g.read (depth + 1) t =
      (readAll '}' (readField g.string (g.read depth)) u).map fun r => (g.object r.1, r.2) := by
  rw [read, h]
  show (readAll '}' (readField g.string (g.read depth)) u >>= _) = _
  cases readAll '}' (readField g.string (g.read depth)) u <;> rfl

end

/-- What the second grammar makes of the parts of a value is what `f` makes of what the
first one does. -/
structure Maps (f : α → β) (g : Grammar α) (other : Grammar β) : Prop where
  scalar : other.scalar = g.scalar.map f
  string : other.string = g.string
  array : ∀ items, other.array (items.map f) = f (g.array items)
  object : ∀ fields,
    other.object (fields.map fun field => (field.1, f field.2)) = f (g.object fields)

theorem Maps.read {f : α → β} {g : Grammar α} {other : Grammar β} (h : Maps f g other)
    (depth : Nat) : other.read depth = (g.read depth).map f := by
  induction depth with
  | zero =>
    funext t
    rw [Reader.map]
    rcases bracket_cases (skipBlank t) with ⟨u, hu⟩ | ⟨u, hu⟩ | hu
    · rw [other.read_zero_array hu, g.read_zero_array hu]
      rfl
    · rw [other.read_zero_object hu, g.read_zero_object hu]
      rfl
    · rw [other.read_scalar 0 hu, g.read_scalar 0 hu, h.scalar, Reader.map]
  | succ depth ih =>
    funext t
    rw [Reader.map]
    rcases bracket_cases (skipBlank t) with ⟨u, hu⟩ | ⟨u, hu⟩ | hu
    · rw [other.read_array depth hu, g.read_array depth hu, ih, readAll_map]
      cases readAll ']' (g.read depth) u with
      | error e => rfl
      | ok r => exact congrArg (fun x => Except.ok (x, r.2)) (h.array r.1)
    · rw [other.read_object depth hu, g.read_object depth hu, ih, h.string, readField_map,
        readAll_map]
      cases readAll '}' (readField g.string (g.read depth)) u with
      | error e => rfl
      | ok r => exact congrArg (fun x => Except.ok (x, r.2)) (h.object r.1)
    · rw [other.read_scalar (depth + 1) hu, g.read_scalar (depth + 1) hu, h.scalar, Reader.map]

/-- A value was read between square brackets, between curly ones, or as a scalar. -/
theorem read_cases {g : Grammar α} {depth : Nat} {t : Text} {x : α} {rest : Text}
    (h : g.read depth t = .ok (x, rest)) :
    (∃ u below items, skipBlank t = '[' :: u ∧ depth = below + 1 ∧
      readAll ']' (g.read below) u = .ok (items, rest) ∧ x = g.array items) ∨
    (∃ u below fields, skipBlank t = '{' :: u ∧ depth = below + 1 ∧
      readAll '}' (readField g.string (g.read below)) u = .ok (fields, rest) ∧
        x = g.object fields) ∨
    g.scalar (skipBlank t) = .ok (x, rest) := by
  rcases bracket_cases (skipBlank t) with ⟨u, hu⟩ | ⟨u, hu⟩ | hu
  · cases depth with
    | zero =>
      rw [g.read_zero_array hu] at h
      cases h
    | succ below =>
      rw [g.read_array below hu] at h
      obtain ⟨r, hitems, hr⟩ := ok_of_map h
      cases hr
      exact Or.inl ⟨u, below, r.1, hu, rfl, hitems, rfl⟩
  · cases depth with
    | zero =>
      rw [g.read_zero_object hu] at h
      cases h
    | succ below =>
      rw [g.read_object below hu] at h
      obtain ⟨r, hfields, hr⟩ := ok_of_map h
      cases hr
      exact Or.inr (Or.inl ⟨u, below, r.1, hu, rfl, hfields, rfl⟩)
  · rw [g.read_scalar depth hu] at h
    exact Or.inr (Or.inr h)

/-- Everything that is read at some depth has a property, if scalars have it at every
depth and arrays and objects one deeper than their parts. -/
theorem forall_of_read {P : Nat → α → Prop} {g : Grammar α}
    (hscalar : ∀ {depth t x rest}, g.scalar t = .ok (x, rest) → P depth x)
    (harray : ∀ {depth items}, (∀ x ∈ items, P depth x) → P (depth + 1) (g.array items))
    (hobject : ∀ {depth fields},
      (∀ field ∈ fields, P depth (Prod.snd field)) → P (depth + 1) (g.object fields))
    {depth : Nat} {t : Text} {x : α} {rest : Text} (h : g.read depth t = .ok (x, rest)) :
    P depth x := by
  induction depth using Nat.strongRecOn generalizing t x rest with
  | ind depth ih =>
    rcases read_cases h with ⟨u, below, items, -, rfl, hitems, rfl⟩ |
      ⟨u, below, fields, -, rfl, hfields, rfl⟩ | hx
    · have hbelow : ∀ {t x rest}, g.read below t = .ok (x, rest) → P below x :=
        ih below (Nat.lt_succ_self below)
      exact harray (forall_of_readElements hbelow hitems)
    · have hbelow : ∀ {t x rest}, g.read below t = .ok (x, rest) → P below x :=
        ih below (Nat.lt_succ_self below)
      exact hobject (forall_of_readElements (fun hfield => value_of_readField hbelow hfield) hfields)
    · exact hscalar hx

end Grammar

theorem readWhole_eq_ok_iff {reader : Reader α} {t : Text} {x : α} :
    readWhole reader t = .ok x ↔
      ∃ rest, reader t = .ok (x, rest) ∧ (skipBlank rest).isEmpty = true := by
  constructor
  · intro h
    obtain ⟨⟨y, rest⟩, hread, h⟩ := ok_of_bind h
    change (if (skipBlank rest).isEmpty then Except.ok y else .error Error.malformed) = _ at h
    by_cases hrest : (skipBlank rest).isEmpty = true
    · rw [if_pos hrest] at h
      cases h
      exact ⟨rest, hread, hrest⟩
    · rw [if_neg hrest] at h
      cases h
  · rintro ⟨rest, hread, hrest⟩
    rw [readWhole, hread]
    exact if_pos hrest

theorem readWhole_map (f : α → β) (reader : Reader α) (t : Text) :
    readWhole (reader.map f) t = (readWhole reader t).map f := by
  rw [readWhole, readWhole, Reader.map]
  cases reader t with
  | error e => rfl
  | ok r =>
    show (if (skipBlank r.2).isEmpty then pure (f r.1) else throw Error.malformed) =
      Except.map f (if (skipBlank r.2).isEmpty then pure r.1 else throw Error.malformed)
    split <;> rfl

end Interpolation.Json
