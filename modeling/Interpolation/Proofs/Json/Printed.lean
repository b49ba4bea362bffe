import Interpolation.Proofs.Json.Integers
import Interpolation.Proofs.Json.Readers
import Interpolation.Proofs.Json.Strings
import Interpolation.Proofs.Record

/-!
# Printed values read back

The text of a value holds all of it, as long as its numbers are integers that have a
literal: the reader finds the value again, whatever stands behind the text.  A row of
elements between brackets reads back if each of its elements does.
-/

namespace Interpolation.Json

variable {α : Type}

/-! ## Rows -/

/-- The elements of a row have commas between them. -/
def row (write : α → Text) : List α → Text
  | [] => []
  | x :: xs => write x ++ xs.flatMap fun y => ',' :: write y

def printField (write : α → Text) (field : Text × α) : Text :=
  quote field.1 ++ ':' :: write field.2

theorem printItems_eq_row (items : List Json) : printItems items = row print items := by
  induction items with
  | nil => rw [printItems, row]
  | cons item rest ih =>
    cases rest with
    | nil =>
      rw [printItems, row, List.flatMap_nil, List.append_nil]
    | cons next rest =>
      rw [printItems, ih, row, row, List.flatMap_cons, List.cons_append]

theorem printFields_eq_row (fields : List (Text × Json)) :
    printFields fields = row (printField print) fields := by
  induction fields with
  | nil => rw [printFields, row]
  | cons field rest ih =>
    cases rest with
    | nil =>
      rw [printFields, row, List.flatMap_nil, List.append_nil, printField]
    | cons next rest =>
      rw [printFields, ih, row, row, List.flatMap_cons]
      simp only [printField, List.append_assoc, List.cons_append]

theorem row_map {β : Type} (write : β → Text) (f : α → β) (xs : List α) :
    row write (xs.map f) = row (fun x => write (f x)) xs := by
  cases xs with
  | nil => rfl
  | cons x xs => rw [List.map_cons, row, row, List.flatMap_map]

/-! ## Reading a row -/

/-- An element can be told from the end of its row by its first character. -/
def Starts (t : Text) : Prop :=
  ∃ c u, t = c :: u ∧ isBlank c = false ∧ c ≠ ']' ∧ c ≠ '}'

theorem skipBlank_cons {c : Char} (h : isBlank c = false) (t : Text) :
    skipBlank (c :: t) = c :: t :=
  List.dropWhile_cons_of_neg (by simp [h])

theorem Starts.exists_cons {t : Text} (h : Starts t) : ∃ c u, t = c :: u ∧ isBlank c = false := by
  obtain ⟨c, u, ht, hblank, -⟩ := h
  exact ⟨c, u, ht, hblank⟩

theorem Starts.skipBlank_append {t : Text} (h : Starts t) (rest : Text) :
    skipBlank (t ++ rest) = t ++ rest := by
  obtain ⟨c, u, rfl, hblank⟩ := h.exists_cons
  exact skipBlank_cons hblank (u ++ rest)

theorem length_le_commas (write : α → Text) (xs : List α) :
    xs.length ≤ (xs.flatMap fun y => ',' :: write y).length := by
  induction xs with
  | nil => exact Nat.le_refl 0
  | cons y ys ih =>
    rw [List.flatMap_cons, List.length_append, List.length_cons, List.length_cons]
    omega

section
variable {close : Char} (hclose : close = ']' ∨ close = '}')
include hclose

theorem Starts.ne_close {c : Char} {t : Text} (h : Starts (c :: t)) : c ≠ close := by
  obtain ⟨d, u, hd, -, harray, hobject⟩ := h
  obtain ⟨rfl, rfl⟩ := List.cons.inj hd
  rcases hclose with rfl | rfl
  · exact harray
  · exact hobject

theorem turn_close (first : Bool) (rest : Text) :
    turn close first (close :: rest) = .ok (.closed rest) := by
  rcases hclose with rfl | rfl <;> rfl

theorem turn_first {t : Text} (h : Starts t) (rest : Text) :
    turn close true (t ++ rest) = .ok (.element (t ++ rest)) := by
  obtain ⟨c, u, rfl, -⟩ := h.exists_cons
  rw [turn, h.skipBlank_append rest]
  exact if_neg (h.ne_close hclose)

theorem turn_comma {t : Text} (h : Starts t) (rest : Text) :
    turn close false (',' :: t ++ rest) = .ok (.element (t ++ rest)) := by
  have hskip := h.skipBlank_append rest
  have hcomma : ',' ≠ close := by
    rcases hclose with rfl | rfl <;> decide
  obtain ⟨c, u, rfl, -⟩ := h.exists_cons
  rw [turn, List.cons_append, skipBlank_cons (by decide)]
  dsimp only
  rw [if_neg hcomma, if_neg Bool.false_ne_true, if_pos rfl, hskip]
  exact if_neg (h.ne_close hclose)

/-- Behind an element stands a comma or the closing bracket. -/
theorem endsNumber_commas (write : α → Text) (xs : List α) (rest : Text) :
    EndsNumber ((xs.flatMap fun y => ',' :: write y) ++ close :: rest) := by
  cases xs with
  | nil => rcases hclose with rfl | rfl <;> exact endsNumber_cons (by decide) rest
  | cons y ys => exact endsNumber_cons (by decide) _

variable {write : α → Text} {element : Reader α} {xs : List α}
  (hstart : ∀ x ∈ xs, Starts (write x))
  (hread : ∀ x ∈ xs, ∀ rest, EndsNumber rest → element (write x ++ rest) = .ok (x, rest))
include hstart hread

/-- The rest of a row after its first element. -/
theorem readElements_commas {bound : Nat} (hbound : xs.length < bound) (rest : Text) :
    readElements close element bound false
      ((xs.flatMap fun y => ',' :: write y) ++ close :: rest) = .ok (xs, rest) := by
  induction xs generalizing bound with
  | nil =>
    obtain ⟨bound, rfl⟩ := Nat.exists_eq_succ_of_ne_zero (Nat.ne_of_gt hbound)
    rw [readElements, List.flatMap_nil, List.nil_append, turn_close hclose]
    rfl
  | cons x xs ih =>
    obtain ⟨bound, rfl⟩ := Nat.exists_eq_succ_of_ne_zero (Nat.ne_of_gt (Nat.zero_lt_of_lt hbound))
    obtain ⟨hx, hxs⟩ := List.forall_mem_cons.mp hstart
    obtain ⟨hreadx, hreadxs⟩ := List.forall_mem_cons.mp hread
    have htail := ih hxs hreadxs (Nat.lt_of_succ_lt_succ hbound)
    rw [readElements, List.flatMap_cons, List.append_assoc, turn_comma hclose hx]
    show (element (write x ++ _) >>= _) = _
    rw [hreadx _ (endsNumber_commas hclose write xs rest)]
    show (readElements close element bound false _ >>= _) = _
    rw [htail]
    rfl

theorem readAll_row (rest : Text) :
    readAll close element (row write xs ++ close :: rest) = .ok (xs, rest) := by
  cases xs with
  | nil =>
    show readElements close element (rest.length + 1 + 1) true (close :: rest) = _
    rw [readElements, turn_close hclose]
    rfl
  | cons x xs =>
    obtain ⟨hx, hxs⟩ := List.forall_mem_cons.mp hstart
    obtain ⟨hreadx, hreadxs⟩ := List.forall_mem_cons.mp hread
    have hbound : xs.length < (row write (x :: xs) ++ close :: rest).length := by
      have hcommas := length_le_commas write xs
      rw [row, List.length_append, List.length_append, List.length_cons]
      omega
    have htail := readElements_commas hclose hxs hreadxs hbound rest
    rw [row, List.append_assoc] at htail ⊢
    rw [readAll, readElements, turn_first hclose hx]
    show (element (write x ++ _) >>= _) = _
    rw [hreadx _ (endsNumber_commas hclose write xs rest)]
    show (readElements close element _ false _ >>= _) = _
    rw [htail]
    rfl

end

theorem starts_printField (write : α → Text) (field : Text × α) :
    Starts (printField write field) :=
  ⟨'"', _, rfl, by decide, by decide, by decide⟩

theorem readField_printField {value : Reader α} {write : α → Text} {field : Text × α}
    {rest : Text} (h : value (write field.2 ++ rest) = .ok (field.2, rest)) :
    readField readString value (printField write field ++ rest) = .ok (field, rest) := by
  have hkey : readKey readString (printField write field ++ rest) =
      .ok (field.1, ':' :: write field.2 ++ rest) := by
    rw [printField, List.append_assoc, quote_append]
    exact readString_quoted field.1 _
  rw [readField, hkey]
  show (value (write field.2 ++ rest) >>= _) = _
  rw [h]
  rfl

/-! ## Scalars -/

/-- A number is told from everything else by its first character. -/
theorem numeral_start {c : Char} (h : c = '-' ∨ c.isDigit = true) :
    isBlank c = false ∧ ∀ d ∈ ['n', 't', 'f', '"', '[', '{', ']', '}'], c ≠ d := by
  have hblank : isBlank c ≠ true := by
    intro hblank
    simp only [isBlank, Bool.or_eq_true, beq_iff_eq] at hblank
    rcases hblank with ((rfl | rfl) | rfl) | rfl <;> exact absurd h (by decide)
  refine ⟨Bool.eq_false_iff.mpr hblank, ?_⟩
  rintro d hd rfl
  simp only [List.mem_cons, List.not_mem_nil, or_false] at hd
  rcases hd with rfl | rfl | rfl | rfl | rfl | rfl | rfl | rfl <;> exact absurd h (by decide)

theorem readScalar_numeral {c : Char} (h : c = '-' ∨ c.isDigit = true) (t : Text) :
    readScalar (c :: t) = (readNumber (c :: t)).map fun r => (number r.1, r.2) := by
  obtain ⟨-, hne⟩ := numeral_start h
  rw [readScalar, if_pos h]
  · cases readNumber (c :: t) <;> rfl
  all_goals exact hne _ (by decide)

theorem read_scalar_cons {c : Char} (hblank : isBlank c = false) (hne : c ≠ '[' ∧ c ≠ '{')
    (depth : Nat) (t : Text) : grammar.read depth (c :: t) = readScalar (c :: t) := by
  have hskip := skipBlank_cons hblank t
  rw [grammar.read_scalar depth (by rw [hskip]; exact fun d hd => Option.some.inj hd ▸ hne), hskip]
  rfl

/-! ## Values -/

/-- The values in at most `depth` brackets that hold integers with a literal and no
other numbers, and whose fields stand in order. -/
inductive Exact : Nat → Json → Prop where
  | null {depth : Nat} : Exact depth null
  | bool {depth : Nat} (b : Bool) : Exact depth (bool b)
  | integer {depth : Nat} {n : Int} (word : IsWord n) : Exact depth (number (.integer n))
  | string {depth : Nat} (t : Text) : Exact depth (string t)
  | array {depth : Nat} {items : List Json} (parts : ∀ item ∈ items, Exact depth item) :
      Exact (depth + 1) (array items)
  | object {depth : Nat} {fields : Record Json} (ordered : Record.Ordered fields)
      (parts : ∀ field ∈ fields, Exact depth (Prod.snd field)) : Exact (depth + 1) (object fields)

namespace Exact

variable {depth : Nat} {j : Json}

theorem mono {more : Nat} (h : Exact depth j) (hle : depth ≤ more) : Exact more j := by
  induction h generalizing more with
  | null => exact null
  | bool b => exact bool b
  | integer word => exact integer word
  | string t => exact string t
  | array parts ih =>
    obtain ⟨more, rfl⟩ := Nat.exists_eq_add_one_of_ne_zero (Nat.ne_of_gt (Nat.zero_lt_of_lt hle))
    exact array fun item hitem => ih item hitem (Nat.le_of_succ_le_succ hle)
  | object ordered parts ih =>
    obtain ⟨more, rfl⟩ := Nat.exists_eq_add_one_of_ne_zero (Nat.ne_of_gt (Nat.zero_lt_of_lt hle))
    exact object ordered fun field hfield => ih field hfield (Nat.le_of_succ_le_succ hle)

theorem starts_print (h : Exact depth j) : Starts j.print := by
  cases h with
  | null => exact ⟨'n', _, rfl, by decide, by decide, by decide⟩
  | bool b => cases b <;> exact ⟨_, _, rfl, by decide, by decide, by decide⟩
  | @integer _ n word =>
    obtain ⟨c, t, ht, hc⟩ := exists_ofInt_eq_cons n
    obtain ⟨hblank, hne⟩ := numeral_start hc
    exact ⟨c, t, ht, hblank, hne _ (by decide), hne _ (by decide)⟩
  | string t => exact ⟨'"', _, rfl, by decide, by decide, by decide⟩
  | array parts => exact ⟨'[', _, rfl, by decide, by decide, by decide⟩
  | object ordered parts => exact ⟨'{', _, rfl, by decide, by decide, by decide⟩

theorem read_print (h : Exact depth j) {rest : Text} (hrest : EndsNumber rest) :
    grammar.read depth (j.print ++ rest) = .ok (j, rest) := by
  induction h generalizing rest with
  | null =>
    show grammar.read _ ('n' :: ("ull".toList ++ rest)) = _
    rw [read_scalar_cons (by decide) (by decide)]
    rfl
  | bool b =>
    cases b with
    | false =>
      show grammar.read _ ('f' :: ("alse".toList ++ rest)) = _
      rw [read_scalar_cons (by decide) (by decide)]
      rfl
    | true =>
      show grammar.read _ ('t' :: ("rue".toList ++ rest)) = _
      rw [read_scalar_cons (by decide) (by decide)]
      rfl
  | @integer depth n word =>
    have hnumber := readNumber_ofInt word hrest
    obtain ⟨c, t, ht, hc⟩ := exists_ofInt_eq_cons n
    obtain ⟨hblank, hne⟩ := numeral_start hc
    show grammar.read depth (Text.ofInt n ++ rest) = _
    rw [ht, List.cons_append] at hnumber ⊢
    rw [read_scalar_cons hblank ⟨hne _ (by decide), hne _ (by decide)⟩, readScalar_numeral hc,
      hnumber]
    rfl
  | string t => exact read_quote_append _ t rest
  | @array depth items parts ih =>
    have hitems := readAll_row (Or.inl rfl) (fun item hitem => (parts item hitem).starts_print)
      (fun item hitem _ hend => ih item hitem hend) rest
    have hprint : (Json.array items).print ++ rest = '[' :: (row print items ++ ']' :: rest) := by
      rw [print, printItems_eq_row, List.cons_append, List.cons_append, List.append_assoc,
        List.singleton_append]
    rw [hprint, grammar.read_array depth (skipBlank_cons (by decide) _), hitems]
    rfl
  | @object depth fields ordered parts ih =>
    have hfields := readAll_row (Or.inr rfl) (fun field _ => starts_printField print field)
      (fun field hfield _ hend => readField_printField (ih field hfield hend)) rest
    have hprint : (Json.object fields).print ++ rest =
        '{' :: (row (printField print) fields ++ '}' :: rest) := by
      rw [print, printFields_eq_row, List.cons_append, List.cons_append, List.append_assoc,
        List.singleton_append]
    have hstring : grammar.string = readString := rfl
    rw [hprint, grammar.read_object depth (skipBlank_cons (by decide) _), hstring, hfields]
    show Except.ok (Json.object (Record.ofList fields), rest) = _
    rw [Record.ofList_of_ordered ordered]

end Exact

theorem parse_print {j : Json} (h : Exact maxDepth j) : parse j.print = .ok j := by
  have hread := h.read_print endsNumber_nil
  rw [List.append_nil] at hread
  exact readWhole_of_read hread

end Interpolation.Json
