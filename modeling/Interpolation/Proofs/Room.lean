import Interpolation.Proofs.Rendering

/-!
# Rendering into limited room

A writer with room for `n` characters takes the first `n` characters of the whole
text.  The texts of a pattern are written one by one, and the run ends with the
first one that goes over the room: its identifier has been asked for, the
identifiers after it have not.
-/

namespace Interpolation

/-- The first `j` texts are the shortest row of them that needs more than `n`
characters. -/
def Text.GoesOver (texts : List Text) (n j : Nat) : Prop :=
  n < (texts.take j).flatten.length ∧ ∀ i < j, (texts.take i).flatten.length ≤ n

namespace Text

theorem goesOver_head {t : Text} {n : Nat} (h : n < t.length) (texts : List Text) :
    GoesOver (t :: texts) n 1 := by
  refine ⟨by simpa using h, fun i hi => ?_⟩
  have hzero : i = 0 := by omega
  subst hzero
  exact Nat.zero_le n

theorem GoesOver.cons {t : Text} {texts : List Text} {n j : Nat} (ht : t.length ≤ n)
    (h : GoesOver texts (n - t.length) j) : GoesOver (t :: texts) n (j + 1) := by
  obtain ⟨hover, hfit⟩ := h
  constructor
  · simp only [List.take_succ_cons, List.flatten_cons, List.length_append]
    omega
  · intro i hi
    cases i with
    | zero => exact Nat.zero_le n
    | succ i =>
      have hprev := hfit i (by omega)
      simp only [List.take_succ_cons, List.flatten_cons, List.length_append]
      omega

theorem GoesOver.lt_length {texts : List Text} {n j : Nat} (h : GoesOver texts n j) :
    n < texts.flatten.length := by
  have hsplit : texts.flatten = (texts.take j).flatten ++ (texts.drop j).flatten := by
    rw [← List.flatten_append, List.take_append_drop]
  have hover := h.1
  rw [hsplit, List.length_append]
  omega

end Text

/-! ## One write -/

namespace Rendering

section
variable (rest : Room → Rendering)

theorem write_of_le {n : Nat} {t : Text} (h : t.length ≤ n) :
    write (some n) t rest =
      { rest (some (n - t.length)) with written := t ++ (rest (some (n - t.length))).written } := by
  have hfits : Room.fits (some n) t = true := decide_eq_true h
  rw [write, if_pos hfits]
  rfl

theorem write_of_lt {n : Nat} {t : Text} (h : n < t.length) :
    write (some n) t rest = ⟨false, t.take n, [], []⟩ := by
  have hfits : ¬ Room.fits (some n) t = true := by
    intro hle
    have : t.length ≤ n := of_decide_eq_true hle
    omega
  rw [write, if_neg hfits]
  rfl

theorem write_nil (room : Room) : write room [] rest = rest room := by
  cases room with
  | none => rfl
  | some n => rw [write_of_le rest (Nat.zero_le n)]; rfl

/-- A text may be written in two parts.  If the first goes over the room, so does
the whole, and both leave what fits of the first. -/
theorem write_append (room : Room) (t u : Text) :
    write room (t ++ u) rest = write room t fun r => write r u rest := by
  cases room with
  | none => simp only [write_unbounded, List.append_assoc]
  | some n =>
    by_cases ht : t.length ≤ n
    · rw [write_of_le _ ht]
      by_cases hu : u.length ≤ n - t.length
      · have hwhole : (t ++ u).length ≤ n := by rw [List.length_append]; omega
        rw [write_of_le rest hwhole, write_of_le rest hu, List.length_append, Nat.sub_add_eq]
        simp only [List.append_assoc]
      · have hwhole : n < (t ++ u).length := by rw [List.length_append]; omega
        rw [write_of_lt rest hwhole, write_of_lt rest (by omega), List.take_append,
          List.take_of_length_le ht]
    · have hwhole : n < (t ++ u).length := by rw [List.length_append]; omega
      rw [write_of_lt rest hwhole, write_of_lt _ (by omega), List.take_append_of_le_length (by omega)]

/-- Write several texts in a row. -/
def writeEach (texts : List Text) : Room → Rendering :=
  texts.foldr (fun t next room => write room t next) rest

theorem writeEach_eq (texts : List Text) (room : Room) :
    writeEach rest texts room = write room texts.flatten rest := by
  induction texts generalizing room with
  | nil => exact (write_nil rest room).symm
  | cons t texts ih =>
    have hnext : writeEach rest texts = fun r => write r texts.flatten rest := funext ih
    rw [List.flatten_cons, write_append, ← hnext]
    rfl

end
end Rendering

/-! ## The writes of a symbol -/

namespace Symbol

variable (table : Table) (missing : Missing)

/-- The writes that a symbol makes.  A kept placeholder takes three of them. -/
def writes : Symbol → List Text
  | literal t => [t]
  | substitution i =>
    match table.lookup i, missing with
    | some value, _ => [value]
    | none, .empty => []
    | none, .keep => [['{'], i, ['}']]

theorem flatten_writes (x : Symbol) :
    (x.writes table missing).flatten = x.contribution table missing := by
  cases x with
  | literal t => exact List.append_nil t
  | substitution i =>
    cases h : table.lookup i with
    | some value => simp [writes, contribution, h]
    | none => cases missing <;> simp [writes, contribution, Missing.text, source, h]

/-- The run in which every symbol makes its own writes. -/
def renderEach : List Symbol → Room → Rendering
  | [], _ => .done
  | x :: rest, room =>
    x.noted table (Rendering.writeEach (renderEach rest) (x.writes table missing) room)

/-- Where a placeholder is cut into its writes cannot be noticed, wherever the room
ends. -/
theorem renderEach_eq_renderAll (symbols : List Symbol) :
    renderEach table missing symbols = renderAll table missing symbols := by
  induction symbols with
  | nil => rfl
  | cons x rest ih =>
    funext room
    rw [renderEach, ih, Rendering.writeEach_eq, flatten_writes, renderAll_cons]

/-! ## All symbols -/

section
variable {table missing} {x : Symbol} {n : Nat}

theorem renderAll_cons_of_le (hx : (x.contribution table missing).length ≤ n)
    (rest : List Symbol) :
    let r := renderAll table missing (x :: rest) (some n)
    let after := renderAll table missing rest (some (n - (x.contribution table missing).length))
    r.ok = after.ok ∧ r.written = x.contribution table missing ++ after.written ∧
      r.lookups = x.identifier?.toList ++ after.lookups := by
  intro r after
  have hr : r = x.noted table
      { after with written := x.contribution table missing ++ after.written } := by
    rw [← Rendering.write_of_le _ hx]
    exact renderAll_cons table missing x rest (some n)
  rw [hr, ok_noted, written_noted, lookups_noted]
  exact ⟨rfl, rfl, rfl⟩

theorem renderAll_cons_of_lt (hx : n < (x.contribution table missing).length)
    (rest : List Symbol) :
    let r := renderAll table missing (x :: rest) (some n)
    r.ok = false ∧ r.written = (x.contribution table missing).take n ∧
      r.lookups = x.identifier?.toList := by
  intro r
  have hr : r = x.noted table ⟨false, (x.contribution table missing).take n, [], []⟩ := by
    rw [← Rendering.write_of_lt _ hx]
    exact renderAll_cons table missing x rest (some n)
  rw [hr, ok_noted, written_noted, lookups_noted, List.append_nil]
  exact ⟨rfl, rfl, rfl⟩

end

theorem identifiers_take_succ (x : Symbol) (rest : List Symbol) (j : Nat) :
    ((x :: rest).take (j + 1)).filterMap identifier? =
      x.identifier?.toList ++ (rest.take j).filterMap identifier? := by
  cases x <;> rfl

theorem renderAll_limited (symbols : List Symbol) (n : Nat) :
    let texts := symbols.map (contribution table missing)
    let r := renderAll table missing symbols (some n)
    r.written = texts.flatten.take n ∧ (r.ok = true ↔ texts.flatten.length ≤ n) ∧
      ∃ j, r.lookups = (symbols.take j).filterMap identifier? ∧
        (Text.GoesOver texts n j ∨ texts.flatten.length ≤ n ∧ j = symbols.length) := by
  induction symbols generalizing n with
  | nil => exact ⟨List.take_nil.symm, by simp [renderAll, Rendering.done], 0, rfl, by simp⟩
  | cons x rest ih =>
    intro texts r
    have htexts : texts.flatten =
        x.contribution table missing ++ (rest.map (contribution table missing)).flatten := rfl
    rw [htexts]
    by_cases hx : (x.contribution table missing).length ≤ n
    · -- The text of `x` fits, and the rest of the run has the room that it leaves.
      obtain ⟨hok, hwritten, hlookups⟩ := renderAll_cons_of_le hx rest
      obtain ⟨ihwritten, ihok, j, ihlookups, hj⟩ := ih (n - (x.contribution table missing).length)
      refine ⟨?_, ?_, j + 1, ?_, ?_⟩
      · rw [hwritten, ihwritten, List.take_append, List.take_of_length_le hx]
      · rw [hok, ihok, List.length_append]
        omega
      · rw [hlookups, ihlookups, identifiers_take_succ]
      · rcases hj with hj | ⟨hfit, rfl⟩
        · exact Or.inl (hj.cons hx)
        · refine Or.inr ⟨?_, rfl⟩
          rw [List.length_append]
          omega
    · -- The run ends with the text of `x`.
      have hlt : n < (x.contribution table missing).length := by omega
      obtain ⟨hok, hwritten, hlookups⟩ := renderAll_cons_of_lt hlt rest
      refine ⟨?_, ?_, 1, ?_, Or.inl (Text.goesOver_head hlt _)⟩
      · rw [hwritten, List.take_append_of_le_length (by omega)]
      · rw [hok, List.length_append]
        simp only [Bool.false_eq_true, false_iff]
        omega
      · rw [hlookups, identifiers_take_succ, List.take_zero, List.filterMap_nil, List.append_nil]

end Symbol

namespace Pattern

/-- The whole text is the row of the texts of the symbols.  A writer with room for
`n` characters holds the first `n` of them afterwards, and the run succeeds if that
is all.  The table has been asked for the identifiers up to the first symbol whose
text goes over the room, or for all of them if none does; that a kept placeholder
is written in three parts makes no difference.  A text that can grow always takes
everything. -/
theorem renderTo_limited (p : Pattern) (table : Table) (missing : Missing) (held : Text)
    (n : Nat) :
    let texts := p.symbols.map (Symbol.contribution table missing)
    let full := p.render table missing
    let limited := p.renderTo ⟨held, some n⟩ table missing
    let grown := p.renderTo (.ofText held) table missing
    full = texts.flatten ∧
      limited.2 = held ++ full.take n ∧ (limited.1.ok = true ↔ full.length ≤ n) ∧
      (∃ j, limited.1.lookups = (⟨p.symbols.take j⟩ : Pattern).identifiers ∧
        (Text.GoesOver texts n j ∨ full.length ≤ n ∧ j = p.size)) ∧
      limited.1 = Symbol.renderEach table missing p.symbols (some n) ∧
      grown.1.ok = true ∧ grown.2 = held ++ full ∧ grown.1.lookups = p.identifiers := by
  intro texts full limited grown
  have hfull : full = texts.flatten := by
    show p.render table missing = _
    rw [render_eq, List.flatMap_def]
  obtain ⟨hwritten, hok, hlookups⟩ := Symbol.renderAll_limited table missing p.symbols n
  have hgrown : grown.1 = _ := Symbol.renderAll_unbounded table missing p.symbols
  refine ⟨hfull, ?_, ?_, ?_, ?_, ?_, ?_, lookups_renderTo table missing p held⟩
  · rw [hfull]
    exact congrArg (held ++ ·) hwritten
  · rw [hfull]
    exact hok
  · rw [hfull]
    exact hlookups
  · rw [Symbol.renderEach_eq_renderAll]
    rfl
  · rw [hgrown]
  · show held ++ grown.1.written = held ++ full
    rw [hgrown, hfull, ← List.flatMap_def]

end Pattern
end Interpolation
