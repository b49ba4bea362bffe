import Interpolation.Session

/-!
# What steps do to a state

Many kinds of steps make few kinds of changes.  `State.Makes` tells which step makes
which change and when it can; a step that cannot leaves the state as it was.  What
every change keeps, every step keeps, and so does every run.
-/

namespace Interpolation.Session

/-- A change of a state, at most in one place. -/
inductive Change where
  | keep
  | put (slot : Text) (pattern : Pattern)
  | drop (slot : Text)
  | bind (key : Text) (value : Value)
  | unbind (key : Text)
  /-- More text at the end of the buffer. -/
  | add (text : Text)
  | clear

def Change.apply (s : State) : Change → State
  | keep => s
  | put slot p => { s with slots := s.slots.insert slot p }
  | drop slot => { s with slots := s.slots.erase slot }
  | bind key v => { s with env := s.env.insert key v }
  | unbind key => { s with env := s.env.erase key }
  | add t => { s with buffer := s.buffer ++ t }
  | clear => { s with buffer := [] }

namespace State

/-- The steps that can be done in a state, each with the change that it makes. -/
inductive Makes (s : State) : Step → Change → Prop
  | compile {slot source p} : Pattern.compile source = .ok p →
      Makes s (.compile slot source) (.put slot p)
  | default {slot} : Makes s (.default slot) (.put slot .empty)
  | clone {slot target p} : s.slots.get? slot = some p → Makes s (.clone slot target) (.put target p)
  | recompile {slot target p q} : s.slots.get? slot = some p → p.recompile = .ok q →
      Makes s (.recompile slot target) (.put target q)
  | roundTrip {slot target p q} : s.slots.get? slot = some p → p.throughJson = .ok q →
      Makes s (.roundTrip slot target) (.put target q)
  | compose {slot target missing p q} : s.slots.get? slot = some p →
      Pattern.compile (p.render s.table missing) = .ok q →
      Makes s (.compose slot target missing) (.put target q)
  | intoSymbols {slot p} : s.slots.get? slot = some p → Makes s (.intoSymbols slot) (.drop slot)
  | equal {slot target p q} : s.slots.get? slot = some p → s.slots.get? target = some q →
      Makes s (.equal slot target) .keep
  | describe {slot p} : s.slots.get? slot = some p → Makes s (.describe slot) .keep
  | set {key given v} : given.make = .ok v → Makes s (.set key given) (.bind key v)
  | setSlot {slot key p} : s.slots.get? slot = some p →
      Makes s (.setSlot slot key) (.bind key (.pattern p))
  | unset {key} : Makes s (.unset key) (.unbind key)
  | render {slot missing p} : s.slots.get? slot = some p → Makes s (.render slot missing) .keep
  | append {slot missing p} : s.slots.get? slot = some p →
      Makes s (.append slot missing) (.add (p.render s.table missing))
  | write {slot p} : s.slots.get? slot = some p → Makes s (.write slot) (.add p.source)
  | flush : Makes s .flush .clear

variable {s s' : State} {a : Answer}

/-! ## The parts of a step -/

theorem pattern_eq {slot : Text} {p : Pattern} (h : s.slots.get? slot = some p) :
    s.pattern slot = .ok p := by
  rw [pattern, h]

theorem pattern_bind {α : Type} {slot : Text} {p : Pattern} (h : s.slots.get? slot = some p)
    (f : Pattern → Except Failure α) : (s.pattern slot >>= f) = f p := by
  rw [pattern_eq h]
  rfl

theorem get?_of_pattern_bind {α : Type} {slot : Text} {f : Pattern → Except Failure α} {x : α}
    (h : (s.pattern slot >>= f) = .ok x) : ∃ p, s.slots.get? slot = some p ∧ f p = .ok x := by
  unfold pattern at h
  cases hp : s.slots.get? slot with
  | some p =>
    rw [hp] at h
    exact ⟨p, rfl, h⟩
  | none =>
    rw [hp] at h
    cases h

theorem eq_ok_of_mapError {ε δ α : Type} {f : ε → δ} {r : Except ε α} {x : α}
    (h : r.mapError f = .ok x) : r = .ok x := by
  cases r with
  | ok y => exact congrArg _ (Except.ok.inj h)
  | error e => cases h

theorem store_ok {slot : Text} {r : Except Refusal Pattern} (h : s.store slot r = .ok (a, s')) :
    ∃ p, r = .ok p ∧ a = .stored p.size p.source ∧ s' = (Change.put slot p).apply s := by
  cases r with
  | ok p =>
    obtain ⟨ha, hs⟩ := Prod.mk.inj (Except.ok.inj h)
    exact ⟨p, rfl, ha.symm, hs.symm⟩
  | error e => cases h

theorem compileInto_ok {slot source : Text} (h : s.compileInto slot source = .ok (a, s')) :
    ∃ p, Pattern.compile source = .ok p ∧ s' = (Change.put slot p).apply s := by
  obtain ⟨p, hp, -, hs⟩ := store_ok h
  exact ⟨p, eq_ok_of_mapError hp, hs⟩

theorem next_of_get?_none {st : Step} {slot : Text}
    {f : Pattern → Except Failure (Answer × State)} (hst : s.step st = s.pattern slot >>= f)
    (h : s.slots.get? slot = none) : s.next st = (.error .noSuchSlot, s) := by
  rw [next, hst, pattern, h]
  rfl

theorem compileInto_eq {source : Text} {p : Pattern} (h : Pattern.compile source = .ok p)
    {slot : Text} : s.compileInto slot source = s.store slot (.ok p) := by
  rw [compileInto, h]
  rfl

theorem next_of_step {st : Step} (h : s.step st = .ok (a, s')) : s.next st = (.ok a, s') := by
  rw [next, h]

theorem next_of_store {st : Step} {slot : Text} {p : Pattern}
    (h : s.step st = s.store slot (.ok p)) :
    s.next st = (.ok (.stored p.size p.source), (Change.put slot p).apply s) := by
  rw [next, h]
  rfl

/-! ## Steps and runs -/

/-- A step that can be done makes one of the changes. -/
theorem makes_of_step {st : Step} (h : s.step st = .ok (a, s')) :
    ∃ c, s.Makes st c ∧ s' = c.apply s := by
  cases st with
  | compile slot source =>
    obtain ⟨p, hp, hs⟩ := compileInto_ok h
    exact ⟨_, .compile hp, hs⟩
  | default slot =>
    have hstore : s.store slot (.ok .empty) = .ok (a, s') := h
    obtain ⟨p, hp, -, hs⟩ := store_ok hstore
    cases hp
    exact ⟨_, .default, hs⟩
  | clone slot target =>
    obtain ⟨p, hp, hstore⟩ := get?_of_pattern_bind h
    obtain ⟨q, hq, -, hs⟩ := store_ok hstore
    cases hq
    exact ⟨_, .clone hp, hs⟩
  | recompile slot target =>
    obtain ⟨p, hp, hstore⟩ := get?_of_pattern_bind h
    obtain ⟨q, hq, hs⟩ := compileInto_ok hstore
    exact ⟨_, .recompile hp hq, hs⟩
  | roundTrip slot target =>
    obtain ⟨p, hp, hstore⟩ := get?_of_pattern_bind h
    obtain ⟨q, hq, -, hs⟩ := store_ok hstore
    exact ⟨_, .roundTrip hp (eq_ok_of_mapError hq), hs⟩
  | compose slot target missing =>
    obtain ⟨p, hp, hstore⟩ := get?_of_pattern_bind h
    obtain ⟨q, hq, hs⟩ := compileInto_ok hstore
    exact ⟨_, .compose hp hq, hs⟩
  | intoSymbols slot =>
    obtain ⟨p, hp, hdone⟩ := get?_of_pattern_bind h
    cases hdone
    exact ⟨_, .intoSymbols hp, rfl⟩
  | equal slot target =>
    obtain ⟨p, hp, hrest⟩ := get?_of_pattern_bind h
    obtain ⟨q, hq, hdone⟩ := get?_of_pattern_bind hrest
    cases hdone
    exact ⟨_, .equal hp hq, rfl⟩
  | describe slot =>
    obtain ⟨p, hp, hdone⟩ := get?_of_pattern_bind h
    cases hdone
    exact ⟨_, .describe hp, rfl⟩
  | set key given =>
    cases hv : given.make with
    | ok v =>
      simp only [step, hv] at h
      cases h
      exact ⟨_, .set hv, rfl⟩
    | error e =>
      simp only [step, hv] at h
      cases h
  | setSlot slot key =>
    obtain ⟨p, hp, hdone⟩ := get?_of_pattern_bind h
    cases hdone
    exact ⟨_, .setSlot hp, rfl⟩
  | unset key =>
    cases h
    exact ⟨_, .unset, rfl⟩
  | render slot missing =>
    obtain ⟨p, hp, hdone⟩ := get?_of_pattern_bind h
    cases hdone
    exact ⟨_, .render hp, rfl⟩
  | append slot missing =>
    obtain ⟨p, hp, hdone⟩ := get?_of_pattern_bind h
    cases hdone
    exact ⟨_, .append hp, rfl⟩
  | write slot =>
    obtain ⟨p, hp, hdone⟩ := get?_of_pattern_bind h
    cases hdone
    exact ⟨_, .write hp, rfl⟩
  | flush =>
    cases h
    exact ⟨_, .flush, rfl⟩

/-- A change that a step can make is made. -/
theorem next_of_makes {st : Step} {c : Change} (h : s.Makes st c) :
    ∃ a, s.next st = (.ok a, c.apply s) := by
  cases h with
  | compile hp => exact ⟨_, next_of_store (compileInto_eq hp)⟩
  | default => exact ⟨_, next_of_store rfl⟩
  | clone hp => exact ⟨_, next_of_store (pattern_bind hp _)⟩
  | recompile hp hq => exact ⟨_, next_of_store ((pattern_bind hp _).trans (compileInto_eq hq))⟩
  | roundTrip hp hq =>
    refine ⟨_, next_of_store ((pattern_bind hp _).trans ?_)⟩
    rw [hq]
    rfl
  | compose hp hq => exact ⟨_, next_of_store ((pattern_bind hp _).trans (compileInto_eq hq))⟩
  | intoSymbols hp => exact ⟨_, next_of_step (pattern_bind hp _)⟩
  | equal hp hq => exact ⟨_, next_of_step ((pattern_bind hp _).trans (pattern_bind hq _))⟩
  | describe hp => exact ⟨_, next_of_step (pattern_bind hp _)⟩
  | @set key given v hv =>
    refine ⟨.keys (s.env.insert key v).keys, next_of_step ?_⟩
    rw [step, hv]
    rfl
  | setSlot hp => exact ⟨_, next_of_step (pattern_bind hp _)⟩
  | unset => exact ⟨_, rfl⟩
  | render hp => exact ⟨_, next_of_step (pattern_bind hp _)⟩
  | append hp => exact ⟨_, next_of_step (pattern_bind hp _)⟩
  | write hp => exact ⟨_, next_of_step (pattern_bind hp _)⟩
  | flush => exact ⟨_, rfl⟩

/-- A step fails and leaves the state as it was, or makes one change. -/
theorem next_eq (s : State) (st : Step) :
    (∃ e, s.next st = (.error e, s)) ∨
      ∃ a c, s.Makes st c ∧ s.next st = (.ok a, c.apply s) := by
  unfold next
  cases h : s.step st with
  | ok r =>
    obtain ⟨a, s'⟩ := r
    obtain ⟨c, hc, hs⟩ := makes_of_step h
    exact Or.inr ⟨a, c, hc, congrArg (Prod.mk _) hs⟩
  | error e => exact Or.inl ⟨e, rfl⟩

/-- A step leaves the state as it was or makes one change. -/
theorem next_cases (s : State) (st : Step) :
    (s.next st).2 = s ∨ ∃ c, s.Makes st c ∧ (s.next st).2 = c.apply s := by
  rcases next_eq s st with ⟨e, h⟩ | ⟨a, c, hc, h⟩
  · exact Or.inl (congrArg Prod.snd h)
  · exact Or.inr ⟨c, hc, congrArg Prod.snd h⟩

theorem next_eq_self_of_error {st : Step} {e : Failure} (h : (s.next st).1 = .error e) :
    (s.next st).2 = s := by
  rcases next_eq s st with ⟨e', hnext⟩ | ⟨a, c, -, hnext⟩
  · rw [hnext]
  · rw [hnext] at h
    cases h

/-- A step fails exactly if it can make no change. -/
theorem exists_error_iff (s : State) (st : Step) :
    (∃ e, (s.next st).1 = .error e) ↔ ∀ c, ¬ s.Makes st c := by
  constructor
  · rintro ⟨e, he⟩ c hc
    obtain ⟨a, ha⟩ := next_of_makes hc
    rw [ha] at he
    cases he
  · intro hnone
    rcases next_eq s st with ⟨e, he⟩ | ⟨a, c, hc, -⟩
    · exact ⟨e, congrArg Prod.fst he⟩
    · exact absurd hc (hnone c)

/-- What every change keeps holds after a run. -/
theorem run_invariant {P : State → Prop}
    (hchange : ∀ s st c, P s → Makes s st c → P (c.apply s)) (steps : List Step) {s : State}
    (hs : P s) : P (s.run steps).2 := by
  induction steps generalizing s with
  | nil => exact hs
  | cons st rest ih =>
    have hnext : P (s.next st).2 := by
      rcases next_cases s st with h | ⟨c, hc, h⟩
      · rw [h]
        exact hs
      · rw [h]
        exact hchange s st c hs hc
    exact ih hnext

end State
end Interpolation.Session
