import Interpolation.Proofs.Session.History

/-!
# What a step touches and what it looks at

A step changes at most one place of a state, and none if it fails.  What it answers
and the change that it makes depend only on the slots that it reads, on the entries
for the identifiers that it renders, and on what it reports.  So nothing that happens
elsewhere can be noticed at a place.
-/

namespace Interpolation.Session

/-- A part of a state that a step can change by itself. -/
inductive Place where
  | slot (name : Text)
  | key (name : Text)
  | buffer
deriving DecidableEq

namespace Step

/-- The place that a step may change. -/
def target? : Step → Option Place
  | .compile slot _ | .default slot | .intoSymbols slot => some (.slot slot)
  | .clone _ target | .recompile _ target | .roundTrip _ target | .compose _ target _ =>
    some (.slot target)
  | .set key _ | .setSlot _ key | .unset key => some (.key key)
  | .append _ _ | .write _ | .flush => some .buffer
  | .equal _ _ | .describe _ | .render _ _ => none

/-- The slots that a step looks at. -/
def reads : Step → List Text
  | .compile _ _ | .default _ | .set _ _ | .unset _ | .flush => []
  | .clone slot _ | .recompile slot _ | .roundTrip slot _ | .compose slot _ _ | .intoSymbols slot
  | .describe slot | .setSlot slot _ | .render slot _ | .append slot _ | .write slot => [slot]
  | .equal slot target => [slot, target]

/-- The slot that a step renders. -/
def rendered? : Step → Option Text
  | .compose slot _ _ | .render slot _ | .append slot _ => some slot
  | _ => none

end Step

def Change.target? : Change → Option Place
  | keep => none
  | put slot _ | drop slot => some (.slot slot)
  | bind key _ | unbind key => some (.key key)
  | add _ | clear => some .buffer

namespace State

/-- The second state is the first but for what stands in one place. -/
def SameBut (s s' : State) : Option Place → Prop
  | none => s' = s
  | some (.slot name) => s'.env = s.env ∧ s'.buffer = s.buffer ∧
      ∀ slot, slot ≠ name → s'.slots.get? slot = s.slots.get? slot
  | some (.key name) => s'.slots = s.slots ∧ s'.buffer = s.buffer ∧
      ∀ key, key ≠ name → s'.env.get? key = s.env.get? key
  | some .buffer => s'.slots = s.slots ∧ s'.env = s.env

/-- Two states in which a step sees the same: the slots that it reads, the entries
for the identifiers that it renders, and what it reports of the environment or of the
buffer. -/
structure LookAlike (st : Step) (s t : State) : Prop where
  slots : ∀ slot ∈ st.reads, s.slots.get? slot = t.slots.get? slot
  entries : ∀ slot p, st.rendered? = some slot → s.slots.get? slot = some p →
    ∀ i ∈ p.identifiers, s.env.get? i = t.env.get? i
  keys : ∀ key, st.target? = some (.key key) → s.env.keys = t.env.keys
  buffer : st.target? = some .buffer → s.buffer = t.buffer

variable {s t : State}

/-! ## One place -/

theorem sameBut_refl (s : State) (place : Option Place) : s.SameBut s place := by
  match place with
  | none => exact rfl
  | some (.slot _) => exact ⟨rfl, rfl, fun _ _ => rfl⟩
  | some (.key _) => exact ⟨rfl, rfl, fun _ _ => rfl⟩
  | some .buffer => exact ⟨rfl, rfl⟩

theorem sameBut_apply (s : State) (c : Change) : s.SameBut (c.apply s) c.target? := by
  cases c with
  | keep => exact rfl
  | put slot p => exact ⟨rfl, rfl, fun _ hne => Record.get?_insert_of_ne s.slots hne p⟩
  | drop slot => exact ⟨rfl, rfl, fun _ hne => Record.get?_erase_of_ne s.slots hne⟩
  | bind key v => exact ⟨rfl, rfl, fun _ hne => Record.get?_insert_of_ne s.env hne v⟩
  | unbind key => exact ⟨rfl, rfl, fun _ hne => Record.get?_erase_of_ne s.env hne⟩
  | add text => exact ⟨rfl, rfl⟩
  | clear => exact ⟨rfl, rfl⟩

theorem Makes.target?_eq {st : Step} {c : Change} (h : s.Makes st c) : c.target? = st.target? := by
  cases h <;> rfl

theorem sameBut_next (s : State) (st : Step) : s.SameBut (s.next st).2 st.target? := by
  rcases next_cases s st with h | ⟨c, hc, h⟩
  · rw [h]
    exact sameBut_refl s st.target?
  · rw [h, ← hc.target?_eq]
    exact sameBut_apply s c

theorem get?_env_of_sameBut {s' : State} {place : Option Place} (h : s.SameBut s' place)
    {key : Text} (hkey : place ≠ some (.key key)) : s'.env.get? key = s.env.get? key := by
  match place with
  | none => exact congrArg (fun u : State => u.env.get? key) h
  | some (.slot _) => rw [h.1]
  | some (.key name) => exact h.2.2 key fun hname => hkey (by rw [hname])
  | some .buffer => rw [h.2]

/-! ## Steps in states that look alike -/

/-- Both fail for the same reason, or both give the same answer and make the same
change. -/
inductive Agree (s t : State) :
    Except Failure (Answer × State) → Except Failure (Answer × State) → Prop
  | error (e : Failure) : Agree s t (.error e) (.error e)
  | ok (a : Answer) (c : Change) : Agree s t (.ok (a, c.apply s)) (.ok (a, c.apply t))

theorem LookAlike.agree_pattern {st : Step} (h : LookAlike st s t) {slot : Text}
    (hslot : slot ∈ st.reads) {f g : Pattern → Except Failure (Answer × State)}
    (hrest : ∀ p, s.slots.get? slot = some p → Agree s t (f p) (g p)) :
    Agree s t (s.pattern slot >>= f) (t.pattern slot >>= g) := by
  unfold pattern
  rw [← h.slots slot hslot]
  cases hp : s.slots.get? slot with
  | none => exact .error .noSuchSlot
  | some p => exact hrest p hp

theorem agree_store (s t : State) (slot : Text) (r : Except Refusal Pattern) :
    Agree s t (s.store slot r) (t.store slot r) := by
  cases r with
  | error e => exact .error (.refused e)
  | ok p => exact .ok _ (.put slot p)

theorem agree_insert (h : s.env.keys = t.env.keys) (key : Text) (v : Value) :
    Agree s t (.ok (s.setEnv (s.env.insert key v))) (.ok (t.setEnv (t.env.insert key v))) := by
  unfold setEnv
  rw [Record.keys_insert_congr h]
  exact .ok _ (.bind key v)

theorem agree_erase (h : s.env.keys = t.env.keys) (key : Text) :
    Agree s t (.ok (s.setEnv (s.env.erase key))) (.ok (t.setEnv (t.env.erase key))) := by
  unfold setEnv
  rw [Record.keys_erase, Record.keys_erase, h]
  exact .ok _ (.unbind key)

theorem agree_add (h : s.buffer = t.buffer) (text : Text) :
    Agree s t (.ok (s.setBuffer true (s.buffer ++ text)))
      (.ok (t.setBuffer true (t.buffer ++ text))) := by
  have hanswer : Answer.written true (t.buffer ++ text) = .written true (s.buffer ++ text) := by
    rw [h]
  unfold setBuffer
  rw [hanswer]
  exact .ok _ (.add text)

theorem LookAlike.render_eq {st : Step} (h : LookAlike st s t) {slot : Text} {p : Pattern}
    (hslot : st.rendered? = some slot) (hp : s.slots.get? slot = some p) (missing : Missing) :
    p.render s.table missing = p.render t.table missing := by
  refine Pattern.render_congr (fun i hi => ?_) missing
  exact congrArg (Option.map Value.display) (h.entries slot p hslot hp i hi)

theorem agree_step {st : Step} (h : LookAlike st s t) : Agree s t (s.step st) (t.step st) := by
  -- Every step that reads a slot starts with it, so these cases go on with its pattern.
  cases st with
  | compile slot source => exact agree_store s t slot _
  | default slot => exact agree_store s t slot (.ok .empty)
  | clone slot target =>
    exact h.agree_pattern List.mem_cons_self fun p _ => agree_store s t target _
  | recompile slot target =>
    exact h.agree_pattern List.mem_cons_self fun p _ => agree_store s t target _
  | roundTrip slot target =>
    exact h.agree_pattern List.mem_cons_self fun p _ => agree_store s t target _
  | compose slot target missing =>
    refine h.agree_pattern List.mem_cons_self fun p hp => ?_
    rw [h.render_eq rfl hp]
    exact agree_store s t target _
  | intoSymbols slot => exact h.agree_pattern List.mem_cons_self fun p _ => .ok _ (.drop slot)
  | equal slot target =>
    refine h.agree_pattern List.mem_cons_self fun p _ => ?_
    exact h.agree_pattern (List.mem_cons_of_mem slot List.mem_cons_self) fun q _ => .ok _ .keep
  | describe slot => exact h.agree_pattern List.mem_cons_self fun p _ => .ok _ .keep
  | set key given =>
    simp only [step]
    cases given.make with
    | error e => exact .error (.refused e)
    | ok v => exact agree_insert (h.keys key rfl) key v
  | setSlot slot key =>
    exact h.agree_pattern List.mem_cons_self fun p _ =>
      agree_insert (h.keys key rfl) key (.pattern p)
  | unset key => exact agree_erase (h.keys key rfl) key
  | render slot missing =>
    refine h.agree_pattern List.mem_cons_self fun p hp => ?_
    rw [h.render_eq rfl hp]
    exact .ok _ .keep
  | append slot missing =>
    rw [step_append, step_append]
    refine h.agree_pattern List.mem_cons_self fun p hp => ?_
    rw [h.render_eq rfl hp]
    exact agree_add (h.buffer rfl) _
  | write slot =>
    exact h.agree_pattern List.mem_cons_self fun p _ => agree_add (h.buffer rfl) p.source
  | flush =>
    show Agree s t (.ok (.text s.buffer, _)) (.ok (.text t.buffer, _))
    rw [← h.buffer rfl]
    exact .ok _ .clear

theorem next_agree {st : Step} (h : LookAlike st s t) :
    (s.next st).1 = (t.next st).1 ∧
      ∃ c : Change, (s.next st).2 = c.apply s ∧ (t.next st).2 = c.apply t := by
  have hstep := agree_step h
  unfold next
  generalize s.step st = r at hstep
  generalize t.step st = r' at hstep
  cases hstep with
  | error e => exact ⟨rfl, .keep, rfl, rfl⟩
  | ok a c => exact ⟨rfl, c, rfl, rfl⟩

/-! ## Runs that leave a key alone -/

theorem get?_env_run {key : Text} {steps : List Step} (h : ∀ m ∈ s.history steps,
      m.step.target? = some (.key key) → ∃ e, m.outcome = .error e) :
    (s.run steps).2.env.get? key = s.env.get? key := by
  induction steps generalizing s with
  | nil => rfl
  | cons st rest ih =>
    have hnext : (s.next st).2.env.get? key = s.env.get? key := by
      by_cases hst : st.target? = some (.key key)
      · obtain ⟨e, he⟩ := h _ List.mem_cons_self hst
        rw [next_eq_self_of_error he]
      · exact get?_env_of_sameBut (sameBut_next s st) hst
    have hrest := ih (s := (s.next st).2) fun m hm => h m (List.mem_cons_of_mem _ hm)
    exact hrest.trans hnext

/-- In every state a step fails exactly if it can make no change, and then leaves the
state; otherwise only its target changes.  Two states that look alike to a step get
the same answer from it and the same change.  A key that was set to the pattern of a
slot stands for its canonical source until a step sets or unsets the key itself,
whatever becomes of the slot. -/
theorem next_atomic_and_local (s : State) :
    (∀ st, ((∃ e, (s.next st).1 = .error e) ↔ ∀ c, ¬ s.Makes st c) ∧
      (∀ e, (s.next st).1 = .error e → (s.next st).2 = s) ∧
      s.SameBut (s.next st).2 st.target? ∧
      ∀ t, LookAlike st s t → (s.next st).1 = (t.next st).1 ∧
        ∃ c : Change, (s.next st).2 = c.apply s ∧ (t.next st).2 = c.apply t) ∧
    ∀ slot key p steps, s.slots.get? slot = some p →
      let s' := (s.next (.setSlot slot key)).2
      (∀ m ∈ s'.history steps, m.step.target? = some (.key key) → ∃ e, m.outcome = .error e) →
      let u := (s'.run steps).2
      u.table.lookup key = some p.source ∧
        ∀ missing, Pattern.render ⟨[.substitution key]⟩ u.table missing = p.source := by
  constructor
  · intro st
    exact ⟨exists_error_iff s st, fun e => next_eq_self_of_error, sameBut_next s st,
      fun t => next_agree⟩
  · intro slot key p steps hp s' hsteps u
    have hnext : s.next (.setSlot slot key) = _ := next_of_step (pattern_bind hp _)
    have hset : s'.env.get? key = some (.pattern p) := by
      show (s.next (.setSlot slot key)).2.env.get? key = _
      rw [hnext]
      show (s.env.insert key (.pattern p)).get? key = _
      rw [Record.get?_insert, if_pos rfl]
    have hlookup : u.table.lookup key = some p.source := by
      show (u.env.get? key).map Value.display = _
      rw [get?_env_run hsteps, hset]
      rfl
    refine ⟨hlookup, fun missing => ?_⟩
    rw [Pattern.render_eq, List.flatMap_singleton, Symbol.contribution, hlookup, Option.getD_some]

/-- Composing a slot into itself in two states that differ in another slot, another
key and the buffer.  Then a key set to that slot, which is compiled again and removed
before an attempt to set the key fails. -/
theorem next_atomic_and_local_compose :
    let s := (start.run [.compile ['a'] "x{y}".toList, .set ['y'] (.value (.text ['1']))]).2
    let t := (start.run [.compile ['b'] ['q'], .write ['b'], .compile ['a'] "x{y}".toList,
      .set ['z'] (.value (.text ['2'])), .set ['y'] (.value (.text ['1']))]).2
    let st : Step := .compose ['a'] ['a'] .keep
    let p : Pattern := ⟨[.literal ['x'], .substitution ['y']]⟩
    let s' := (s.next (.setSlot ['a'] ['k'])).2
    let steps : List Step := [.compile ['a'] ['w'], .intoSymbols ['a'], .set ['k'] (.pattern ['}'])]
    LookAlike st s t ∧ (s.next st).1 = (t.next st).1 ∧
      (∃ c : Change, (s.next st).2 = c.apply s ∧ (t.next st).2 = c.apply t) ∧
      s.slots.get? ['a'] = some p ∧
      (∀ m ∈ s'.history steps, m.step.target? = some (.key ['k']) → ∃ e, m.outcome = .error e) ∧
      (s'.run steps).2.table.lookup ['k'] = some "x{y}".toList := by
  intro s t st p s' steps
  have hp : s.slots.get? ['a'] = some p := rfl
  have halike : LookAlike st s t := by
    refine ⟨fun slot hslot => ?_, fun slot q hslot hq i hi => ?_, fun key hkey => ?_,
      fun hbuffer => ?_⟩
    · obtain rfl := List.mem_singleton.mp hslot
      rfl
    · obtain rfl : ['a'] = slot := Option.some.inj hslot
      obtain rfl : p = q := Option.some.inj (hp.symm.trans hq)
      obtain rfl := List.mem_singleton.mp hi
      rfl
    · cases hkey
    · cases hbuffer
  have hsteps : ∀ m ∈ s'.history steps,
      m.step.target? = some (.key ['k']) → ∃ e, m.outcome = .error e := by
    intro m hm htarget
    rcases List.mem_cons.mp hm with rfl | hm
    · cases htarget
    rcases List.mem_cons.mp hm with rfl | hm
    · cases htarget
    obtain rfl := List.mem_singleton.mp hm
    exact ⟨_, rfl⟩
  obtain ⟨hstep, hsnapshot⟩ := next_atomic_and_local s
  obtain ⟨hanswer, hchange⟩ := (hstep st).2.2.2 t halike
  exact ⟨halike, hanswer, hchange, hp, hsteps, (hsnapshot ['a'] ['k'] p steps hp hsteps).1⟩

end State
end Interpolation.Session
