import Interpolation.Proofs.Rendering
import Interpolation.Proofs.Session.Steps
import Mathlib.Data.List.DropRight

/-!
# The history of a session

A history keeps each step of a run with the state that the step found and the
outcome that it had.  The buffer is a function of the history: what the appends and
writes since the last flush added, each in the state of its own moment.
-/

namespace Interpolation.Session

/-- A step in a run. -/
structure Moment where
  /-- The state that the step found. -/
  before : State
  step : Step
  outcome : Outcome

/-- The slot whose text the step puts at the end of the buffer. -/
def Step.written? : Step → Option Text
  | .append slot _ | .write slot => some slot
  | _ => none

def Step.isFlush : Step → Bool
  | .flush => true
  | _ => false

namespace Moment

/-- The text that the step adds to the buffer: the slot's pattern rendered as the
environment was, or its canonical source.  A step that fails adds nothing. -/
def addition (m : Moment) : Text :=
  match m.outcome, m.step with
  | .ok _, .append slot missing =>
    ((m.before.slots.get? slot).map (·.render m.before.table missing)).getD []
  | .ok _, .write slot => ((m.before.slots.get? slot).map Pattern.source).getD []
  | _, _ => []

/-- What the moments after the last flush added, in their order. -/
def recorded (history : List Moment) : Text :=
  (history.rtakeWhile (!·.step.isFlush)).flatMap addition

theorem recorded_concat (history : List Moment) (m : Moment) :
    recorded (history ++ [m]) =
      if m.step.isFlush then [] else recorded history ++ m.addition := by
  unfold recorded
  cases h : m.step.isFlush with
  | true =>
    rw [List.rtakeWhile_concat_neg _ _ _ (by simp [h])]
    rfl
  | false =>
    rw [List.rtakeWhile_concat_pos _ _ _ (by simp [h]), List.flatMap_append, List.flatMap_singleton]
    rfl

/-- What was recorded stays in front of what is added before the next flush. -/
theorem recorded_append {later : List Moment} (h : ∀ m ∈ later, m.step.isFlush = false)
    (earlier : List Moment) :
    recorded (earlier ++ later) = recorded earlier ++ later.flatMap addition := by
  induction later using List.reverseRecOn with
  | nil => rw [List.append_nil, List.flatMap_nil, List.append_nil]
  | append_singleton later m ih =>
    have hm : m.step.isFlush = false := h m (by simp)
    have hlater : ∀ m ∈ later, m.step.isFlush = false :=
      fun m' hm' => h m' (List.mem_append_left _ hm')
    rw [← List.append_assoc, recorded_concat, hm, ih hlater, List.flatMap_append,
      List.flatMap_singleton, List.append_assoc]
    rfl

end Moment

open Moment (recorded)

namespace State

def history (s : State) : List Step → List Moment
  | [] => []
  | st :: rest => ⟨s, st, (s.next st).1⟩ :: (s.next st).2.history rest

theorem run_append (s : State) (steps more : List Step) :
    (s.run (steps ++ more)).2 = ((s.run steps).2.run more).2 := by
  induction steps generalizing s with
  | nil => rfl
  | cons st rest ih => exact ih (s.next st).2

theorem history_append (s : State) (steps more : List Step) :
    s.history (steps ++ more) = s.history steps ++ (s.run steps).2.history more := by
  induction steps generalizing s with
  | nil => rfl
  | cons st rest ih => exact congrArg _ (ih (s.next st).2)

theorem history_concat (s : State) (steps : List Step) (st : Step) :
    s.history (steps ++ [st]) =
      s.history steps ++ [⟨(s.run steps).2, st, ((s.run steps).2.next st).1⟩] :=
  history_append s steps [st]

theorem map_outcome_history (s : State) (steps : List Step) :
    (s.history steps).map Moment.outcome = (s.run steps).1 := by
  induction steps generalizing s with
  | nil => rfl
  | cons st rest ih => exact congrArg _ (ih (s.next st).2)

theorem map_step_history (s : State) (steps : List Step) :
    (s.history steps).map Moment.step = steps := by
  induction steps generalizing s with
  | nil => rfl
  | cons st rest ih => exact congrArg _ (ih (s.next st).2)

/-- A moment of a history is the next step after the steps before it. -/
theorem history_eq_append_cons {s : State} {steps : List Step} {earlier later : List Moment}
    {m : Moment} (h : s.history steps = earlier ++ m :: later) :
    ∃ done, s.history done = earlier ∧ m.before = (s.run done).2 ∧
      m.outcome = ((s.run done).2.next m.step).1 := by
  induction earlier generalizing s steps with
  | nil =>
    cases steps with
    | nil => cases h
    | cons st rest =>
      obtain ⟨rfl, -⟩ := List.cons.inj h
      exact ⟨[], rfl, rfl, rfl⟩
  | cons m' earlier ih =>
    cases steps with
    | nil => cases h
    | cons st rest =>
      obtain ⟨rfl, hrest⟩ := List.cons.inj h
      obtain ⟨done, hdone, hbefore, houtcome⟩ := ih hrest
      exact ⟨st :: done, congrArg _ hdone, hbefore, houtcome⟩

/-! ## The buffer after a step -/

theorem buffer_next (s : State) (st : Step) :
    (s.next st).2.buffer =
      if st.isFlush then [] else s.buffer ++ Moment.addition ⟨s, st, (s.next st).1⟩ := by
  rcases next_eq s st with ⟨e, h⟩ | ⟨a, c, hc, h⟩
  · rw [h]
    cases st with
    | flush => cases h
    | _ => exact (List.append_nil _).symm
  · rw [h]
    cases hc with
    | append hp => simp [Change.apply, Step.isFlush, Moment.addition, hp]
    | write hp => simp [Change.apply, Step.isFlush, Moment.addition, hp]
    | flush => rfl
    | _ => exact (List.append_nil _).symm

/-- Rendering into the buffer always goes well, and is rendering apart from it. -/
theorem step_append (s : State) (slot : Text) (missing : Missing) :
    s.step (.append slot missing) =
      s.pattern slot >>= fun p =>
        .ok (s.setBuffer true (s.buffer ++ p.render s.table missing)) := by
  refine congrArg (s.pattern slot >>= ·) (funext fun p => ?_)
  show Except.ok (s.setBuffer (p.renderTo (.ofText s.buffer) s.table missing).1.ok _) = _
  rw [Pattern.ok_renderTo]
  rfl

/-- An append or a write of a slot goes well exactly if the slot is there, and then
shows the buffer as it is after it. -/
theorem outcome_next_of_written {s : State} {st : Step} {slot : Text}
    (h : st.written? = some slot) :
    (s.slots.get? slot = none → (s.next st).1 = .error .noSuchSlot) ∧
      ∀ p, s.slots.get? slot = some p →
        (s.next st).1 = .ok (.written true (s.next st).2.buffer) := by
  cases st with
  | append slot' missing =>
    obtain rfl : slot' = slot := Option.some.inj h
    have hst := step_append s slot' missing
    refine ⟨fun hp => congrArg Prod.fst (next_of_get?_none hst hp), fun p hp => ?_⟩
    rw [next_of_step (hst.trans (pattern_bind hp _))]
  | write slot' =>
    obtain rfl : slot' = slot := Option.some.inj h
    refine ⟨fun hp => congrArg Prod.fst (next_of_get?_none rfl hp), fun p hp => ?_⟩
    rw [next_of_step (pattern_bind hp _)]
  | _ => cases h

theorem outcome_next_of_isFlush {s : State} {st : Step} (h : st.isFlush = true) :
    (s.next st).1 = .ok (.text s.buffer) := by
  cases st with
  | flush => rfl
  | _ => cases h

/-! ## The buffer after a run -/

theorem buffer_run (steps : List Step) :
    (start.run steps).2.buffer = recorded (start.history steps) := by
  induction steps using List.reverseRecOn with
  | nil => rfl
  | append_singleton steps st ih =>
    have hnext : (start.run (steps ++ [st])).2 = ((start.run steps).2.next st).2 :=
      run_append start steps [st]
    rw [hnext, buffer_next, ih, history_concat, Moment.recorded_concat]

theorem isFlush_of_mem_history {s : State} {steps : List Step}
    (h : ∀ st ∈ steps, st.isFlush = false) : ∀ m ∈ s.history steps, m.step.isFlush = false := by
  intro m hm
  rw [← map_step_history s steps] at h
  exact h m.step (List.mem_map_of_mem hm)

/-- After every run the buffer is what the appends and writes since the last flush
added, each the text that its slot had at its own moment.  Every append and write of
a slot that is there shows the buffer up to itself, and every flush answers with the
buffer before it.  Steps after the run, short of a flush, only add to it. -/
theorem run_buffer_eq_recorded (steps : List Step) :
    let history := start.history steps
    history.map Moment.step = steps ∧ history.map Moment.outcome = (start.run steps).1 ∧
      (start.run steps).2.buffer = recorded history ∧
      (∀ earlier m later, history = earlier ++ m :: later →
        (∀ slot, m.step.written? = some slot →
          (m.before.slots.get? slot = none → m.outcome = .error .noSuchSlot) ∧
            ∀ p, m.before.slots.get? slot = some p →
              m.outcome = .ok (.written true (recorded (earlier ++ [m])))) ∧
        (m.step.isFlush = true → m.outcome = .ok (.text (recorded earlier)))) ∧
      ∀ more, (∀ st ∈ more, st.isFlush = false) →
        (start.run (steps ++ more)).2.buffer =
          recorded history ++ ((start.run steps).2.history more).flatMap Moment.addition := by
  intro history
  refine ⟨map_step_history _ _, map_outcome_history _ _, buffer_run steps, ?_, ?_⟩
  · intro earlier m later h
    obtain ⟨done, rfl, hbefore, houtcome⟩ := history_eq_append_cons h
    have hm : start.history (done ++ [m.step]) = start.history done ++ [m] := by
      rw [history_concat, ← houtcome, ← hbefore]
    rw [← hm, ← buffer_run, ← buffer_run, run_append, houtcome, hbefore]
    exact ⟨fun slot => outcome_next_of_written, outcome_next_of_isFlush⟩
  · intro more hmore
    rw [buffer_run, history_append, Moment.recorded_append (isFlush_of_mem_history hmore)]

/-- A slot rendered before and after its key is set, and one that is not there.  Then
the slot is compiled again, and what it rendered before stays in the buffer. -/
theorem run_buffer_eq_recorded_overwritten :
    let steps : List Step := [.compile ['a'] "x{y}".toList, .append ['a'] .keep,
      .set ['y'] (.value (.text ['1'])), .append ['b'] .empty, .append ['a'] .empty,
      .compile ['a'] ['z'], .unset ['y']]
    let more : List Step := [.write ['a'], .compile ['a'] ['}']]
    let p : Pattern := ⟨[.literal ['x'], .substitution ['y']]⟩
    (start.run steps).2.buffer = "x{y}x1".toList ∧
      (∀ st ∈ more, st.isFlush = false) ∧
      (start.run (steps ++ more)).2.buffer = "x{y}x1z".toList ∧
      ∃ m, start.history steps =
          (start.history steps).take 4 ++ m :: (start.history steps).drop 5 ∧
        m.before.slots.get? ['a'] = some p ∧ m.outcome = .ok (.written true "x{y}x1".toList) := by
  intro steps more p
  obtain ⟨-, -, hbuffer, hmoments, hmore⟩ := run_buffer_eq_recorded steps
  have hflush : ∀ st ∈ more, st.isFlush = false := by decide
  let m : Moment := ⟨(start.run (steps.take 4)).2, .append ['a'] .empty,
    .ok (.written true "x{y}x1".toList)⟩
  have hm : start.history steps =
      (start.history steps).take 4 ++ m :: (start.history steps).drop 5 := rfl
  have hp : m.before.slots.get? ['a'] = some p := rfl
  have hwritten := ((hmoments _ m _ hm).1 ['a'] rfl).2 p hp
  exact ⟨hbuffer, hflush, hmore more hflush, m, hm, hp, hwritten⟩

end State
end Interpolation.Session
