import Interpolation.Proofs.DirectPass
import Interpolation.Proofs.Rounds
import Interpolation.Trace

/-!
# What a log says

The log tells how compiling ended and which identifiers of the source the table did
not have.  A listener hears all of it, all but the last level, or nothing, and what
is compiled and rendered is the same for every listener.
-/

namespace Interpolation

namespace Text

theorem utf8Size_eq_utf8ByteSize (t : Text) : t.utf8Size = (String.ofList t).utf8ByteSize := by
  induction t with
  | nil => rfl
  | cons c t ih =>
    have hcons : String.ofList (c :: t) = String.singleton c ++ String.ofList t := by
      rw [String.singleton_eq_ofList, ← String.ofList_append]
      rfl
    rw [hcons, String.utf8ByteSize_append, String.utf8ByteSize_singleton, ← ih]
    rfl

/-- The identifiers in a source that the table does not have, in the order in which
they stand there and as often. -/
def unanswered (source : Text) (table : Table) : List Text :=
  (source.contents.filter (· ≠ [])).filter fun i => (table.lookup i).isNone

theorem contents_braceFree {t : Text} (ht : t.BraceFree) : t.contents = [] := by
  have hsweep := sweep_braceFree (fun _ => []) (fun c => [c]) ht []
  rw [List.append_nil] at hsweep
  rw [contents, hsweep, sweep, List.append_nil]
  exact List.flatMap_eq_nil_iff.mpr fun _ _ => rfl

theorem contents_round {t c : Text} (ht : t.BraceFree) (hc : c.BraceFree) (s : Text) :
    contents (t ++ '{' :: c ++ '}' :: s) = c :: s.contents := by
  have hflat : t.flatMap (fun _ => ([] : List Text)) = [] :=
    List.flatMap_eq_nil_iff.mpr fun _ _ => rfl
  rw [List.append_assoc, contents, sweep_braceFree _ _ ht, hflat, List.nil_append,
    sweep_placeholder _ _ hc]
  rfl

end Text

theorem Rounds.filterMap_identifier? {s : Text} {symbols : List Symbol} (h : Rounds s symbols) :
    symbols.filterMap Symbol.identifier? = s.contents.filter (· ≠ []) := by
  have houtside : ∀ t : Text, (Side.outside.symbols t).filterMap Symbol.identifier? = [] := by
    intro t
    cases t <;> rfl
  induction h with
  | @last t ht =>
    rw [houtside, Text.contents_braceFree ht]
    rfl
  | @round t c s symbols ht hc _ ih =>
    rw [List.filterMap_append, List.filterMap_append, houtside, ih, Text.contents_round ht hc]
    cases c <;> rfl

namespace Trace

/-- Whether an entry is an event of the last level. -/
def Entry.isTrace : Entry → Bool
  | .event _ .trace _ => true
  | _ => false

def Entry.compiled (symbols : Nat) : Entry :=
  .event "pattern compiled".toList .debug [("symbols".toList, .count symbols)]

def Entry.rejected (message : Text) : Entry :=
  .event "pattern rejected".toList .debug [("err".toList, .text message)]

def Entry.noValue (identifier : Text) : Entry :=
  .event "no value in table".toList .trace [("identifier".toList, .text identifier)]

/-- The log of compiling a source that ends with one event. -/
def compiling (source : Text) (ending : Entry) : Log :=
  [.opened "compile".toList .debug [("len".toList, .count (String.ofList source).utf8ByteSize)],
    .entered, ending, .left]

/-- The event at the end of compiling. -/
def ending : Except BraceError Pattern → Entry
  | .ok p => .compiled p.symbols.length
  | .error e => .rejected e.message

variable {v : Verbosity} (source : Text) (table : Table) (missing : Missing)

theorem compile_of_hears (h : v.hears .debug = true) :
    (compile v source).1 = compiling source (ending (Pattern.compile source)) := by
  have hinside : compiled v (Pattern.compile source) = [ending (Pattern.compile source)] := by
    cases Pattern.compile source <;> exact if_pos h
  show activity v _ _ _ (compiled v (Pattern.compile source)) = _
  rw [activity, if_pos h, hinside, Text.utf8Size_eq_utf8ByteSize]
  rfl

theorem compile_of_not_hears (h : v.hears .debug = false) : (compile v source).1 = [] := by
  have hdeaf : ¬ v.hears .debug = true := by rw [h]; exact Bool.false_ne_true
  have hinside : compiled v (Pattern.compile source) = [] := by
    cases Pattern.compile source <;> exact if_neg hdeaf
  show activity v _ _ _ (compiled v (Pattern.compile source)) = _
  rw [activity, if_neg hdeaf, hinside]

theorem flatMap_absent_of_hears (h : v.hears .trace = true) (identifiers : List Text) :
    identifiers.flatMap (absent v) = identifiers.map .noValue := by
  rw [List.map_eq_flatMap]
  exact List.flatMap_congr fun i _ => if_pos h

theorem flatMap_absent_of_not_hears (h : v.hears .trace = false) (identifiers : List Text) :
    identifiers.flatMap (absent v) = [] := by
  have hdeaf : ¬ v.hears .trace = true := by rw [h]; exact Bool.false_ne_true
  exact List.flatMap_eq_nil_iff.mpr fun i _ => if_neg hdeaf

/-! ## A run -/

/-- The identifiers that a run asks for in vain.  A rejected source asks for nothing. -/
def askedInVain : List Text :=
  match Pattern.compile source with
  | .ok _ => source.unanswered table
  | .error _ => []

theorem log_run (v : Verbosity) :
    (run v source table missing).1 =
      (compile v source).1 ++ (askedInVain source table).flatMap (absent v) := by
  cases h : Pattern.compile source with
  | ok p =>
    have habsent : (render v p table missing).1 = (source.unanswered table).flatMap (absent v) := by
      show (Symbol.renderAll table missing p.symbols none).absent.flatMap (absent v) = _
      rw [Symbol.renderAll_unbounded, (Rounds.of_compile h).filterMap_identifier?]
      rfl
    simp only [run, compile, askedInVain, h, habsent]
  | error e => simp only [run, compile, askedInVain, h, List.flatMap_nil, List.append_nil]

theorem output_run (v : Verbosity) :
    (run v source table missing).2 =
      (Pattern.compile source).toOption.map (·.render table missing) := by
  cases h : Pattern.compile source with
  | ok p =>
    simp only [run, compile, h]
    rfl
  | error e =>
    simp only [run, compile, h]
    rfl

theorem log_run_trace :
    (run (some .trace) source table missing).1 =
      compiling source (ending (Pattern.compile source)) ++
        (askedInVain source table).map .noValue := by
  rw [log_run, compile_of_hears source rfl, flatMap_absent_of_hears rfl]

theorem filter_log_run_trace :
    (run (some .trace) source table missing).1.filter (fun entry => !entry.isTrace) =
      compiling source (ending (Pattern.compile source)) := by
  have hcompiling : ∀ result, (compiling source (ending result)).filter
      (fun entry => !entry.isTrace) = compiling source (ending result) := by
    intro result
    cases result <;> rfl
  have hnoValue : ∀ identifiers : List Text, (identifiers.map Entry.noValue).filter
      (fun entry => !entry.isTrace) = [] := by
    intro identifiers
    rw [List.filter_map]
    exact List.map_eq_nil_iff.mpr (List.filter_eq_nil_iff.mpr fun i _ => Bool.false_ne_true)
  rw [log_run_trace, List.filter_append, hcompiling, hnoValue, List.append_nil]

/-- At the last level the log opens and closes the compiling of the source, whose
length it gives in bytes, around the one event that tells how it ended.  Behind that
it has one event for each place of the source where an identifier stands that the
table does not have.  One level up these events are left out, and further up there is
no log at all.  What comes out is the same at every level, and the log is the same
whatever is written for absent identifiers. -/
theorem run_log_and_output :
    let log : Verbosity → Log := fun v => (run v source table missing).1
    (∀ p, Pattern.compile source = .ok p →
      log (some .trace) =
        compiling source (.compiled p.size) ++ (source.unanswered table).map .noValue) ∧
    (∀ e, Pattern.compile source = .error e →
      log (some .trace) = compiling source (.rejected e.message)) ∧
    log (some .debug) = (log (some .trace)).filter (fun entry => !entry.isTrace) ∧
    (∀ v : Verbosity, v ≠ some .debug → v ≠ some .trace → log v = []) ∧
    ∀ v, (∀ other, (run v source table other).1 = log v) ∧
      (run v source table missing).2 =
        (Pattern.compile source).toOption.map (·.render table missing) := by
  intro log
  refine ⟨fun p hp => ?_, fun e he => ?_, ?_, fun v hdebug htrace => ?_,
    fun v => ⟨fun other => ?_, ?_⟩⟩
  · show (run _ _ _ _).1 = _
    rw [log_run_trace, askedInVain, hp]
    rfl
  · show (run _ _ _ _).1 = _
    rw [log_run_trace, askedInVain, he]
    rfl
  · show (run _ _ _ _).1 = List.filter _ (run _ _ _ _).1
    rw [filter_log_run_trace, log_run, compile_of_hears source rfl,
      flatMap_absent_of_not_hears rfl, List.append_nil]
  · have hdeaf : v.hears .debug = false ∧ v.hears .trace = false := by
      match v with
      | none | some .error | some .warn | some .info => exact ⟨rfl, rfl⟩
      | some .debug => exact absurd rfl hdebug
      | some .trace => exact absurd rfl htrace
    show (run _ _ _ _).1 = _
    rw [log_run, compile_of_not_hears source hdeaf.1, flatMap_absent_of_not_hears hdeaf.2]
    rfl
  · show _ = (run _ _ _ _).1
    rw [log_run, log_run]
  · exact output_run source table missing v

/-- A character of two bytes before an identifier that is missing twice, and before a
brace at fault, whose position counts characters. -/
theorem run_log_and_output_two_bytes :
    let table : Table := ⟨fun i => if i = ['y'] then some ['1'] else none⟩
    let source := "é{x}{y}{}{x}".toList
    let faulty : Text := ['é', '}']
    let opened (bytes : Nat) : Entry := .opened "compile".toList .debug [("len".toList, .count bytes)]
    (run (some .trace) source table .keep).1 =
        [opened 13, .entered, .compiled 4, .left, .noValue ['x'], .noValue ['x']] ∧
      (run (some .debug) source table .empty).1 = [opened 13, .entered, .compiled 4, .left] ∧
      (run (some .trace) faulty table .empty).1 =
        [opened 3, .entered, .rejected "unmatched closing brace at 1".toList, .left] ∧
      (run (some .info) faulty table .empty).1 = [] ∧
      (run none source table .keep).2 = some "é{x}1{x}".toList := by
  intro table source faulty opened
  let p : Pattern :=
    ⟨[.literal ['é'], .substitution ['x'], .substitution ['y'], .substitution ['x']]⟩
  have hp : Pattern.compile source = .ok p := rfl
  have he : Pattern.compile faulty = .error ⟨.unmatchedClosing, 1⟩ := rfl
  obtain ⟨hcompiled, -, hdebug, -, houtput⟩ := run_log_and_output source table .keep
  obtain ⟨-, hrejected, -, hsilent, -⟩ := run_log_and_output faulty table .empty
  have hunanswered : Text.unanswered source table = [['x'], ['x']] := by decide +kernel
  have hlog := hcompiled p hp
  rw [hunanswered] at hlog
  refine ⟨hlog, ?_, hrejected _ he, hsilent (some .info) (by decide) (by decide), ?_⟩
  · have hsame := (houtput (some .debug)).1 .empty
    rw [hdebug, hlog] at hsame
    exact hsame
  · rw [(houtput none).2, hp]
    rfl

end Trace
end Interpolation
