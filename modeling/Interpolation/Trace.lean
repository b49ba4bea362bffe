import Interpolation.Rendering

/-!
# Traces

Compiling and rendering keep a log of what they do.  How much of it is kept is
up to the listener, and it never changes what they do.
-/

namespace Interpolation.Trace

inductive Level where
  | error
  | warn
  | info
  | debug
  | trace
deriving DecidableEq, Repr

def Level.rank : Level → Nat
  | error => 0
  | warn => 1
  | info => 2
  | debug => 3
  | trace => 4

/-- The last level that is listened to; `none` is silence. -/
abbrev Verbosity := Option Level

def Verbosity.hears (v : Verbosity) (level : Level) : Bool := v.any (level.rank ≤ ·.rank)

inductive Field where
  | count (n : Nat)
  | text (t : Text)
deriving DecidableEq, Repr

/-- An activity is opened, entered and left; events happen at a moment. -/
inductive Entry where
  | opened (name : Text) (level : Level) (fields : List (Text × Field))
  | entered
  | left
  | event (message : Text) (level : Level) (fields : List (Text × Field))
deriving DecidableEq, Repr

abbrev Log := List Entry

/-- The log of an activity around what is logged inside of it. -/
def activity (v : Verbosity) (name : Text) (level : Level) (fields : List (Text × Field))
    (inside : Log) : Log :=
  if v.hears level then .opened name level fields :: .entered :: inside ++ [.left] else inside

def event (v : Verbosity) (message : Text) (level : Level) (fields : List (Text × Field)) : Log :=
  if v.hears level then [.event message level fields] else []

/-- What compiling says about its result. -/
def compiled (v : Verbosity) : Except BraceError Pattern → Log
  | .ok p => event v "pattern compiled".toList .debug [("symbols".toList, .count p.size)]
  | .error e => event v "pattern rejected".toList .debug [("err".toList, .text e.message)]

def compile (v : Verbosity) (source : Text) : Log × Except BraceError Pattern :=
  let result := Pattern.compile source
  (activity v "compile".toList .debug [("len".toList, .count source.utf8Size)] (compiled v result),
    result)

def absent (v : Verbosity) (identifier : Text) : Log :=
  event v "no value in table".toList .trace [("identifier".toList, .text identifier)]

def render (v : Verbosity) (p : Pattern) (table : Table) (missing : Missing) : Log × Text :=
  let (r, text) := p.renderTo (.ofText []) table missing
  (r.absent.flatMap (absent v), text)

/-- Compile a source and, if it is accepted, render it. -/
def run (v : Verbosity) (source : Text) (table : Table) (missing : Missing) : Log × Option Text :=
  let (log, result) := compile v source
  match result with
  | .ok p =>
    let (more, text) := render v p table missing
    (log ++ more, some text)
  | .error _ => (log, none)

end Interpolation.Trace
