import ClassSharing.Machine
import ClassSharing.Report

/-!
# Runs

A run works on a world and ends with a result or with what has ended it early. Everything that can
be seen of it from outside stands in its trace, in order: the calls of collaborators with what they
log, the events that the program itself logs, the messages it prints, and what it notes on a span.
The trace of two runs one after the other is the trace of the first and, if that has a result, of
the second behind it (`trace_bind_ok`, `trace_bind_error`).
-/

namespace ClassSharing

/-- A call of a collaborator. -/
inductive Call where
  | query (q : Query)
  | spawn (spec : ProcessSpec) (streams : Streams)
  | communicate
  | wait
  | generate (records : List Record)
  deriving Repr

/-- How a span is started. A span that is kept by hand notes nothing by itself when its run ends:
neither the failure nor a status. -/
structure SpanStart where
  name : String
  attributes : List (String × Value)
  recordsFailure : Bool
  setsStatus : Bool
  deriving Repr

/-- What is noted on a span: its start, a failure, and its final status. -/
inductive SpanNote where
  | started (start : SpanStart)
  | recorded (f : Failure)
  | succeeded
  | failed (description : String)
  deriving Repr

/-- One thing that can be seen of a run. A call is seen with the events that its collaborator logs
and with what the collaborator has raised, if it has not answered. -/
inductive Entry where
  | call (c : Call) (heard : List Event) (raised : Option Raised)
  | event (e : Event)
  | message (m : Message)
  | span (note : SpanNote)
  deriving Repr

/-- What can be seen of a run, in order. -/
abbrev Trace := List Entry

namespace Trace

/-- The calls of a trace. -/
def calls (t : Trace) : List Call := t.filterMap fun
  | .call c _ _ => some c
  | _ => none

/-- What collaborators have raised. -/
def raised (t : Trace) : List Raised := t.filterMap fun
  | .call _ _ x => x
  | _ => none

/-- The events that the program itself has logged. -/
def ownEvents (t : Trace) : List Event := t.filterMap fun
  | .event e => some e
  | _ => none

/-- All events, those of collaborators included. -/
def events (t : Trace) : List Event := t.flatMap fun
  | .call _ heard _ => heard
  | .event e => [e]
  | _ => []

/-- The messages of a trace. -/
def messages (t : Trace) : List Message := t.filterMap fun
  | .message m => some m
  | _ => none

/-- The notes on spans. -/
def spanNotes (t : Trace) : List SpanNote := t.filterMap fun
  | .span n => some n
  | _ => none

@[simp] theorem calls_append (s t : Trace) : calls (s ++ t) = calls s ++ calls t :=
  List.filterMap_append

@[simp] theorem raised_append (s t : Trace) : raised (s ++ t) = raised s ++ raised t :=
  List.filterMap_append

@[simp] theorem ownEvents_append (s t : Trace) :
    ownEvents (s ++ t) = ownEvents s ++ ownEvents t :=
  List.filterMap_append

@[simp] theorem events_append (s t : Trace) : events (s ++ t) = events s ++ events t :=
  List.flatMap_append

@[simp] theorem messages_append (s t : Trace) : messages (s ++ t) = messages s ++ messages t :=
  List.filterMap_append

@[simp] theorem spanNotes_append (s t : Trace) :
    spanNotes (s ++ t) = spanNotes s ++ spanNotes t :=
  List.filterMap_append

end Trace

/-- How a run has ended. -/
structure Ended (σ α : Type) where
  result : Except Raised α
  trace : Trace
  world : σ

/-- A run on a world. -/
def Run (σ α : Type) := σ → Ended σ α

namespace Run

variable {σ α β : Type}

/-- The run that does nothing. -/
def done (a : α) : Run σ α := fun w => ⟨.ok a, [], w⟩

/-- A run, and behind it another that needs its result. -/
def andThen (r : Run σ α) (f : α → Run σ β) : Run σ β := fun w =>
  match r w with
  | ⟨.ok a, t, w'⟩ =>
    let e := f a w'
    ⟨e.result, t ++ e.trace, e.world⟩
  | ⟨.error x, t, w'⟩ => ⟨.error x, t, w'⟩

instance : Monad (Run σ) where
  pure := done
  bind := andThen

/-- The run that ends early. -/
def raise (x : Raised) : Run σ α := fun w => ⟨.error x, [], w⟩

/-- The run that fails. -/
def fail (f : Failure) : Run σ α := raise (.failure f)

/-- The run with one entry in its trace. -/
def enter (e : Entry) : Run σ Unit := fun w => ⟨.ok (), [e], w⟩

/-- Logs an event. -/
def log (e : Event) : Run σ Unit := enter (.event e)

/-- Logs several events. -/
def logAll : List Event → Run σ Unit
  | [] => done ()
  | e :: rest => andThen (log e) fun _ => logAll rest

/-- Prints a message. -/
def say (m : Message) : Run σ Unit := enter (.message m)

/-- Prints several messages. -/
def sayAll : List Message → Run σ Unit
  | [] => done ()
  | m :: rest => andThen (say m) fun _ => sayAll rest

/-- Calls a collaborator. The call is seen whether or not it succeeds. -/
def call (c : Call) (answer : σ → Reply σ α) : Run σ α := fun w =>
  let reply := answer w
  ⟨reply.answer, [.call c reply.heard reply.raised?], reply.world⟩

/-- Asks a machine. -/
def ask (m : Machine σ) (q : Query) : Run σ q.Answer := call (.query q) (m q)

/-- Asks for something that a process has by itself. -/
def await (c : Call) (answer : Except Raised α) : Run σ α := call c fun w => ⟨answer, [], w⟩

/-- What is a failure in the domain's words, or a result. -/
def ofExcept : Except Failure α → Run σ α
  | .ok a => done a
  | .error f => fail f

/-- What was checked under a model's name. -/
def ofChecked (title : String) (outcome : Checked α) : Run σ α :=
  ofExcept ((outcome.titled title).mapError .validation)

/-- A run whose end is looked at: nothing ends the run around it. -/
def outcome (r : Run σ α) : Run σ (Except Raised α) := fun w =>
  let e := r w
  ⟨.ok e.result, e.trace, e.world⟩

@[simp] theorem pure_apply (a : α) (w : σ) : (pure a : Run σ α) w = ⟨.ok a, [], w⟩ := rfl

theorem bind_apply (r : Run σ α) (f : α → Run σ β) (w : σ) :
    (r >>= f) w = match r w with
      | ⟨.ok a, t, w'⟩ => ⟨(f a w').result, t ++ (f a w').trace, (f a w').world⟩
      | ⟨.error x, t, w'⟩ => ⟨.error x, t, w'⟩ := rfl

@[simp] theorem raise_apply (x : Raised) (w : σ) : (raise x : Run σ α) w = ⟨.error x, [], w⟩ := rfl

@[simp] theorem fail_apply (f : Failure) (w : σ) :
    (fail f : Run σ α) w = ⟨.error (.failure f), [], w⟩ := rfl

@[simp] theorem log_apply (e : Event) (w : σ) : (log e : Run σ Unit) w = ⟨.ok (), [.event e], w⟩ :=
  rfl

@[simp] theorem call_apply (c : Call) (answer : σ → Reply σ α) (w : σ) :
    call c answer w =
      ⟨(answer w).answer, [.call c (answer w).heard (answer w).raised?], (answer w).world⟩ := rfl

@[simp] theorem ask_apply (m : Machine σ) (q : Query) (w : σ) :
    ask m q w = ⟨(m q w).answer, [.call (.query q) (m q w).heard (m q w).raised?], (m q w).world⟩ :=
  rfl

@[simp] theorem outcome_apply (r : Run σ α) (w : σ) :
    outcome r w = ⟨.ok (r w).result, (r w).trace, (r w).world⟩ := rfl

@[simp] theorem ofExcept_ok (a : α) : (ofExcept (.ok a) : Run σ α) = pure a := rfl

@[simp] theorem ofExcept_error (f : Failure) : (ofExcept (.error f) : Run σ α) = fail f := rfl

@[simp] theorem logAll_apply (es : List Event) (w : σ) :
    (logAll es : Run σ Unit) w = ⟨.ok (), es.map .event, w⟩ := by
  induction es with
  | nil => rfl
  | cons e rest ih => simp [logAll, andThen, ih]

theorem bind_of_ok {r : Run σ α} {f : α → Run σ β} {w w' : σ} {a : α} {t : Trace}
    (h : r w = ⟨.ok a, t, w'⟩) :
    (r >>= f) w = ⟨(f a w').result, t ++ (f a w').trace, (f a w').world⟩ := by
  rw [bind_apply, h]

theorem bind_of_error {r : Run σ α} {f : α → Run σ β} {w w' : σ} {x : Raised} {t : Trace}
    (h : r w = ⟨.error x, t, w'⟩) : (r >>= f) w = ⟨.error x, t, w'⟩ := by
  rw [bind_apply, h]

theorem trace_bind_ok {r : Run σ α} {f : α → Run σ β} {w : σ} {a : α}
    (h : (r w).result = .ok a) :
    ((r >>= f) w).trace = (r w).trace ++ (f a (r w).world).trace := by
  rw [bind_apply]
  split
  · rename_i b t w' hb; simp [hb] at h ⊢; simp [h]
  · rename_i hb; simp [hb] at h

theorem trace_bind_error {r : Run σ α} {f : α → Run σ β} {w : σ} {x : Raised}
    (h : (r w).result = .error x) : ((r >>= f) w).trace = (r w).trace := by
  rw [bind_apply]
  split
  · rename_i hb; simp [hb] at h
  · rename_i hb; simp [hb]

end Run

end ClassSharing
