import ClassSharing.Span
import Mathlib

/-!
# Laws of runs

A run that asks a machine first ends there or goes on with the answer (`ask_bind_cases`). Printing
several messages adds them to the trace and nothing else (`sayAll_apply`); neither messages
nor events are calls. A span leaves the result and the world of its run as they are (`span_apply`).
It adds two entries in front of the trace, and behind it what is noted of the end: nothing of an
interrupt.
-/

namespace ClassSharing

/-- Events are no calls. -/
@[simp]
lemma Trace.calls_map_event (events : List Event) : calls (events.map .event) = [] := by
  induction events with
  | nil => rfl
  | cons e rest ih => exact ih

/-- Messages are no calls. -/
@[simp]
lemma Trace.calls_map_message (messages : List Message) : calls (messages.map .message) = [] := by
  induction messages with
  | nil => rfl
  | cons message rest ih => exact ih

/-- With events nothing is raised. -/
@[simp]
lemma Trace.raised_map_event (events : List Event) : raised (events.map .event) = [] := by
  induction events with
  | nil => rfl
  | cons e rest ih => exact ih

/-- With messages nothing is raised. -/
@[simp]
lemma Trace.raised_map_message (messages : List Message) :
    raised (messages.map .message) = [] := by
  induction messages with
  | nil => rfl
  | cons message rest ih => exact ih

/-- Events are no messages. -/
@[simp]
lemma Trace.messages_map_event (events : List Event) : messages (events.map .event) = [] := by
  induction events with
  | nil => rfl
  | cons e rest ih => exact ih

/-- Messages are seen as such. -/
@[simp]
lemma Trace.messages_map_message (messages : List Message) :
    Trace.messages (messages.map .message) = messages := by
  induction messages with
  | nil => rfl
  | cons message rest ih => exact congrArg (message :: ·) ih

namespace Run

variable {σ α β : Type}

/-! ### Parts of a run -/

/-- A machine is asked: it does not answer and the run ends, or another run goes on with the
answer. -/
lemma ask_bind_cases (m : Machine σ) (q : Query) (f : q.Answer → Run σ β) (w : σ) :
    (∃ x, ((ask m q >>= f) w).result = .error x ∧
      ((ask m q >>= f) w).trace.calls = [.query q]) ∨
    ∃ a, (m q w).answer = .ok a ∧ ((ask m q >>= f) w).result = (f a (m q w).world).result ∧
      ((ask m q >>= f) w).trace.calls = .query q :: (f a (m q w).world).trace.calls := by
  cases hanswer : (m q w).answer with
  | error x =>
    have hrun := bind_of_error (f := f) ((ask_apply m q w).trans (by rw [hanswer]))
    rw [hrun]
    exact .inl ⟨x, rfl, rfl⟩
  | ok a =>
    have hrun := bind_of_ok (f := f) ((ask_apply m q w).trans (by rw [hanswer]))
    rw [hrun]
    exact .inr ⟨a, rfl, rfl, rfl⟩

/-- A result that is only passed on in another form. -/
lemma bind_pure_apply (r : Run σ α) (g : α → β) (w : σ) :
    (r >>= fun a => pure (g a)) w = ⟨(r w).result.map g, (r w).trace, (r w).world⟩ := by
  cases hresult : (r w).result with
  | error x => exact bind_of_error (by rw [← hresult])
  | ok a =>
    have hrun : (r >>= fun a => pure (g a)) w = ⟨.ok (g a), (r w).trace ++ [], (r w).world⟩ :=
      bind_of_ok (by rw [← hresult])
    rw [hrun, List.append_nil]
    rfl

/-- A result in another form is made from a result. -/
lemma map_eq_ok_iff {result : Except Raised α} {g : α → β} {b : β} :
    result.map g = .ok b ↔ ∃ a, result = .ok a ∧ g a = b := by
  cases result <;> simp [Except.map]

/-- What ends a run early has no other form. -/
lemma map_eq_error_iff {result : Except Raised α} {g : α → β} {x : Raised} :
    result.map g = .error x ↔ result = .error x := by
  cases result <;> simp [Except.map]

/-- A run ends early and nothing comes behind it, or it has a result and another run goes on. -/
lemma bind_cases (r : Run σ α) (f : α → Run σ β) (w : σ) :
    (∃ x, (r w).result = .error x ∧ (r >>= f) w = ⟨.error x, (r w).trace, (r w).world⟩) ∨
      ∃ a, (r w).result = .ok a ∧ (r >>= f) w = ⟨(f a (r w).world).result,
        (r w).trace ++ (f a (r w).world).trace, (f a (r w).world).world⟩ := by
  cases hresult : (r w).result with
  | error x => exact .inl ⟨x, rfl, bind_of_error (by rw [← hresult])⟩
  | ok a => exact .inr ⟨a, rfl, bind_of_ok (by rw [← hresult])⟩

/-- Checking something calls nobody. -/
lemma ofChecked_cases (title : String) (outcome : Checked α) (w : σ) :
    (∃ a, outcome = .ok a ∧ (ofChecked title outcome : Run σ α) w = ⟨.ok a, [], w⟩) ∨
      ∃ x, (ofChecked title outcome : Run σ α) w = ⟨.error x, [], w⟩ := by
  cases outcome with
  | ok a => exact .inl ⟨a, rfl, rfl⟩
  | faulty fault => exact .inr ⟨_, rfl⟩

/-- Messages are printed in their order. -/
@[simp]
lemma sayAll_apply (messages : List Message) (w : σ) :
    (sayAll messages : Run σ Unit) w = ⟨.ok (), messages.map .message, w⟩ := by
  induction messages with
  | nil => rfl
  | cons message rest ih => simp [sayAll, andThen, say, enter, ih]

/-! ### Spans -/

/-- What is seen of a span before its run. -/
def spanOpening (name : String) (attributes : List (String × Value)) : Trace :=
  [.span (.started ⟨name, attributes, false, false⟩),
    .event ⟨.debug, "span_started", spanFields name attributes⟩]

/-- What is seen of a span behind its run. -/
def spanClosing (name : String) (attributes : List (String × Value)) : Except Raised α → Trace
  | .ok _ =>
    [.span .succeeded, .event ⟨.debug, "span_completed", spanFields name attributes⟩]
  | .error (.failure f) =>
    [.span (.recorded f), .span (.failed f.message),
      .event ⟨.error, "span_failed", spanFields name attributes ++ [("error_type", .str f.name)]⟩]
  | .error _ => []

/-- A run inside a span ends as it ends by itself. -/
theorem span_apply {name : String} {attributes : List (String × Value)}
    (hattributes : ∀ a ∈ attributes, a.1 ∉ reservedAttributes) (body : Run σ α) (w : σ) :
    span name attributes body w =
      ⟨(body w).result, spanOpening name attributes ++ (body w).trace ++
        spanClosing name attributes (body w).result, (body w).world⟩ := by
  have hany : ¬ (attributes.any fun a => reservedAttributes.contains a.1) = true := by
    simpa using hattributes
  rw [span, if_neg hany]
  cases hresult : (body w).result with
  | ok a => simp [bind_apply, enter, spanOpening, spanClosing, hresult]
  | error x =>
    cases x with
    | failure f => simp [bind_apply, enter, spanOpening, spanClosing, hresult]
    | interrupt message => simp [bind_apply, enter, spanOpening, spanClosing, hresult]

end Run

end ClassSharing
