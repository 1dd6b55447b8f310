import ClassSharing.Proofs.Run.Laws

/-!
# The calls of a run

A run is seen from outside by the calls that it makes. `Makes` says that a run makes given calls in
order and stops at the first that is not answered, with what that has raised. It is built up as the
run is: from single calls (`makes_ask`, `makes_launch`, `makes_written`, `makes_exit`), from parts
that call nobody (`makes_nil`), by `Makes.bind` and `Makes.span`. In the other direction
`Makes.calls_prefix` and `Makes.cases_query` say what was called by a run that makes calls.
-/

namespace ClassSharing

/-! ### Attempted calls -/

/-- A call that was made, and what its collaborator has raised, if it has not answered. -/
structure Attempt where
  call : Call
  raised : Option Raised

/-- A call that was answered. -/
def Attempt.answered (c : Call) : Attempt := ⟨c, none⟩

/-- What is seen of an attempted call, as far as it is no event. -/
def Attempt.entry (a : Attempt) : Entry := .call a.call [] a.raised

/-- The attempted calls of a trace. -/
def Trace.attempts (t : Trace) : List Attempt := t.filterMap fun
  | .call c _ x => some ⟨c, x⟩
  | _ => none

@[simp]
lemma Trace.attempts_append (s t : Trace) : attempts (s ++ t) = attempts s ++ attempts t :=
  List.filterMap_append

/-- The calls of a trace are those attempted. -/
lemma Trace.calls_eq_map_attempts (t : Trace) : t.calls = t.attempts.map Attempt.call := by
  rw [calls, attempts, List.map_filterMap]
  congr 1
  funext e
  cases e <;> rfl

/-- What collaborators have raised was raised at attempted calls. -/
lemma Trace.raised_eq_filterMap_attempts (t : Trace) :
    t.raised = t.attempts.filterMap Attempt.raised := by
  rw [raised, attempts, List.filterMap_filterMap]
  congr 1
  funext e
  cases e <;> rfl

/-- Attempted calls are seen as such. -/
@[simp]
lemma Trace.attempts_map_entry (attempts : List Attempt) :
    Trace.attempts (attempts.map Attempt.entry) = attempts := by
  induction attempts with
  | nil => rfl
  | cons a rest ih => exact congrArg (a :: ·) ih

/-- Messages are no calls. -/
@[simp]
lemma Trace.attempts_map_message (messages : List Message) :
    attempts (messages.map .message) = [] := by
  induction messages with
  | nil => rfl
  | cons message rest ih => exact ih

/-- The process that a call launches. -/
def Call.spawned? : Call → Option ProcessSpec
  | .spawn spec _ => some spec
  | _ => none

/-- The processes that a run has tried to launch. -/
def Trace.spawned (t : Trace) : List ProcessSpec := t.calls.filterMap Call.spawned?

/-! ### Collaborators -/

/-- Where collaborators stand: their world, and the process that was launched last. -/
structure Stage (σ : Type) where
  world : σ
  child : Option Child

/-- Where collaborators stand after a launcher has replied. -/
def Stage.afterLaunch {σ : Type} (s : Stage σ) (reply : Reply σ Child) : Stage σ :=
  ⟨reply.world, reply.answer.toOption.or s.child⟩

/-- A collaborator that has raised nothing has answered. -/
lemma Reply.raised?_eq_none_iff {σ α : Type} {reply : Reply σ α} :
    reply.raised? = none ↔ ∃ a, reply.answer = .ok a := by
  cases hreply : reply.answer <;> simp [raised?, hreply]

/-- A collaborator that has raised something has not answered. -/
lemma Reply.raised?_eq_some_iff {σ α : Type} {reply : Reply σ α} {x : Raised} :
    reply.raised? = some x ↔ reply.answer = .error x := by
  cases hreply : reply.answer <;> simp [raised?, hreply]

section

variable {σ : Type} (m : Machine σ) (l : Launcher σ)

/-- What collaborators do with a call: it is noted with what they have raised, and they move on. A
process answers by itself. -/
inductive Answers : Stage σ → Attempt → Stage σ → Prop
  | query (s : Stage σ) (q : Query) :
    Answers s ⟨.query q, (m q s.world).raised?⟩ ⟨(m q s.world).world, s.child⟩
  | spawn (s : Stage σ) (spec : ProcessSpec) (streams : Streams) :
    Answers s ⟨.spawn spec streams, (l spec s.world).raised?⟩ (s.afterLaunch (l spec s.world))
  | written (w : σ) (child : Child) :
    Answers ⟨w, some child⟩ ⟨.communicate, Reply.raised? ⟨child.written, [], w⟩⟩ ⟨w, some child⟩
  | exit (w : σ) (child : Child) :
    Answers ⟨w, some child⟩ ⟨.wait, Reply.raised? ⟨child.exit, [], w⟩⟩ ⟨w, some child⟩

/-- Calls with which collaborators deal one after the other. -/
inductive AnswersAll : Stage σ → List Attempt → Stage σ → Prop
  | nil (s : Stage σ) : AnswersAll s [] s
  | cons {s s' s'' : Stage σ} {a : Attempt} {rest : List Attempt} (first : Answers m l s a s')
    (others : AnswersAll s' rest s'') : AnswersAll s (a :: rest) s''

/-- A run makes calls in order. Either all of them are answered, and what is said of the result and
of where the collaborators stand is true, or the run ends with what the first call that is not
answered has raised, and makes no other. -/
def Makes {α : Type} (calls : List Call) (s : Stage σ) (e : Ended σ α)
    (holds : Except Raised α → Stage σ → Prop) : Prop :=
  ∃ s' : Stage σ, AnswersAll m l s e.trace.attempts s' ∧ e.world = s'.world ∧
    ((∃ before last after x, calls = before ++ last :: after ∧
        e.trace.attempts = before.map .answered ++ [⟨last, some x⟩] ∧ e.result = .error x) ∨
      e.trace.attempts = calls.map .answered ∧ holds e.result s')

variable {m l} {α β : Type} {calls rest : List Call} {s : Stage σ}

/-- Calls that are dealt with in two parts. -/
lemma AnswersAll.append {s s' s'' : Stage σ} {first others : List Attempt}
    (h : AnswersAll m l s first s') (hothers : AnswersAll m l s' others s'') :
    AnswersAll m l s (first ++ others) s'' := by
  induction h with
  | nil => exact hothers
  | cons ha _ ih => exact .cons ha (ih hothers)

/-- Calls that are dealt with may be cut in two parts. -/
lemma AnswersAll.of_append {s s'' : Stage σ} {first others : List Attempt}
    (h : AnswersAll m l s (first ++ others) s'') :
    ∃ s', AnswersAll m l s first s' ∧ AnswersAll m l s' others s'' := by
  induction first generalizing s with
  | nil => exact ⟨s, .nil s, h⟩
  | cons a rest ih =>
    obtain _ | ⟨hfirst, hrest⟩ := h
    obtain ⟨s', hrest, hothers⟩ := ih hrest
    exact ⟨s', .cons hfirst hrest, hothers⟩

/-- What is said of the end may be weakened. -/
lemma Makes.imp {e : Ended σ α} {holds holds' : Except Raised α → Stage σ → Prop}
    (h : Makes m l calls s e holds) (himp : ∀ result s', holds result s' → holds' result s') :
    Makes m l calls s e holds' := by
  obtain ⟨s', hanswers, hworld, hcut | ⟨hcalls, hholds⟩⟩ := h
  · exact ⟨s', hanswers, hworld, .inl hcut⟩
  · exact ⟨s', hanswers, hworld, .inr ⟨hcalls, himp _ _ hholds⟩⟩

/-- The calls that are made are the first of those that are to be made. -/
lemma Makes.calls_prefix {e : Ended σ α} {holds : Except Raised α → Stage σ → Prop}
    (h : Makes m l calls s e holds) : e.trace.calls <+: calls := by
  have hanswered : ∀ cs : List Call, (cs.map Attempt.answered).map Attempt.call = cs := by
    intro cs
    rw [List.map_map]
    exact List.map_id cs
  obtain ⟨s', -, -, ⟨before, last, after, x, rfl, hattempts, -⟩ | ⟨hattempts, -⟩⟩ := h
  · rw [Trace.calls_eq_map_attempts, hattempts, List.map_append, hanswered]
    exact ⟨after, by simp⟩
  · rw [Trace.calls_eq_map_attempts, hattempts, hanswered]

/-! ### Single calls -/

/-- A run that calls nobody and leaves the world as it is. -/
lemma makes_nil {e : Ended σ α} {holds : Except Raised α → Stage σ → Prop}
    (hcalls : e.trace.attempts = []) (hworld : e.world = s.world) (h : holds e.result s) :
    Makes m l [] s e holds :=
  ⟨s, hcalls ▸ .nil s, hworld, .inr ⟨hcalls, h⟩⟩

/-- A call with its reply is that call made. -/
lemma makes_call {c : Call} {answer : σ → Reply σ α} {s' : Stage σ}
    (hanswers : Answers m l s ⟨c, (answer s.world).raised?⟩ s')
    (hworld : (answer s.world).world = s'.world) :
    Makes m l [c] s (Run.call c answer s.world) fun result s'' =>
      ∃ a, result = .ok a ∧ (answer s.world).answer = .ok a ∧ s'' = s' := by
  refine ⟨s', .cons hanswers (.nil s'), hworld, ?_⟩
  cases hreply : (answer s.world).answer with
  | ok a =>
    have hattempts : (Run.call c answer s.world).trace.attempts = [.answered c] := by
      simp [Trace.attempts, Reply.raised?, hreply, Attempt.answered]
    exact .inr ⟨hattempts, a, hreply, rfl, rfl⟩
  | error x =>
    have hattempts : (Run.call c answer s.world).trace.attempts = [⟨c, some x⟩] := by
      simp [Trace.attempts, Reply.raised?, hreply]
    exact .inl ⟨[], c, [], x, rfl, hattempts, hreply⟩

/-- A machine is asked. -/
lemma makes_ask (q : Query) :
    Makes m l [.query q] s (Run.ask m q s.world) fun result s' =>
      ∃ a, result = .ok a ∧ (m q s.world).answer = .ok a ∧
        s' = ⟨(m q s.world).world, s.child⟩ :=
  makes_call (.query s q) rfl

/-- A process is launched. -/
lemma makes_launch (spec : ProcessSpec) (streams : Streams) :
    Makes m l [.spawn spec streams] s (Run.call (.spawn spec streams) (l spec) s.world)
      fun result s' =>
        ∃ child, result = .ok child ∧ s' = ⟨(l spec s.world).world, some child⟩ := by
  refine (makes_call (.spawn s spec streams) rfl).imp ?_
  rintro result s' ⟨child, hresult, hchild, rfl⟩
  exact ⟨child, hresult, by simp [Stage.afterLaunch, hchild, Except.toOption]⟩

/-- The output of a process is read. -/
lemma makes_written (w : σ) (child : Child) :
    Makes m l [.communicate] ⟨w, some child⟩ (Run.await .communicate child.written w)
      fun result s' => ∃ a, result = .ok a ∧ child.written = .ok a ∧ s' = ⟨w, some child⟩ :=
  makes_call (.written w child) rfl

/-- The end of a process is awaited. -/
lemma makes_exit (w : σ) (child : Child) :
    Makes m l [.wait] ⟨w, some child⟩ (Run.await .wait child.exit w)
      fun result s' => ∃ exit, result = .ok exit ∧ child.exit = .ok exit ∧ s' = ⟨w, some child⟩ :=
  makes_call (.exit w child) rfl

/-! ### Composition -/

/-- A run with a result, and behind it another. -/
lemma Makes.bind {r : Run σ α} {f : α → Run σ β} {holds : α → Stage σ → Prop}
    {holds' : Except Raised β → Stage σ → Prop}
    (h : Makes m l calls s (r s.world) fun result s' => ∃ a, result = .ok a ∧ holds a s')
    (hnext : ∀ a s', holds a s' → Makes m l rest s' (f a s'.world) holds') :
    Makes m l (calls ++ rest) s ((r >>= f) s.world) holds' := by
  obtain ⟨s', hanswers, hworld, ⟨before, last, after, x, hcalls, hattempts, hresult⟩ |
    ⟨hattempts, a, hresult, hholds⟩⟩ := h
  · have hrun : (r >>= f) s.world = ⟨.error x, (r s.world).trace, (r s.world).world⟩ :=
      Run.bind_of_error (by rw [← hresult])
    rw [hrun]
    refine ⟨s', hanswers, hworld, .inl ⟨before, last, after ++ rest, x, ?_, hattempts, rfl⟩⟩
    rw [hcalls, List.append_assoc, List.cons_append]
  · have hrun : (r >>= f) s.world = ⟨(f a s'.world).result,
        (r s.world).trace ++ (f a s'.world).trace, (f a s'.world).world⟩ :=
      Run.bind_of_ok (by rw [← hresult, ← hworld])
    obtain ⟨s'', hothers, hend, hrest⟩ := hnext a s' hholds
    rw [hrun]
    refine ⟨s'', ?_, hend, ?_⟩
    · rw [Trace.attempts_append]
      exact hanswers.append hothers
    · rcases hrest with ⟨before, last, after, x, hcalls, hlast, hresult⟩ | ⟨hlast, hholds'⟩
      · refine .inl ⟨calls ++ before, last, after, x, ?_, ?_, hresult⟩
        · rw [hcalls, List.append_assoc]
        · rw [Trace.attempts_append, hattempts, hlast, List.map_append, List.append_assoc]
      · refine .inr ⟨?_, hholds'⟩
        rw [Trace.attempts_append, hattempts, hlast, List.map_append]

/-- A run with a result, and behind it another that calls nobody. -/
lemma Makes.bind_nil {r : Run σ α} {f : α → Run σ β} {holds : α → Stage σ → Prop}
    {holds' : Except Raised β → Stage σ → Prop}
    (h : Makes m l calls s (r s.world) fun result s' => ∃ a, result = .ok a ∧ holds a s')
    (hnext : ∀ a s', holds a s' → Makes m l [] s' (f a s'.world) holds') :
    Makes m l calls s ((r >>= f) s.world) holds' := by
  rw [← List.append_nil calls]
  exact h.bind hnext

/-- A run that ends early, and behind it another that is not begun. -/
lemma Makes.bind_error {r : Run σ α} {f : α → Run σ β} {x : Raised}
    (h : Makes m l calls s (r s.world) fun result _ => result = .error x) :
    Makes m l calls s ((r >>= f) s.world) fun result _ => result = .error x := by
  have hend : ∀ y, (r s.world).result = .error y →
      (r >>= f) s.world = ⟨.error y, (r s.world).trace, (r s.world).world⟩ :=
    fun y hy => Run.bind_of_error (by rw [← hy])
  obtain ⟨s', hanswers, hworld, ⟨before, last, after, y, hcalls, hattempts, hresult⟩ |
    ⟨hattempts, hresult⟩⟩ := h
  · rw [hend y hresult]
    exact ⟨s', hanswers, hworld, .inl ⟨before, last, after, y, hcalls, hattempts, rfl⟩⟩
  · rw [hend x hresult]
    exact ⟨s', hanswers, hworld, .inr ⟨hattempts, rfl⟩⟩

/-- A run that calls nobody and has a result, and behind it another. -/
lemma Makes.after {r : Run σ α} {f : α → Run σ β} {holds : Except Raised β → Stage σ → Prop}
    {a : α} {t : Trace} (hfirst : r s.world = ⟨.ok a, t, s.world⟩) (ht : t.attempts = [])
    (h : Makes m l calls s (f a s.world) holds) :
    Makes m l calls s ((r >>= f) s.world) holds := by
  have hnil : Makes m l [] s (r s.world) fun result s' => ∃ b, result = .ok b ∧ b = a ∧ s' = s := by
    rw [hfirst]
    exact makes_nil ht rfl ⟨a, rfl, rfl, rfl⟩
  refine hnil.bind ?_
  rintro b s' ⟨rfl, rfl⟩
  exact h

/-! ### Taking runs apart -/

/-- The first call is made in any case. -/
lemma Makes.exists_calls_eq_cons {c : Call} {e : Ended σ α}
    {holds : Except Raised α → Stage σ → Prop} (h : Makes m l (c :: rest) s e holds) :
    ∃ made, e.trace.calls = c :: made ∧ made <+: rest := by
  obtain ⟨made, hmade⟩ : ∃ made, e.trace.calls = c :: made := by
    obtain ⟨s', -, -, ⟨before, last, after, x, hcalls, hattempts, -⟩ | ⟨hattempts, -⟩⟩ := h
    · rw [Trace.calls_eq_map_attempts, hattempts]
      cases before with
      | nil => exact ⟨[], by rw [(List.cons.inj hcalls).1]; rfl⟩
      | cons first before => exact ⟨_, by rw [(List.cons.inj hcalls).1]; rfl⟩
    · rw [Trace.calls_eq_map_attempts, hattempts]
      exact ⟨_, rfl⟩
  have hprefix := h.calls_prefix
  rw [hmade, List.cons_prefix_cons] at hprefix
  exact ⟨made, hmade, hprefix.2⟩

/-- What a machine does with a query is what it replies. -/
lemma Answers.query_inv {q : Query} {x? : Option Raised} {s' : Stage σ}
    (h : Answers m l s ⟨.query q, x?⟩ s') :
    (m q s.world).raised? = x? ∧ s' = ⟨(m q s.world).world, s.child⟩ := by
  cases h with
  | query => exact ⟨rfl, rfl⟩

/-- A run that asks a machine first ends with what the machine has raised, or goes on from where the
machine stands. -/
lemma Makes.cases_attempts {q : Query} {e : Ended σ α} {holds : Except Raised α → Stage σ → Prop}
    (h : Makes m l (.query q :: rest) s e holds) :
    (∃ x, (m q s.world).answer = .error x ∧ e.result = .error x ∧
        e.trace.attempts = [⟨.query q, some x⟩] ∧ e.world = (m q s.world).world) ∨
      ∃ a e', (m q s.world).answer = .ok a ∧ e'.result = e.result ∧ e'.world = e.world ∧
        e.trace.attempts = .answered (.query q) :: e'.trace.attempts ∧
        Makes m l rest ⟨(m q s.world).world, s.child⟩ e' holds := by
  obtain ⟨s', hanswers, hworld, hend⟩ := h
  -- what is left of the run behind the first call
  have hgoes : ∀ attempts, e.trace.attempts = .answered (.query q) :: attempts →
      ((∃ before last after x, rest = before ++ last :: after ∧
        attempts = before.map .answered ++ [⟨last, some x⟩] ∧ e.result = .error x) ∨
      attempts = rest.map .answered ∧ holds e.result s') →
      ∃ a e', (m q s.world).answer = .ok a ∧ e'.result = e.result ∧ e'.world = e.world ∧
        e.trace.attempts = .answered (.query q) :: e'.trace.attempts ∧
        Makes m l rest ⟨(m q s.world).world, s.child⟩ e' holds := by
    intro attempts hattempts hends
    rw [hattempts] at hanswers
    obtain _ | ⟨hfirst, hothers⟩ := hanswers
    obtain ⟨hanswered, rfl⟩ := hfirst.query_inv
    obtain ⟨a, ha⟩ := Reply.raised?_eq_none_iff.mp hanswered
    refine ⟨a, ⟨e.result, attempts.map Attempt.entry, e.world⟩, ha, rfl, rfl, ?_, s', ?_, hworld,
      ?_⟩
    · rw [Trace.attempts_map_entry, hattempts]
    · rw [Trace.attempts_map_entry]
      exact hothers
    · rw [Trace.attempts_map_entry]
      exact hends
  rcases hend with ⟨_ | ⟨first, before⟩, last, after, x, hcalls, hattempts, hresult⟩ |
    ⟨hattempts, hholds⟩
  · obtain ⟨rfl, rfl⟩ := List.cons.inj hcalls
    rw [hattempts] at hanswers
    obtain _ | ⟨hfirst, hothers⟩ := hanswers
    obtain ⟨hraised, rfl⟩ := hfirst.query_inv
    cases hothers
    exact .inl ⟨x, Reply.raised?_eq_some_iff.mp hraised, hresult, hattempts, hworld⟩
  · obtain ⟨rfl, rfl⟩ := List.cons.inj hcalls
    exact .inr (hgoes _ hattempts (.inl ⟨before, last, after, x, rfl, rfl, hresult⟩))
  · exact .inr (hgoes _ hattempts (.inr ⟨rfl, hholds⟩))

/-- The calls of a run that asks a machine first. -/
lemma Makes.cases_query {q : Query} {e : Ended σ α} {holds : Except Raised α → Stage σ → Prop}
    (h : Makes m l (.query q :: rest) s e holds) :
    (∃ x, (m q s.world).answer = .error x ∧ e.result = .error x ∧ e.trace.calls = [.query q]) ∨
      ∃ a e', (m q s.world).answer = .ok a ∧ e'.result = e.result ∧
        e.trace.calls = .query q :: e'.trace.calls ∧
        Makes m l rest ⟨(m q s.world).world, s.child⟩ e' holds := by
  rcases h.cases_attempts with ⟨x, hx, hresult, hattempts, -⟩ |
    ⟨a, e', ha, hresult, -, hattempts, hmakes⟩
  · exact .inl ⟨x, hx, hresult, by rw [Trace.calls_eq_map_attempts, hattempts]; rfl⟩
  · refine .inr ⟨a, e', ha, hresult, ?_, hmakes⟩
    rw [Trace.calls_eq_map_attempts, hattempts, Trace.calls_eq_map_attempts]
    rfl

/-! ### Spans -/

/-- A run inside a span makes the same calls. -/
lemma Makes.span {name : String} {attributes : List (String × Value)} {body : Run σ α}
    {holds : Except Raised α → Stage σ → Prop}
    (hattributes : ∀ a ∈ attributes, a.1 ∉ Run.reservedAttributes)
    (h : Makes m l calls s (body s.world) holds) :
    Makes m l calls s (Run.span name attributes body s.world) holds := by
  have hopening : (Run.spanOpening name attributes).attempts = [] := rfl
  have hclosing : (Run.spanClosing name attributes (body s.world).result).attempts = [] := by
    unfold Run.spanClosing
    split <;> rfl
  have hattempts : (Run.span name attributes body s.world).trace.attempts =
      (body s.world).trace.attempts := by
    rw [Run.span_apply hattributes, Trace.attempts_append, Trace.attempts_append, hopening,
      hclosing, List.nil_append, List.append_nil]
  unfold Makes at h ⊢
  rw [hattempts, Run.span_apply hattributes]
  exact h

end

end ClassSharing
