import ClassSharing.Proofs.Run.Calls

/-!
# Runs that follow a script

A script lists calls and messages in the order in which they are to be made. A run follows it
(`Follows`) if it makes all of them in this order, or stops at the first call that is not answered
and ends with what that has raised; then what is printed is what stands in front of that call. Runs
follow one script behind the other (`Follows.bind`), and what is not a call or a message does not
matter (`Follows.around`).
-/

namespace ClassSharing

/-! ### Calls and messages in their order -/

/-- A part of a script: a call or a message. -/
abbrev Cue := Call ⊕ Message

/-- A part of a script as it is seen when it is done: a call is answered. -/
def Cue.done : Cue → Attempt ⊕ Message := Sum.map .answered id

/-- The message of a part of a script, if it is one. -/
def Cue.message? : Cue → Option Message
  | .inl _ => none
  | .inr message => some message

namespace Trace

/-- The attempted calls and the messages of a trace, in their order. -/
def acts (t : Trace) : List (Attempt ⊕ Message) := t.filterMap fun
  | .call c _ x => some (.inl ⟨c, x⟩)
  | .message message => some (.inr message)
  | _ => none

@[simp]
lemma acts_append (s t : Trace) : acts (s ++ t) = acts s ++ acts t :=
  List.filterMap_append

/-- Messages are seen as such. -/
@[simp]
lemma acts_map_message (messages : List Message) :
    acts (messages.map .message) = messages.map .inr := by
  induction messages with
  | nil => rfl
  | cons message rest ih => exact congrArg (.inr message :: ·) ih

/-- The messages of a trace stand among its calls and messages. -/
lemma messages_eq_filterMap_acts (t : Trace) :
    t.messages = t.acts.filterMap Sum.getRight? := by
  rw [messages, acts, List.filterMap_filterMap]
  congr 1
  funext entry
  cases entry <;> rfl

/-- The attempted calls of a trace stand among its calls and messages. -/
lemma attempts_eq_filterMap_acts (t : Trace) :
    t.attempts = t.acts.filterMap Sum.getLeft? := by
  rw [attempts, acts, List.filterMap_filterMap]
  congr 1
  funext entry
  cases entry <;> rfl

end Trace

/-! ### Following a script -/

/-- A run follows a script to its end, and what is said of its own end is true; or it follows it up
to the first call that is not answered, and ends with what that has raised. -/
def Follows {σ α : Type} (script : List Cue) (e : Ended σ α) (ends : Except Raised α → Prop) :
    Prop :=
  (∃ before last after x, script = before ++ .inl last :: after ∧
    e.trace.acts = before.map Cue.done ++ [.inl ⟨last, some x⟩] ∧ e.result = .error x) ∨
  e.trace.acts = script.map Cue.done ∧ ends e.result

section

variable {σ α β : Type} {script rest : List Cue} {ends : Except Raised α → Prop}

/-- A run that neither calls nor prints. -/
lemma follows_nil {e : Ended σ α} (hacts : e.trace.acts = []) (h : ends e.result) :
    Follows [] e ends :=
  .inr ⟨hacts, h⟩

/-- A call. -/
lemma follows_call (c : Call) (answer : σ → Reply σ α) (w : σ) :
    Follows [.inl c] (Run.call c answer w) fun result => ∃ a, result = .ok a ∧
      (answer w).answer = .ok a := by
  cases hanswer : (answer w).answer with
  | ok a =>
    have hraised : (answer w).raised? = none := Reply.raised?_eq_none_iff.mpr ⟨a, hanswer⟩
    have hacts : (Run.call c answer w).trace.acts = [.inl (.answered c)] := by
      simp [Trace.acts, hraised, Attempt.answered]
    exact .inr ⟨hacts, a, hanswer, rfl⟩
  | error x =>
    have hraised : (answer w).raised? = some x := Reply.raised?_eq_some_iff.mpr hanswer
    have hacts : (Run.call c answer w).trace.acts = [.inl ⟨c, some x⟩] := by
      simp [Trace.acts, hraised]
    exact .inl ⟨[], c, [], x, rfl, hacts, hanswer⟩

/-- Messages that are printed. -/
lemma follows_sayAll (messages : List Message) (w : σ) :
    Follows (messages.map .inr) ((Run.sayAll messages : Run σ Unit) w) fun result =>
      result = .ok () := by
  refine .inr ⟨?_, by rw [Run.sayAll_apply]⟩
  rw [Run.sayAll_apply, Trace.acts_map_message, List.map_map]
  rfl

/-- What is said of the end may be weakened. -/
lemma Follows.imp {e : Ended σ α} {ends' : Except Raised α → Prop} (h : Follows script e ends)
    (himp : ∀ result, ends result → ends' result) : Follows script e ends' :=
  Or.imp_right (fun hend => ⟨hend.1, himp _ hend.2⟩) h

/-- A run, and behind it another that its result and its world are handed to. -/
lemma Follows.bind {r : Run σ α} {f : α → Run σ β} {w : σ} {holds : α → Prop}
    {ends' : Except Raised β → Prop}
    (h : Follows script (r w) fun result => ∃ a, result = .ok a ∧ holds a)
    (hnext : ∀ a, holds a → Follows rest (f a (r w).world) ends') :
    Follows (script ++ rest) ((r >>= f) w) ends' := by
  obtain ⟨before, last, after, x, rfl, hacts, hresult⟩ | ⟨hacts, a, hresult, ha⟩ := h
  · have hrun : (r >>= f) w = ⟨.error x, (r w).trace, (r w).world⟩ :=
      Run.bind_of_error (by rw [← hresult])
    rw [hrun]
    exact .inl ⟨before, last, after ++ rest, x, by simp, hacts, rfl⟩
  · have hrun : (r >>= f) w = ⟨(f a (r w).world).result,
        (r w).trace ++ (f a (r w).world).trace, (f a (r w).world).world⟩ :=
      Run.bind_of_ok (by rw [← hresult])
    rw [hrun]
    obtain ⟨before, last, after, x, rfl, hacts', hresult'⟩ | ⟨hacts', hends⟩ := hnext a ha
    · refine .inl ⟨script ++ before, last, after, x, by simp, ?_, hresult'⟩
      rw [Trace.acts_append, hacts, hacts', List.map_append, List.append_assoc]
    · refine .inr ⟨?_, hends⟩
      rw [Trace.acts_append, hacts, hacts', List.map_append]

/-- A run, and behind it another that neither calls nor prints. -/
lemma Follows.bind_nil {r : Run σ α} {f : α → Run σ β} {w : σ} {holds : α → Prop}
    {ends' : Except Raised β → Prop}
    (h : Follows script (r w) fun result => ∃ a, result = .ok a ∧ holds a)
    (hnext : ∀ a, holds a → Follows [] (f a (r w).world) ends') :
    Follows script ((r >>= f) w) ends' := by
  rw [← List.append_nil script]
  exact h.bind hnext

/-- Around a run some messages are printed before it, and its result is handed on in another
form. -/
lemma Follows.around {e : Ended σ α} {g : α → β} {front back : Trace} {w : σ}
    {texts : List Message} (h : Follows script e ends) (hfront : front.acts = texts.map .inr)
    (hback : back.acts = []) {ends' : Except Raised β → Prop}
    (hends : ∀ result, ends result → ends' (result.map g)) :
    Follows (texts.map .inr ++ script)
      (⟨e.result.map g, front ++ e.trace ++ back, w⟩ : Ended σ β) ends' := by
  have hdone : (texts.map Sum.inr).map Cue.done = front.acts := by
    rw [hfront, List.map_map]
    rfl
  have hacts : (front ++ e.trace ++ back).acts =
      (texts.map Sum.inr).map Cue.done ++ e.trace.acts := by
    rw [Trace.acts_append, Trace.acts_append, hback, List.append_nil, hdone]
  obtain ⟨before, last, after, x, rfl, hbefore, hresult⟩ | ⟨hscript, hend⟩ := h
  · refine .inl ⟨texts.map .inr ++ before, last, after, x, by simp, ?_, ?_⟩
    · rw [hacts, hbefore, List.map_append, List.append_assoc]
    · rw [hresult]
      rfl
  · refine .inr ⟨?_, hends _ hend⟩
    rw [hacts, hscript, List.map_append]

/-! ### What is printed -/

/-- The messages of parts of a script that are done. -/
lemma filterMap_done (cues : List Cue) :
    (cues.map Cue.done).filterMap Sum.getRight? = cues.filterMap Cue.message? := by
  rw [List.filterMap_map]
  congr 1
  funext cue
  cases cue <;> rfl

/-- The messages of parts of a script that are done, in front of a call. -/
lemma filterMap_done_append_attempt (cues : List Cue) (a : Attempt) :
    (cues.map Cue.done ++ [Sum.inl a]).filterMap Sum.getRight? = cues.filterMap Cue.message? := by
  rw [List.filterMap_append, filterMap_done]
  exact List.append_nil _

/-- A run with a result has followed its script to the end. -/
lemma Follows.to_end {e : Ended σ α} (h : Follows script e ends) {a : α} (ha : e.result = .ok a) :
    e.trace.acts = script.map Cue.done ∧ ends e.result := by
  obtain ⟨_, _, _, x, -, -, hx⟩ | hend := h
  · exact absurd (ha.symm.trans hx) (by simp)
  · exact hend

/-- A run with a result has printed all messages of its script. -/
lemma Follows.messages_eq {e : Ended σ α} (h : Follows script e ends) {a : α}
    (ha : e.result = .ok a) : e.trace.messages = script.filterMap Cue.message? := by
  rw [Trace.messages_eq_filterMap_acts, (h.to_end ha).1, filterMap_done]

/-- What is printed is the beginning of the messages of the script. -/
lemma Follows.messages_prefix {e : Ended σ α} (h : Follows script e ends) :
    e.trace.messages <+: script.filterMap Cue.message? := by
  rw [Trace.messages_eq_filterMap_acts]
  obtain ⟨before, last, after, x, rfl, hacts, -⟩ | ⟨hacts, -⟩ := h
  · rw [hacts, filterMap_done_append_attempt, List.filterMap_append]
    exact List.prefix_append _ _
  · rw [hacts, filterMap_done]

/-- Unless a call of a script is answered, nothing is printed that stands behind it. -/
lemma Follows.messages_prefix_of_not_answered {e : Ended σ α} {c : Call}
    (h : Follows (script ++ .inl c :: rest) e ends) (hc : .answered c ∉ e.trace.attempts) :
    e.trace.messages <+: script.filterMap Cue.message? := by
  rw [Trace.attempts_eq_filterMap_acts] at hc
  have hanswered : ∀ cues : List Cue, Sum.inl c ∈ cues →
      .answered c ∈ (cues.map Cue.done).filterMap Sum.getLeft? := by
    intro cues hmem
    exact List.mem_filterMap.mpr ⟨_, List.mem_map_of_mem hmem, rfl⟩
  obtain ⟨before, last, after, x, hscript, hacts, -⟩ | ⟨hacts, -⟩ := h
  · -- the call is not among those that were answered, so the run has stopped there or before
    have hbefore : Sum.inl c ∉ before := by
      intro hmem
      rw [hacts, List.filterMap_append] at hc
      exact hc (List.mem_append_left _ (hanswered before hmem))
    have hprefix : before <+: script := by
      rcases List.append_eq_append_iff.mp hscript with ⟨more, hbefore', hmore⟩ | ⟨more, hscript', -⟩
      · obtain _ | ⟨first, more⟩ := more
        · exact ⟨[], by simpa using hbefore'⟩
        · obtain ⟨rfl, -⟩ := List.cons.inj hmore
          exact absurd (by rw [hbefore']; simp) hbefore
      · exact ⟨more, hscript'.symm⟩
    rw [Trace.messages_eq_filterMap_acts, hacts, filterMap_done_append_attempt]
    exact hprefix.filterMap _
  · rw [hacts] at hc
    exact absurd (hanswered _ (List.mem_append_right _ List.mem_cons_self)) hc

end

end ClassSharing
