import ClassSharing.Proofs.Run.Calls

/-!
# Runs that only work

A run works if it does nothing that can be seen but to call collaborators and to print plain texts,
and if it ends early only with what its last call has raised, or for a reason of its own (`Works`).
Such a run logs no event and notes nothing on a span, and it never goes on behind a call that was
not answered. Runs that work may be put one behind the other (`Works.bind`).
-/

namespace ClassSharing

/-- A call of a collaborator, or a plain text. -/
inductive Entry.IsWork : Entry → Prop
  | call (c : Call) (heard : List Event) (raised : Option Raised) : IsWork (.call c heard raised)
  | text (s : String) : IsWork (.message (.plain s))

namespace Trace

/-- The last thing that is seen is a call that was not answered, and all calls before it were. -/
def EndsRaising (t : Trace) (x : Raised) : Prop :=
  ∃ (front : Trace) (c : Call) (heard : List Event),
    t = front ++ [.call c heard (some x)] ∧ front.raised = []

/-- What the last call has raised is all that was raised. -/
lemma EndsRaising.raised_eq {t : Trace} {x : Raised} (h : t.EndsRaising x) : t.raised = [x] := by
  obtain ⟨front, c, heard, rfl, hfront⟩ := h
  rw [raised_append, hfront]
  rfl

/-- What is seen before does not matter, if all calls in it were answered. -/
lemma EndsRaising.append {t : Trace} {x : Raised} (h : t.EndsRaising x) {s : Trace}
    (hs : s.raised = []) : (s ++ t).EndsRaising x := by
  obtain ⟨front, c, heard, rfl, hfront⟩ := h
  exact ⟨s ++ front, c, heard, by rw [List.append_assoc], by rw [raised_append, hs, hfront]; rfl⟩

/-- Plain texts are work. -/
lemma isWork_of_mem_map_plain {texts : List String} {entry : Entry}
    (h : entry ∈ (texts.map Message.plain).map Entry.message) : entry.IsWork := by
  obtain ⟨_, hmessage, rfl⟩ := List.mem_map.mp h
  obtain ⟨s, -, rfl⟩ := List.mem_map.mp hmessage
  exact .text s

section

variable {t : Trace} (h : ∀ entry ∈ t, entry.IsWork)

include h

/-- Work logs no event. -/
lemma ownEvents_of_isWork : t.ownEvents = [] := by
  refine List.filterMap_eq_nil_iff.mpr fun entry hentry => ?_
  cases h entry hentry <;> rfl

/-- Work notes nothing on a span. -/
lemma spanNotes_of_isWork : t.spanNotes = [] := by
  refine List.filterMap_eq_nil_iff.mpr fun entry hentry => ?_
  cases h entry hentry <;> rfl

/-- Work prints plain texts. -/
lemma plain_of_isWork {message : Message} (hmessage : message ∈ t.messages) :
    ∃ s, message = .plain s := by
  obtain ⟨entry, hentry, heq⟩ := List.mem_filterMap.mp hmessage
  cases h entry hentry with
  | call => exact absurd heq (by simp)
  | text s => exact ⟨s, (Option.some.inj heq).symm⟩

end

end Trace

/-- A run that works: what is seen of it is work, a result means that all calls were answered, and
it ends early with what its last call has raised, or for a reason of its own. -/
structure Works {σ α : Type} (own : Raised → Prop) (e : Ended σ α) : Prop where
  shows : ∀ entry ∈ e.trace, entry.IsWork
  of_ok : ∀ a, e.result = .ok a → e.trace.raised = []
  of_error : ∀ x, e.result = .error x → e.trace.EndsRaising x ∨ e.trace.raised = [] ∧ own x

section

variable {σ α β : Type} {own : Raised → Prop} {w : σ}

/-- A result by itself. -/
lemma works_done (a : α) (w : σ) : Works own (⟨.ok a, [], w⟩ : Ended σ α) :=
  ⟨fun _ h => absurd h List.not_mem_nil, fun _ _ => rfl, fun _ h => absurd h (by simp)⟩

/-- A reason of one's own. -/
lemma works_fail {f : Failure} (h : own (.failure f)) (w : σ) :
    Works own ((Run.fail f : Run σ α) w) := by
  refine ⟨fun _ hentry => absurd hentry List.not_mem_nil, fun _ hok => absurd hok (by simp), ?_⟩
  rintro _ ⟨rfl⟩
  exact .inr ⟨rfl, h⟩

/-- A call. -/
lemma works_call (c : Call) (answer : σ → Reply σ α) (w : σ) :
    Works own (Run.call c answer w) := by
  refine ⟨fun entry hentry => ?_, fun a ha => ?_, fun x hx => .inl ?_⟩
  · obtain rfl := List.mem_singleton.mp hentry
    exact .call _ _ _
  · have hraised : (answer w).raised? = none := Reply.raised?_eq_none_iff.mpr ⟨a, ha⟩
    simp [Trace.raised, hraised]
  · have hraised : (answer w).raised? = some x := Reply.raised?_eq_some_iff.mpr hx
    exact ⟨[], c, (answer w).heard, by simp [hraised], rfl⟩

/-- Texts that are printed. -/
lemma works_sayAll (texts : List String) (w : σ) :
    Works own ((Run.sayAll (texts.map .plain) : Run σ Unit) w) := by
  rw [Run.sayAll_apply]
  exact ⟨fun _ => Trace.isWork_of_mem_map_plain, fun _ _ => Trace.raised_map_message _,
    fun _ h => absurd h (by simp)⟩

/-- A run, and behind it another. -/
lemma Works.bind {r : Run σ α} {f : α → Run σ β} (h : Works own (r w))
    (hnext : ∀ a w', Works own (f a w')) : Works own ((r >>= f) w) := by
  rcases Run.bind_cases r f w with ⟨x, hx, hrun⟩ | ⟨a, ha, hrun⟩
  · rw [hrun]
    refine ⟨h.shows, fun _ hok => absurd hok (by simp), ?_⟩
    rintro _ ⟨rfl⟩
    exact h.of_error x hx
  · have hfirst := h.of_ok a ha
    have hrest := hnext a (r w).world
    rw [hrun]
    refine ⟨fun entry hentry => ?_, fun b hb => ?_, fun x hx => ?_⟩
    · exact (List.mem_append.mp hentry).elim (h.shows entry) (hrest.shows entry)
    · rw [Trace.raised_append, hfirst, hrest.of_ok b hb]
      rfl
    · refine (hrest.of_error x hx).imp (fun hends => hends.append hfirst) fun ⟨hnone, hown⟩ => ?_
      exact ⟨by rw [Trace.raised_append, hfirst, hnone]; rfl, hown⟩

end

end ClassSharing
