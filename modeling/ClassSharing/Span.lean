import ClassSharing.Run

/-!
# Spans

A span surrounds a run. It is started before the run and gets one status behind it: success, or a
failure with its wording. An interrupt passes through a span without a note.
-/

namespace ClassSharing.Run

variable {σ α : Type}

/-- The attribute names that a span may not have. -/
def reservedAttributes : List String := ["span", "self"]

/-- The fields that all events of a span have. -/
def spanFields (name : String) (attributes : List (String × Value)) : List (String × Value) :=
  ("span", .str name) :: attributes

/-- A run inside a span. -/
def span (name : String) (attributes : List (String × Value)) (body : Run σ α) : Run σ α :=
  if attributes.any fun a => reservedAttributes.contains a.1 then
    fail (.general .type "reserved attribute")
  else do
    let fields := spanFields name attributes
    enter (.span (.started ⟨name, attributes, false, false⟩))
    log ⟨.debug, "span_started", fields⟩
    match ← outcome body with
    | .ok a =>
      enter (.span .succeeded)
      log ⟨.debug, "span_completed", fields⟩
      return a
    | .error (.failure f) =>
      enter (.span (.recorded f))
      enter (.span (.failed f.message))
      log ⟨.error, "span_failed", fields ++ [("error_type", .str f.name)]⟩
      fail f
    | .error x => raise x

end ClassSharing.Run
