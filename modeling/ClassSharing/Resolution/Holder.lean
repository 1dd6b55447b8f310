/-!
# Holder classes

The four classes into which the code of resolved lambda forms is generated ahead of time.
-/

namespace ClassSharing

/-- A holder class. -/
inductive HolderClass where
  | direct
  | delegating
  | basicForms
  | invokers
  deriving DecidableEq, Repr

namespace HolderClass

/-- The holder classes. -/
def all : List HolderClass := [direct, delegating, basicForms, invokers]

/-- The name of a holder class. -/
def name : HolderClass → String
  | direct => "java.lang.invoke.DirectMethodHandle$Holder"
  | delegating => "java.lang.invoke.DelegatingMethodHandle$Holder"
  | basicForms => "java.lang.invoke.LambdaForm$Holder"
  | invokers => "java.lang.invoke.Invokers$Holder"

/-- The holder class of a name. -/
def ofName? (name : String) : Option HolderClass := all.find? fun h => h.name == name

theorem mem_all (h : HolderClass) : h ∈ all := by cases h <;> decide

theorem ofName?_name (h : HolderClass) : ofName? h.name = some h := by cases h <;> decide

theorem name_of_ofName? {name : String} {h : HolderClass} (hn : ofName? name = some h) :
    h.name = name := by
  simpa using List.find?_some hn

end HolderClass

/-- Whether a name is that of a holder class. -/
def isHolderName (name : String) : Bool := (HolderClass.ofName? name).isSome

end ClassSharing
