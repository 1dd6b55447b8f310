/-!
# JSON values

The values of a report: numbers are integers, and an object keeps the order of its members.
-/

namespace ClassSharing

/-- A JSON value. -/
inductive Json where
  | null
  | bool (b : Bool)
  | int (n : Int)
  | str (s : String)
  | arr (items : List Json)
  | obj (members : List (String × Json))
  deriving Inhabited, Repr

end ClassSharing
