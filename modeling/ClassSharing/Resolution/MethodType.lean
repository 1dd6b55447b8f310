import ClassSharing.Validation.Convert

/-!
# Method types

The descriptor of a method type, such as `LL_L`: the basic types of its parameters, an underscore,
and the basic type of its result. Behind the first parameter digits may stand, as counts.

Two readings are given. `isDescriptor` passes over the characters once; `MethodType.parse` cuts the
text at its first underscore and checks the two parts.
-/

namespace ClassSharing

/-- Whether a character names a basic type. -/
def isBasicType (c : Char) : Bool := ['L', 'I', 'J', 'F', 'D', 'V'].contains c

/-- Whether a character may stand behind the first parameter: a basic type or a digit. -/
def isParameterChar (c : Char) : Bool := isBasicType c || ('0' ≤ c && c ≤ '9')

/-- Whether a text is a list of parameters. -/
def isParameters : List Char → Bool
  | [] => false
  | c :: rest => isBasicType c && rest.all isParameterChar

/-- Whether a text is a descriptor from the character behind its first parameter on. -/
def isDescriptorTail : List Char → Bool
  | [] => false
  | c :: rest =>
    if c = '_' then
      match rest with
      | [r] => isBasicType r
      | _ => false
    else isParameterChar c && isDescriptorTail rest

/-- Whether a text is a descriptor. -/
def isDescriptor : List Char → Bool
  | [] => false
  | c :: rest => isBasicType c && isDescriptorTail rest

/-- Whether a text is the descriptor of a method type. -/
def isMethodType (text : String) : Bool := isDescriptor text.toList

/-- A method type. -/
structure MethodType where
  parameters : String
  result : Char
  parameters_ok : isParameters parameters.toList = true
  result_ok : isBasicType result = true
  deriving DecidableEq, Repr

namespace MethodType

/-- The descriptor of a method type. -/
def text (t : MethodType) : String := t.parameters ++ "_" ++ String.singleton t.result

instance : ToString MethodType := ⟨text⟩

/-- The pattern of the parameters. -/
def parametersPattern : String := "^[LIJFDV][LIJFDV0-9]*$"

/-- The pattern of the result. -/
def resultPattern : String := "^[LIJFDV]$"

/-- A checked list of parameters. -/
def checkParameters (s : String) : Checked { s : String // isParameters s.toList = true } :=
  if h : isParameters s.toList = true then .ok ⟨s, h⟩ else .fail (.pattern parametersPattern)

/-- A checked result type. -/
def checkResult (s : String) : Checked { c : Char // isBasicType c = true } :=
  match s.toList with
  | [c] => if h : isBasicType c = true then .ok ⟨c, h⟩ else .fail (.pattern resultPattern)
  | _ => .fail (.pattern resultPattern)

/-- The names of the fields. -/
def fieldNames : List String := ["parameters", "return_type"]

/-- The method type with the given fields. -/
def ofFields (fields : Entries) : Checked MethodType :=
  (fun p r (_ : Unit) => ⟨p.1, r.1, p.2, r.2⟩) <$>
    Checked.required fields "parameters" (fun v => (Checked.text v).andThen checkParameters) <*>
    Checked.required fields "return_type" (fun v => (Checked.text v).andThen checkResult) <*>
    Checked.only fieldNames fields

/-- The name of the model. -/
def model : String := "MethodTypeDescriptor"

/-- The method type of a loose value. -/
def ofValue : Value → Checked MethodType
  | .mapping fields => ofFields fields
  | _ => .fail (.modelType model)

/-- The part in front of the first underscore and the part behind it. -/
def cut (text : List Char) : List Char × List Char :=
  (text.takeWhile (· ≠ '_'), (text.dropWhile (· ≠ '_')).drop 1)

/-- Reads a descriptor. -/
def parse (text : String) : Checked MethodType :=
  let (parameters, result) := cut text.toList
  ofFields (.ofList
    [("parameters", .str (String.ofList parameters)), ("return_type", .str (String.ofList result))])

end MethodType

end ClassSharing
