/-!
# Arguments of a command

The arguments of a command are cut into options, in the order in which they are given, and the
texts that are left. An option is spelled with two hyphens and a name, or with one hyphen and a
letter; its value stands behind an equals sign, behind the letter, or in the next argument. Two
hyphens by themselves end the options.
-/

namespace ClassSharing

/-- An option of a command: its spellings, and whether it takes a value. -/
structure OptionSpec where
  name : String
  letter : Option Char
  takesValue : Bool
  deriving DecidableEq, Repr

/-- An option as it was given, with its value if it takes one. -/
structure GivenOption where
  name : String
  value : Option String
  deriving DecidableEq, Repr

/-- The options that were given, in order, and the arguments that are left. -/
structure Arguments where
  given : List GivenOption
  rest : List String
  deriving DecidableEq, Repr

/-- Why arguments are not those of a command. -/
inductive UsageError where
  | unknownOption (text : String)
  | missingValue (option : String)
  /-- A value is attached to an option that takes none. -/
  | unwantedValue (option : String)
  | unfitValue (option value : String)
  | missingOption (option : String)
  | unexpectedArgument (text : String)
  | missingCommand
  | unknownCommand (name : String)
  deriving DecidableEq, Repr

namespace UsageError

/-- The wording of an error. -/
def message : UsageError → String
  | unknownOption text => "No such option: " ++ text
  | missingValue option => "Option '--" ++ option ++ "' requires an argument."
  | unwantedValue option => "Option '--" ++ option ++ "' does not take a value."
  | unfitValue option value => "Invalid value for '--" ++ option ++ "': " ++ value
  | missingOption option => "Missing option '--" ++ option ++ "'."
  | unexpectedArgument text => "Got unexpected extra argument (" ++ text ++ ")"
  | missingCommand => "Missing command."
  | unknownCommand name => "No such command '" ++ name ++ "'."

end UsageError

namespace Arguments

/-- The value of the last occurrence of an option. -/
def value? (a : Arguments) (name : String) : Option String :=
  (a.given.reverse.find? fun g => g.name == name).bind GivenOption.value

/-- The values of all occurrences of an option. -/
def values (a : Arguments) (name : String) : List String :=
  a.given.filterMap fun g => if g.name = name then g.value else none

/-- Whether an option was given. -/
def has (a : Arguments) (name : String) : Bool := a.given.any fun g => g.name == name

/-- The option of a name. -/
def named? (specs : List OptionSpec) (name : List Char) : Option OptionSpec :=
  specs.find? fun s => s.name.toList == name

/-- The option of a letter. -/
def lettered? (specs : List OptionSpec) (letter : Char) : Option OptionSpec :=
  specs.find? fun s => s.letter == some letter

/-- Takes the value of an option from the arguments behind it. -/
def takeValue (spec : OptionSpec) : List String → Except UsageError (GivenOption × List String)
  | v :: rest => .ok (⟨spec.name, some v⟩, rest)
  | [] => .error (.missingValue spec.name)

/-- An option that is spelled by its name. -/
def cutNamed (spec : OptionSpec) (attached : Option String) (rest : List String) :
    Except UsageError (List GivenOption × List String) := do
  if spec.takesValue then
    let (g, rest) ← takeValue spec (attached.toList ++ rest)
    return ([g], rest)
  else if attached.isSome then .error (.unwantedValue spec.name)
  else return ([⟨spec.name, none⟩], rest)

/-- Options that are spelled by their letters behind one hyphen. Behind the letter of an option with
a value all that follows is that value. -/
def cutLetters (specs : List OptionSpec) :
    List Char → List String → Except UsageError (List GivenOption × List String)
  | [], rest => .ok ([], rest)
  | c :: cs, rest =>
    match lettered? specs c with
    | none => .error (.unknownOption (String.ofList ['-', c]))
    | some spec =>
      if spec.takesValue then do
        let attached := if cs.isEmpty then [] else [String.ofList cs]
        let (g, rest) ← takeValue spec (attached ++ rest)
        return ([g], rest)
      else do
        let (others, rest) ← cutLetters specs cs rest
        return (⟨spec.name, none⟩ :: others, rest)

/-- The name of an argument that starts with hyphens, and what stands behind its equals sign. -/
def cutEquals (arg : List Char) : List Char × Option String :=
  let name := arg.takeWhile (· ≠ '=')
  match arg.drop name.length with
  | _ :: value => (name, some (String.ofList value))
  | [] => (name, none)

/-- Cuts an argument that starts with a hyphen and has something behind it. -/
def cutOption (specs : List OptionSpec) (arg : List Char) (rest : List String) :
    Except UsageError (List GivenOption × List String) :=
  let (name, attached) := cutEquals arg
  let spec? := match name with
    | '-' :: '-' :: name => named? specs name
    | _ => none
  match spec?, arg with
  | some spec, _ => cutNamed spec attached rest
  | none, '-' :: '-' :: _ => .error (.unknownOption (String.ofList name))
  | none, letters => cutLetters specs (letters.drop 1) rest

/-- Cuts arguments. Unless options and other arguments may be mixed, the first other argument ends
the options. The number bounds the steps: each takes an argument. -/
def cutUpTo (specs : List OptionSpec) (mixed : Bool) :
    (fuel : Nat) → List String → Except UsageError Arguments
  | 0, rest => .ok ⟨[], rest⟩
  | _ + 1, [] => .ok ⟨[], []⟩
  | fuel + 1, arg :: rest =>
    match arg.toList with
    | ['-', '-'] => .ok ⟨[], rest⟩
    | '-' :: c :: cs => do
      let (options, rest) ← cutOption specs ('-' :: c :: cs) rest
      let a ← cutUpTo specs mixed fuel rest
      return ⟨options ++ a.given, a.rest⟩
    | _ =>
      if mixed then do
        let a ← cutUpTo specs mixed fuel rest
        return ⟨a.given, arg :: a.rest⟩
      else .ok ⟨[], arg :: rest⟩

/-- Cuts arguments. -/
def cut (specs : List OptionSpec) (mixed : Bool) (args : List String) :
    Except UsageError Arguments :=
  cutUpTo specs mixed (args.length + 1) args

end Arguments

end ClassSharing
