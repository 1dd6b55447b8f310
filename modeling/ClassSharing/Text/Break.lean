/-!
# Lines of a text

A text is cut into lines at ten characters. The text of a file ends its lines in one of three ways,
and these ends are folded to line feeds when the file is read. The statements here say which
characters cut, and that folding leaves no carriage return (`not_mem_foldLineEnds`).
-/

namespace ClassSharing.Text

/-- The characters that end a line. -/
def lineBreaks : List Char :=
  ['\n', '\r', '\x0b', '\x0c', '\x1c', '\x1d', '\x1e', '\u0085', '\u2028', '\u2029']

/-- Whether a character ends a line. -/
def isBreak (c : Char) : Bool := lineBreaks.contains c

/-- Cuts a text into its lines. Every break ends a line, and a carriage return with the line feed
behind it is one break. Text behind the last break is a line of its own unless it is empty. -/
def splitLines : List Char → List (List Char)
  | [] => []
  | '\r' :: '\n' :: rest => [] :: splitLines rest
  | c :: rest =>
    if isBreak c then [] :: splitLines rest
    else match splitLines rest with
      | [] => [[c]]
      | line :: lines => (c :: line) :: lines

/-- The lines of a string. -/
def lines (text : String) : List String :=
  (splitLines text.toList).map String.ofList

/-- Folds the line ends of a file: a carriage return, with or without a line feed behind it,
becomes a line feed. -/
def foldLineEnds : List Char → List Char
  | [] => []
  | '\r' :: '\n' :: rest => '\n' :: foldLineEnds rest
  | '\r' :: rest => '\n' :: foldLineEnds rest
  | c :: rest => c :: foldLineEnds rest

/-- Folds all breaks of a text to line feeds. -/
def foldBreaks : List Char → List Char
  | [] => []
  | '\r' :: '\n' :: rest => '\n' :: foldBreaks rest
  | c :: rest => (if isBreak c then '\n' else c) :: foldBreaks rest

/-- A text without the line feed at its end, if it has one. -/
def withoutLastFeed (text : List Char) : List Char :=
  if text.getLast? = some '\n' then text.dropLast else text

/-! ### Written lines -/

/-- The ways in which a file ends a line. -/
inductive LineEnd where
  | feed
  | both
  | carriageReturn
  deriving DecidableEq, Repr

/-- The characters of a line end. -/
def LineEnd.chars : LineEnd → List Char
  | feed => ['\n']
  | both => ['\r', '\n']
  | carriageReturn => ['\r']

/-- The text of a file with the given lines, each with its end. The end of the last line is left out
unless the file is closed by it. -/
def writeLines (closed : Bool) : List (List Char × LineEnd) → List Char
  | [] => []
  | [(line, e)] => if closed then line ++ e.chars else line
  | (line, e) :: rest => line ++ e.chars ++ writeLines closed rest

/-! ### Statements -/

@[simp] theorem splitLines_nil : splitLines [] = [] := rfl

@[simp] theorem foldLineEnds_nil : foldLineEnds [] = [] := rfl

theorem isBreak_iff {c : Char} : isBreak c = true ↔ c ∈ lineBreaks := by
  simp [isBreak]

theorem not_mem_foldLineEnds (text : List Char) : '\r' ∉ foldLineEnds text := by
  fun_induction foldLineEnds text with
  | case1 => simp
  | case2 rest ih => simpa using ih
  | case3 rest _ ih => simpa using ih
  | case4 c rest _ hc ih => simpa using ⟨fun h => hc h.symm, ih⟩

end ClassSharing.Text
