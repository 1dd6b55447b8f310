import ClassSharing.Text.CellWidth

/-!
# Tab stops

On the console a tab reaches to the next multiple of eight cells of its line, and characters that
would move the cursor or ring the bell are left out.
-/

namespace ClassSharing.Text

/-- The distance of two tab stops. -/
def tabWidth : Nat := 8

/-- Replaces each tab by spaces up to the next tab stop, from a column on. A line feed goes back
to column zero. -/
def expandTabsFrom (column : Nat) : List Char → List Char
  | [] => []
  | c :: rest =>
    if c = '\n' then c :: expandTabsFrom 0 rest
    else if c = '\t' then
      let gap := tabWidth - column % tabWidth
      List.replicate gap ' ' ++ expandTabsFrom (column + gap) rest
    else c :: expandTabsFrom (column + cellWidth c) rest

/-- Replaces each tab by spaces up to the next tab stop. -/
def expandTabs (text : List Char) : List Char := expandTabsFrom 0 text

/-- The characters that a console does not print: bell, backspace, vertical tab, form feed and
carriage return. -/
def unprintedControls : List Char := ['\x07', '\x08', '\x0b', '\x0c', '\x0d']

/-- The text as it stands on a console, ended by a line feed. -/
def onConsole (text : String) : String :=
  String.ofList (expandTabs (text.toList.filter fun c => !unprintedControls.contains c) ++ ['\n'])

end ClassSharing.Text
