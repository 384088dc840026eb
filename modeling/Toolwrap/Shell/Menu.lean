/-!
Menus of numbered words in columns. The columns are as wide as the longest word needs, and they are
filled from top to bottom.
-/
namespace Toolwrap.Shell.Menu

def digits (n : Nat) : Nat := (toString n).length

/-- The blanks between two places of a line; a tab where it goes no further than a blank could. The fuel
is the distance. -/
def indent : Nat → Nat → Nat → List Char
  | 0, _, _ => []
  | fuel + 1, here, there =>
    if there ≤ here then []
    else if here / 8 < there / 8 then '\t' :: indent fuel (here + (8 - here % 8)) there
    else ' ' :: indent fuel (here + 1) there

/-- A line of a menu: the words with the given indices, the first of which has a number of another width. -/
def line (rows first others width : Nat) (values : List String) : Nat → Nat → Nat → List Char
  | 0, _, _ => []
  | fuel + 1, column, i =>
    match values[i]? with
    | none => []
    | some value =>
      let size := if column == 0 then first else others
      let number := toString (i + 1)
      let entry := List.replicate (size - number.length) ' ' ++ number.toList ++ ") ".toList ++ value.toList
      let place := column * width
      if i + rows < values.length then
        entry ++ indent width (place + value.length + size + 2) (place + width) ++
          line rows first others width values fuel (column + 1) (i + rows)
      else entry

/-- The menu of words in lines of a width. -/
def text (columns : Nat) (values : List String) : String :=
  let others := digits values.length
  let width := (values.map String.length).foldl max 0 + others + 4
  let perLine := max 1 (columns / width)
  let rows := (values.length + perLine - 1) / perLine
  let perLine := (values.length + rows - 1) / rows
  let rows := if rows == 1 then perLine else rows
  String.join ((List.range rows).map fun r =>
    String.ofList (line rows (digits rows) others width values (values.length + 1) 0 r) ++ "\n")

end Toolwrap.Shell.Menu
