namespace Reduct.Text

/-- The pieces between the occurrences of a separator, which are taken from the left and do not
overlap. A number of characters is passed over first. -/
def pieces (separator : List Char) : Nat → List Char → List (List Char)
  | _, [] => [[]]
  | skipped + 1, _ :: rest => pieces separator skipped rest
  | 0, char :: rest =>
    if separator.isPrefixOf (char :: rest) then [] :: pieces separator (separator.length - 1) rest
    else match pieces separator 0 rest with
      | [] => [[char]]
      | first :: others => (char :: first) :: others

/-- The texts between the occurrences of a separator; the empty separator separates every
character. -/
def split (separator text : String) : List String :=
  if separator.isEmpty then text.toList.map fun char => String.ofList [char]
  else (pieces separator.toList 0 text.toList).map String.ofList

end Reduct.Text
