/-!
# Splitting texts

A text is split at every occurrence of a character, or cut at the first one.
-/

namespace FlagAlerts.Text

/-- The pieces of a text between the occurrences of a character. -/
def splitOn (c : Char) : List Char → List (List Char)
  | [] => [[]]
  | d :: rest =>
    match splitOn c rest with
    | [] => [[d]]
    | piece :: pieces => if d = c then [] :: piece :: pieces else (d :: piece) :: pieces

/-- The texts before and after the first occurrence of a character. -/
def cut? (c : Char) : List Char → Option (List Char × List Char)
  | [] => none
  | d :: rest => if d = c then some ([], rest) else (cut? c rest).map fun (a, b) => (d :: a, b)

end FlagAlerts.Text
