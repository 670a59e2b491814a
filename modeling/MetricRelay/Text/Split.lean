/-
Cutting texts at a character and putting them together.

* `splitOn_ne_nil` — a text has at least one part, its own when the separator does not occur.
-/
namespace MetricRelay.Text

/-- The parts of a text between the occurrences of a separator; there is always at least one. -/
def splitOn (sep : Char) : List Char → List (List Char)
  | [] => [[]]
  | c :: cs =>
    if c = sep then [] :: splitOn sep cs
    else
      match splitOn sep cs with
      | [] => [[c]]
      | part :: parts => (c :: part) :: parts

/-- The text before the first separator and the text after it, if there is one. -/
def cut? (sep : Char) : List Char → Option (List Char × List Char)
  | [] => none
  | c :: cs =>
    if c = sep then some ([], cs) else (cut? sep cs).map fun p => (c :: p.1, p.2)

/-- Parts of a text with a separator between each two. -/
def join (sep : List Char) (parts : List (List Char)) : List Char :=
  sep.intercalate parts

/-- Whether a text occurs somewhere in another. -/
def occursIn (part : List Char) : List Char → Bool
  | [] => part.isEmpty
  | c :: cs => part.isPrefixOf (c :: cs) || occursIn part cs

/-- Whether a text starts with another. -/
def startsWith (s stem : String) : Bool :=
  stem.toList.isPrefixOf s.toList

/-- A text up to its first line feed. -/
def firstLine (s : String) : String :=
  String.ofList (s.toList.takeWhile fun c => c ≠ '\n')

/-- Strings with a separator between each two. -/
def joinStrings (sep : String) (parts : List String) : String :=
  String.ofList (join sep.toList (parts.map String.toList))

theorem splitOn_ne_nil (sep : Char) (cs : List Char) : splitOn sep cs ≠ [] := by
  induction cs with
  | nil => simp [splitOn]
  | cons c cs ih =>
    by_cases h : c = sep
    · simp [splitOn, h]
    · cases hs : splitOn sep cs with
      | nil => exact absurd hs ih
      | cons part parts => simp [splitOn, h, hs]

end MetricRelay.Text
