import PeripheralBridge.Text.Cluster
import PeripheralBridge.Text.Width

/-!
# Wrapping

A text that is wider than its column goes on in further lines. Words stand between spaces
and are kept in one piece where they fit in a line; a longer word fills the lines it needs,
and no cluster of it is divided. The space at which a line ends is left out, and so are
spaces at the head of a line.
-/

namespace PeripheralBridge.Wrapping

structure Line where
  /-- Its words, the last one first. -/
  words : List (List Char) := []
  columns : Nat := 0

namespace Line

/-- The line with a word of some columns after it. An empty word is nothing at the head of a
line, and a further space elsewhere. -/
def add (l : Line) (word : List Char) (columns : Nat) : Line :=
  if l.words.isEmpty then if word.isEmpty then l else ⟨[word], columns⟩
  else ⟨word :: l.words, l.columns + 1 + columns⟩

/-- The columns left for another word in a line of `width` columns. -/
def room (l : Line) (width : Nat) : Nat :=
  if l.words.isEmpty then width else width - l.columns - 1

def text (l : Line) : String := String.ofList ([' '].intercalate l.words.reverse)

end Line

/-- How many clusters at the head of a word fit in some columns. -/
def fitting (columns : Nat) : List (List Char) → Nat
  | [] => 0
  | cluster :: rest =>
    let own := Width.ofChars cluster
    if own ≤ columns then fitting (columns - own) rest + 1 else 0

/-- So few columns are not worth a part of a word. -/
def scant : Nat := 2

/-- The lines of some words, each divided into clusters, where the first line is begun. A line
with scant room left is full. -/
def fill (width : Nat) (line : Line) : List (List (List Char)) → List String
  | [] => if line.words.isEmpty then [] else [line.text]
  | word :: rest =>
    let letters := word.flatten
    let columns := Width.ofChars letters
    let longer := line.add letters columns
    if longer.columns ≤ width then
      if width - scant < longer.columns then longer.text :: fill width {} rest
      else fill width longer rest
    else if !line.words.isEmpty && line.room width ≤ scant then
      line.text :: fill width {} (word :: rest)
    else if h : width < columns then
      let count := fitting (line.room width) word
      let count := if line.words.isEmpty then max 1 count else count
      let part := (word.take count).flatten
      (line.add part (Width.ofChars part)).text :: fill width {} (word.drop count :: rest)
    else
      let next := ({} : Line).add letters columns
      if width - scant < next.columns then line.text :: next.text :: fill width {} rest
      else line.text :: fill width next rest
  termination_by words => (words.flatten.length + words.length, line.words.length)
  decreasing_by
    all_goals simp only [List.flatten_cons, List.length_append, List.length_cons, Prod.lex_def]
    · omega
    · omega
    · have : 0 < line.words.length := by simp_all [List.length_pos_iff]
      exact .inr ⟨trivial, this⟩
    · have : 0 < word.length := by
        cases word with
        | nil => exact absurd h (Nat.not_lt_zero _)
        | cons => simp
      by_cases hl : line.words = []
      · simp only [hl, List.isEmpty_nil, dite_true, List.length_drop]
        omega
      · have : 0 < line.words.length := List.length_pos_iff.2 hl
        simp only [List.length_drop, List.length_nil]
        omega
    · omega
    · omega

/-- The lines that a text takes in a column. -/
def lines (width : Nat) (text : String) : List String :=
  if Width.ofText text ≤ width then [text]
  else fill width {} ((text.toList.splitOn ' ').map Cluster.split)

end PeripheralBridge.Wrapping
