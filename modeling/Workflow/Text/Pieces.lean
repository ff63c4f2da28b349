/-!
# Cutting and joining

A text is cut at every occurrence of a character, and pieces are joined with a character between.
Cutting a text into lines is something else: what ends a line may be two characters, and nothing is
behind the end of the last one.
-/

namespace Workflow.Text

/-- Cuts a text at every occurrence of a character. There is always at least one piece. -/
def pieces (cut : Char) : List Char → List (List Char)
  | [] => [[]]
  | c :: rest =>
    match pieces cut rest with
    | [] => [[c]]
    | piece :: more => if c = cut then [] :: piece :: more else (c :: piece) :: more

/-- Cuts a text into lines. A newline ends a line, with the carriage return before it if there is
one; what stands behind the last newline is a line unless it is empty. -/
def lines : List Char → List (List Char)
  | [] => []
  | '\n' :: rest => [] :: lines rest
  | '\r' :: '\n' :: rest => [] :: lines rest
  | c :: rest =>
    match lines rest with
    | [] => [[c]]
    | line :: more => (c :: line) :: more

/-- Joins pieces with a character between. -/
def join (between : Char) : List (List Char) → List Char
  | [] => []
  | [piece] => piece
  | piece :: more => piece ++ between :: join between more

/-- Takes a character off the end as often as it stands there. -/
def dropTrailing (c : Char) (chars : List Char) : List Char :=
  (chars.reverse.dropWhile (· = c)).reverse

theorem pieces_ne_nil (cut : Char) (chars : List Char) : pieces cut chars ≠ [] := by
  cases chars with
  | nil => simp [pieces]
  | cons c rest =>
      simp only [pieces]
      split
      · simp
      · split <;> simp

end Workflow.Text
