import BulkWrite.Text.Blank

/-!
# Lines of an environment file

An assignment may extend over several lines of the file, if a line ends within quotes or in an
escape. A comment starts behind a blank, or a line.
-/

namespace BulkWrite.Dotenv

/-- What the next character of a line belongs to. -/
inductive LineMode where
  | complete
  /-- A blank came before. -/
  | blank
  | escape
  | weak
  | weakEscape
  | strong
  | strongEscape
deriving DecidableEq

/-- The mode behind a character outside of quotes. -/
def LineMode.outside (c : Char) : LineMode :=
  if c == '\\' then .escape
  else if c == '"' then .weak
  else if c == '\'' then .strong
  else .complete

/-- The mode behind a character. -/
def LineMode.after (mode : LineMode) (c : Char) : LineMode :=
  match mode with
  | .complete => if Text.isBlank c && c != '\n' && c != '\r' then .blank else .outside c
  | .blank => .outside c
  | .escape => .complete
  | .weak => if c == '\\' then .weakEscape else if c == '"' then .complete else .weak
  | .weakEscape => .weak
  | .strong => if c == '\\' then .strongEscape else if c == '\'' then .complete else .strong
  | .strongEscape => .strong

/-- The part of a line in front of a comment, whether there is one, and the mode at the end. -/
def scanLine : LineMode → List Char → List Char × Bool × LineMode
  | mode, [] => ([], false, mode)
  | mode, c :: cs =>
    if mode = .blank ∧ c = '#' then ([], true, mode)
    else
      let (front, comment, last) := scanLine (mode.after c) cs
      (c :: front, comment, last)

/-- A text without the line end at its end. -/
def dropLineEnd (cs : List Char) : List Char :=
  match cs.reverse with
  | '\n' :: '\r' :: r => r.reverse
  | '\n' :: r => r.reverse
  | _ => cs

def isComment (cs : List Char) : Bool :=
  (cs.dropWhile Text.isBlank).head? == some '#'

/-- The assignments that lines form; the first line that forms none, or is no text, ends them, and
is marked by none. The lines hold their ends; `before` is what earlier lines left unfinished. -/
def assignments : LineMode → (before : List Char) → List (Option (List Char)) →
    List (Option (List Char))
  | mode, _, [] => if mode = .complete then [] else [none]
  | _, _, none :: _ => [none]
  | mode, before, some line :: lines =>
    if isComment (before ++ line) then assignments .complete [] lines
    else
      match scanLine mode line with
      | (front, true, _) => some (before ++ front) :: assignments .complete [] lines
      | (_, false, .complete) =>
        some (dropLineEnd (before ++ line)) :: assignments .complete [] lines
      | (_, false, mode) => assignments mode (before ++ line) lines

end BulkWrite.Dotenv
