import MaskPolicy.Text.Basic

/-!
# The password prompt

A password that is not given is asked for. The prompt is shown once for each line that is read, and
empty lines are no answer. When no line is left, the prompt stands alone.
-/

namespace MaskPolicy.Command

/-- The lines of an input: a line ends with a carriage return, a line feed or both, or with the
input. -/
def inputLines : Text → List Text
  | [] => []
  | '\r' :: '\n' :: rest => [] :: inputLines rest
  | c :: rest =>
    if c = '\n' ∨ c = '\r' then [] :: inputLines rest
    else match inputLines rest with
      | [] => [[c]]
      | line :: lines => (c :: line) :: lines

/-- The prompt. -/
def prompt : Text := "Password: \n".toList

/-- What is shown while lines are read for a password, and the password. -/
def askPassword : List Text → Text × Option Text
  | [] => (prompt ++ ['\n'], none)
  | line :: rest =>
    if line.isEmpty then
      let (shown, password) := askPassword rest
      (prompt ++ shown, password)
    else (prompt, some line)

end MaskPolicy.Command
