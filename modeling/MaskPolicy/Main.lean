import MaskPolicy.Command.Program

/-!
# The executable

The executable hands the words of its call, its variables, the configuration file, its input and
random numbers to the program, and writes out what comes back. The draws of a run do not depend on
their answers, so a first run without answers tells which numbers are needed.
-/

open MaskPolicy MaskPolicy.Command

namespace MaskPolicy.Executable

/-- What a file name stands for. -/
def stateOf (name : String) : IO FileState := do
  try
    let bytes ← IO.FS.readBinFile name
    return .file bytes.toList
  catch
    | .inappropriateType .. => return .directory
    | .permissionDenied .. => return .locked
    | _ => return .missing

/-- The variables of the process that have a value. -/
def readEnvironment : IO Environment := do
  let found ← Program.variableNames.mapM fun name => do
    let value ← IO.getEnv (String.ofList name)
    return value.map fun v => (name, v.toList)
  return found.filterMap id

/-- A random number below a bound. The bytes are many more than the bound needs, so that every
number is as likely as any other for all purposes. -/
def randomBelow (bound : Nat) : IO Nat := do
  let bytes ← IO.getRandomBytes 32
  let number := bytes.toList.foldl (fun n b => 256 * n + b.toNat) 0
  return number % bound

/-- Show the prompt and read lines until one is not empty. The result is what was read, and what was
shown. -/
partial def readAnswer (input output : IO.FS.Stream) (before : Text) (shown : Text) :
    IO (Text × Text) := do
  output.putStr (String.ofList prompt)
  output.flush
  let line ← input.getLine
  if line = "\n" || line = "\r\n" then
    readAnswer input output (before ++ line.toList) (shown ++ prompt)
  else return (before ++ line.toList, shown ++ prompt)

/-- Run the program. -/
def run (words : List String) : IO UInt32 := do
  let input ← IO.getStdin
  let output ← IO.getStdout
  let errorOutput ← IO.getStderr
  let words := words.map String.toList
  let environment ← readEnvironment
  let files : Text → FileState ← match Program.configurationName? environment words with
    | none => pure fun _ => .missing
    | some name => do
      let state ← stateOf (String.ofList name)
      pure fun other => if other = name then state else .missing
  let silent : Surroundings := { environment, files, input := [], answers := [] }
  let first := Program.run silent words
  let (typed, shown) ← match first.ending with
    | .failed .aborted => readAnswer input output [] []
    | _ => pure ([], [])
  let answers ← first.bounds.mapM randomBelow
  let outcome := Program.run { silent with input := typed, answers } words
  output.putStr (String.ofList (outcome.output.drop shown.length))
  output.flush
  errorOutput.putStr (String.ofList outcome.errorOutput)
  match outcome.ending with
  | .crashed (.policy _) => errorOutput.putStrLn "The policy cannot be used."
  | .crashed _ => errorOutput.putStrLn "The configuration cannot be used."
  | _ => pure ()
  errorOutput.flush
  return outcome.status.toUInt32

end MaskPolicy.Executable

/-- Run the program on the words of the call. -/
def main (words : List String) : IO UInt32 := MaskPolicy.Executable.run words
