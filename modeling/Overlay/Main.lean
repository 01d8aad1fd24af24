import Overlay.CommandLine
import Overlay.Source.Snippet

/-!
The program: standard input is compiled to standard output, and a diagnostic
goes to standard error.
-/

open Overlay

def main (args : List String) : IO UInt32 := do
  let source ← (← IO.getStdin).readToEnd
  let (outcome, failure) := CommandLine.run (args.map String.toList) source.toList
  (← IO.getStdout).putStr outcome.output.str
  match failure with
  | some d => (← IO.getStderr).putStrLn ((d.snippet none).render true).str
  | none => pure ()
  return outcome.exitCode.toUInt32
