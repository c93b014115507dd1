import TwoWay.CommandLine

/-!
The program: arguments in, standard output and standard error out.
-/

def main (arguments : List String) : IO UInt32 := do
  let report := TwoWay.CommandLine.run arguments
  IO.print report.output
  IO.eprint report.errors
  return report.exitCode
