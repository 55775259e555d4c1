import ContactSearch.CommandLine.Report

/-!
# The program

The outer layer hands the arguments over, prints the report and exits with its
code.
-/

/-- Run the program and print its report. -/
def main (given : List String) : IO UInt32 := do
  let report := ContactSearch.CommandLine.run .asWritten given
  (← IO.getStdout).putStr report.output
  (← IO.getStderr).putStr report.complaint
  return UInt32.ofNat report.code
