import DeviceWatch.CommandLine

/-!
The program: its arguments, its environment, and a file of variables in the working directory.
-/

open DeviceWatch

def variablesOf (texts : List (List Char)) : Environment :=
  texts.filterMap fun cs =>
    let name := cs.takeWhile (· ≠ '=')
    if name.length < cs.length then
      some (String.ofList name, String.ofList (cs.drop (name.length + 1)))
    else none

def readText? (path : String) : IO (Option String) := do
  try return some (← IO.FS.readFile path)
  catch _ => return none

def readEnvironment : IO Environment := do
  let listing := (← readText? "/proc/self/environ").getD ""
  return variablesOf (Text.splitChars (Char.ofNat 0) listing.toList)

def main (args : List String) : IO UInt32 := do
  let report := CommandLine.run args (← readEnvironment) (← readText? ".env")
  IO.print report.stdout
  if report.stderr ≠ "" then IO.eprintln report.stderr
  return UInt32.ofNat report.exit
