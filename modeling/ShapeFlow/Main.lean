import ShapeFlow.CommandLine.Program

/-!
The command line: reads the files that the arguments name, runs the program on them, prints and
writes what it answers.
-/

namespace ShapeFlow.CommandLine

def readFile? (path : String) : IO (Option String) := do
  try
    let text ← IO.FS.readFile path
    pure (some text)
  catch _ => pure none

def readFiles (arguments : List String) : IO (List (String × Option String)) := do
  let paths := match Arguments.parse arguments with
    | some (parsed, network) => network :: parsed.config.toList
    | none => []
  paths.mapM fun path => do
    let text ← readFile? path
    pure (path, text)

/-- Writes a file, and tells whether it could. -/
def writeFile? (path text : String) : IO Bool := do
  try
    IO.FS.writeFile path text
    pure true
  catch _ => pure false

end ShapeFlow.CommandLine

open ShapeFlow

def main (arguments : List String) : IO UInt32 := do
  let files ← CommandLine.readFiles arguments
  let planned := CommandLine.plan (fun path => (files.lookup path).join) arguments
  IO.print planned.stdout
  let accepted ← match planned.written with
    | some (path, text) => CommandLine.writeFile? path text
    | none => pure true
  pure (UInt32.ofNat (planned.settle fun _ => accepted).exitCode)
