import Phrasebook.CommandLine.Run

/-!
# The program

Reads the files that a run may need, runs the command line on them, prints what it leaves behind and
exits with its code.
-/

open Phrasebook Phrasebook.CommandLine

/-- Why a file was not read. -/
def fileError : IO.Error → FileError
  | .inappropriateType .. => .isFolder
  | .resourceVanished .. => .notFolder
  | _ => .notFound

/-- What reading a path gives. -/
def readPath (path : String) : IO (Except FileError String) := do
  try
    let bytes ← IO.FS.readBinFile path
    match String.fromUTF8? bytes with
    | some text => return .ok text
    | none => return .error .notText
  catch e => return .error (fileError e)

/-- Read paths before the run. -/
def readPaths (paths : List String) : IO Files := do
  let found ← paths.mapM fun path => return (path, ← readPath path)
  return {
    read := fun path => (found.lookup path).getD (.error .notFound)
    has := fun path =>
      match found.lookup path with
      | none | some (.error .notFound) => false
      | some _ => true }

/-- Run the command line. -/
def main (arguments : List String) : IO UInt32 := do
  let invocation := Invocation.ofArguments arguments
  let outcome := invocation.run (← readPaths invocation.paths)
  IO.print outcome.stdout
  IO.eprint outcome.stderr
  return outcome.code.toUInt32
