import DumpCheck.Program

/-!
# Command line

The outer layer: it hands the words of the command line, the environment and the contents of the
files that a run asks for to `Program.run`, and prints what comes back.
-/

namespace DumpCheck

/-- The number and the words of an error of the system, if it is one. -/
def systemError? : IO.Error → Option (UInt32 × String)
  | .noFileOrDirectory _ code details | .inappropriateType _ code details
  | .permissionDenied _ code details | .invalidArgument _ code details
  | .resourceExhausted _ code details => some (code, details)
  | .otherError code details => some (code, details)
  | _ => none

/-- The failure that an error stands for. Its number may come with either sign. -/
def readFailure (e : IO.Error) : ReadFailure :=
  match systemError? e with
  | none => .system (toString e).toList 0
  | some (code, details) =>
    let number := if code < 0x80000000 then code.toNat else (0 - code).toNat
    (ReadFailure.ofNumber? number).getD (.system details.toList number)

def readFile (path : Text) : IO (Except ReadFailure ByteArray) := do
  if path.contains '\x00' then
    return .error .nulInPath
  try
    return .ok (← IO.FS.readBinFile (String.ofList path))
  catch e =>
    return .error (readFailure e)

/-- The files that have been read so far; nothing else is there. -/
def fetched (known : List (Text × Except ReadFailure ByteArray)) : Files := fun path =>
  (known.lookup path).getD (.error .notFound)

/-- The variables that the program looks at. -/
def readEnvironment : IO Environment := do
  let names := ValueOption.all.filterMap ValueOption.fallback? ++ ["RUST_LOG".toList]
  let values ← names.mapM fun name => do
    return (← IO.getEnv (String.ofList name)).map fun v => (name, v.toList)
  return values.filterMap id

/-- Reads the files that a run with these options asks for. -/
def fetch (o : Options) : IO Files := do
  let configs ← o.config.toList.mapM fun path => do return (path, ← readFile path)
  match Settings.load (fetched configs) o with
  | .error _ => return fetched configs
  | .ok s =>
    let dumps ← [s.actual, s.expected].mapM fun path => do return (path, ← readFile path)
    return fetched (dumps ++ configs)

end DumpCheck

open DumpCheck in
def main (arguments : List String) : IO UInt32 := do
  let environment ← readEnvironment
  let words := arguments.map String.toList
  let files ← match Options.parse environment words with
    | .ok o => fetch o
    | .error _ => pure (fetched [])
  let ending := Program.run environment files words
  IO.print (String.ofList ending.out)
  IO.eprint (String.ofList ending.err)
  return ending.code.toUInt32
