import Datacube.Command.Run

open Datacube

-- What there is under a path of the file system.
def fileEntry (path : String) : IO FileEntry := do
  try
    return .text (← IO.FS.readFile path)
  catch
    | .noFileOrDirectory .. => return .missing
    | .inappropriateType .. => return .directory
    | e => return .unreadable e.toString

-- The variables that the process was started with, as the system keeps them: each ends with a null
-- character.
def readEnvironment : IO Environment := do
  match ← fileEntry "/proc/self/environ" with
  | .text block =>
    return { bindings := (Text.splitAt '\x00' block).filterMap (Text.cutAt '=') }
  | _ => return {}

def main (args : List String) : IO UInt32 := do
  let outcome ← Command.run fileEntry (← readEnvironment) args
  IO.print outcome.output
  match outcome.failure with
  | some failure => IO.eprintln ("Error: " ++ failure.message)
  | none => if outcome.exit ≠ 0 then IO.eprintln "For more information, try '--help'."
  return outcome.exit.toUInt32
