import FlowLayout.Cli.Run
/-!
# The command line program

Runs the command line against the real surroundings (standard input, the environment and the
file system), prints the two texts of the outcome and exits with its status.
-/

namespace FlowLayout.Cli

/-- A file error from a system error. -/
def fileErrorOf : IO.Error → FileError
  | .noFileOrDirectory .. => .notFound
  | .inappropriateType _ 21 _ => .isDirectory
  | .inappropriateType _ 20 _ => .notDirectory
  | .otherError 21 _ => .isDirectory
  | .otherError 20 _ => .notDirectory
  | .invalidArgument _ 36 _ => .nameTooLong
  | .otherError 36 _ => .nameTooLong
  | e => .other (toString e)

/-- Reads a stream to its end. -/
partial def readAll (stream : IO.FS.Stream) (acc : String) : IO String := do
  let line ← stream.getLine
  if line.isEmpty then pure acc else readAll stream (acc ++ line)

instance : Host IO where
  readInput := do readAll (← IO.getStdin) ""
  setting? name := IO.getEnv name
  exists? path := do
    try
      let _ ← IO.FS.Handle.mk path .read
      pure true
    catch e =>
      pure (match e with
        | .noFileOrDirectory .. => false
        | .inappropriateType _ 20 _ => false
        | _ => true)
  readFile path := do
    try
      let text ← IO.FS.readFile path
      pure (.ok text)
    catch e => pure (.error (fileErrorOf e))
  writeFile path text := do
    try
      IO.FS.writeFile path text
      pure (.ok ())
    catch e => pure (.error (fileErrorOf e))

end FlowLayout.Cli

/-- The program: the command line on the process's arguments. -/
def main (args : List String) : IO UInt32 := do
  let outcome ← FlowLayout.Cli.run (m := IO) args
  IO.print outcome.stdout
  IO.eprint outcome.stderr
  pure outcome.status.toUInt32
