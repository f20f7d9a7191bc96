import JoinDiagram.CommandLine.Outcome

open JoinDiagram

partial def readAll (stream : IO.FS.Stream) (read : ByteArray) : IO ByteArray := do
  let chunk ← stream.read 65536
  if chunk.isEmpty then return read else readAll stream (read ++ chunk)

def readFile? (path : String) : IO (Option (String × ByteArray)) := do
  try return some (path, ← IO.FS.readBinFile path) catch _ => return none

def readInputs : Option Command → IO (Files × ByteArray)
  | some (.run i) => do
    let found ← (i.config.toList ++ i.file.toList).filterMapM readFile?
    let stdin ← if i.file.isSome then pure .empty else readAll (← IO.getStdin) .empty
    return (fun path => found.lookup path, stdin)
  | _ => return (fun _ => none, .empty)

def main (args : List String) : IO UInt32 := do
  let command := Command.ofArguments? args
  let (files, stdin) ← readInputs command
  let outcome := Command.outcome command files stdin
  IO.print outcome.output
  match command, outcome.fault with
  | _, some fault => IO.eprintln s!"error: {fault.message}"
  | none, _ => IO.eprintln "error: invalid arguments\n\nFor more information, try '--help'."
  | _, _ => pure ()
  return outcome.exitCode.toUInt32
