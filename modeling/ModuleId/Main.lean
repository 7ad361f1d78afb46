import ModuleId.Command.Outcome

/-! # The program -/

namespace ModuleId

/-- The cause of a failed read. -/
def ReadError.ofIO : IO.Error → ReadError
  | .noFileOrDirectory .. => .notFound
  | .inappropriateType .. => .isDirectory
  | error => .other (toString error)

/-- All bytes of a source. -/
def Source.read : Source → IO (Except ReadError ByteArray)
  | .standardInput => do
      let input ← IO.getStdin
      let mut bytes := ByteArray.empty
      repeat
        let chunk ← input.read 65536
        if chunk.isEmpty then break
        bytes := bytes ++ chunk
      return .ok bytes
  | .file name => do
      try
        return .ok (← IO.FS.readBinFile name)
      catch error =>
        return .error (ReadError.ofIO error)

/-- The contents that a request needs; no other source is read. -/
def Contents.ofRequest : Except UsageError Request → IO Contents
  | .ok (.run command) =>
      match command.source? with
      | none => return fun _ => .error .notFound
      | some source => do
          let content ← source.read
          return fun _ => content
  | _ => return fun _ => .error .notFound

end ModuleId

open ModuleId

def main (arguments : List String) : IO UInt32 := do
  let request := Request.ofArguments arguments
  let outcome := Outcome.ofRequest (← Contents.ofRequest request) request
  IO.print outcome.output
  IO.eprint outcome.errors
  return outcome.exitCode.toUInt32
