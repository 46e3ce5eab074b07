import Gazette.Command

/-! # The command line

`latest` and `article` ask for what the environment says. The body of the service's reply is taken
from standard input, where a program that does the sending leaves it; without one the service counts
as unreachable. -/
namespace Gazette

/-- What opening a file gives. -/
def openFile (path : String) : IO File := do
  try return .bytes (← IO.FS.readBinFile path).toList
  catch
    | .noFileOrDirectory .. => return .missing
    | .permissionDenied .. => return .denied
    | _ => return .directory

/-- The environment, the arguments, the file that the environment names, and the reply. -/
def surroundings (args : List String) : IO Command.Surroundings := do
  let names := [Config.sessionVariable, Config.urlVariable, "REPUBLIK_AUDIO", "REPUBLIK_LIMIT",
    "REPUBLIK_QUERY"]
  let values ← names.mapM fun name => return (name, ← IO.getEnv name)
  let env (name : String) : Option String := (values.lookup name).join
  let file ← match env "REPUBLIK_QUERY" with
    | some path => openFile path
    | none => pure .missing
  let body := (← (← IO.getStdin).readToEnd).toUTF8.toList
  let reply := if body = [] then HttpReply.none else .some 200 body true
  return { env, args, file := fun _ => file, network := fun _ => reply }

end Gazette

open Gazette in
def main (args : List String) : IO UInt32 := do
  let command? := match args.head? with
    | some "latest" => some Command.latest
    | some "article" => some Command.article
    | _ => none
  match command? with
  | none =>
    IO.eprintln "usage: gazette latest | gazette article <path>"
    return 2
  | some command =>
    let ending := command (← surroundings args.tail)
    IO.print ending.output
    IO.eprint ending.errors
    return ending.code.toUInt32
