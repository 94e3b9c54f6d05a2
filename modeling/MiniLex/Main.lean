import MiniLex.Command.Run

/-!
The executable: it takes the arguments, the environment and the one file that the command reads,
and writes what the command says.
-/

namespace MiniLex.Command

def variableNames : List String :=
  ["TINYC_STRICT_UNKNOWN_CHARS", "TINYC_KEEP_GOING", "TINYC_MINIMAL_UI"]

def readEnvironment : IO Environment := do
  let mut env := []
  for name in variableNames do
    if let some value ← IO.getEnv name then
      env := (name.toList, value.toList) :: env
  return env

def openError : IO.Error → OpenError
  | .noFileOrDirectory .. => .notFound
  | .permissionDenied .. => .permissionDenied
  | .inappropriateType .. => .isDirectory
  | e => .other e.toString.toList

/-- Open the input of a call, if it has one. -/
def openInput (args : List Text) : IO FileSystem := do
  match parse args with
  | .ok (.run request) =>
    let path := String.ofList (Path.parse request.input).display
    let opened ← (IO.FS.readBinFile path).toBaseIO
    return fun _ => (opened.map ByteArray.toList).mapError openError
  | _ => return fun _ => .error .notFound

end MiniLex.Command

open MiniLex MiniLex.Command

def main (args : List String) : IO UInt32 := do
  let args := args.map String.toList
  let finished := run args (← readEnvironment) (← openInput args) KeywordTable.default
  IO.print (String.ofList finished.output.stdout)
  IO.eprint (String.ofList finished.output.stderr)
  match finished.ending with
  | .ok code => return code.toUInt32
  | .error (.read e) => throw (IO.userError (String.ofList e.message))
  | .error (.markup e) => throw (IO.userError (String.ofList e.message))
