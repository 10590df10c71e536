/-
The program: it looks at what a command may need, runs the command, and writes what came of it.
-/
import Linewise.CommandLine.Session

namespace Linewise

/-- the tree with what the disk holds at a place that is no symbolic link. Only reading and writing of files are tried out;
whether a directory may be written to shows when it is -/
def lookAtPlace (t : FileTree) (p : Place) : IO FileTree := do
  let path := String.ofList p.toPath
  match ← (IO.FS.readBinFile path).toBaseIO with
  | .ok content =>
    let t := t.put p (.file content.toList)
    match ← (IO.FS.Handle.mk path .readWrite).toBaseIO with
    | .error (.permissionDenied ..) => return t.deny p .write
    | _ => return t
  | .error (.inappropriateType ..) => return t.put p .directory
  | .error (.permissionDenied ..) =>
    match ← (IO.FS.realPath path).toBaseIO with
    | .error _ => return t.deny p.above .search
    | .ok _ =>
      -- only a directory could hold itself
      match ← (IO.FS.readBinFile (path ++ "/.")).toBaseIO with
      | .error (.inappropriateType ..) => return (t.put p (.file [])).deny p .read
      | _ => return (t.put p .directory).deny p .read
  | .error _ => return t

/-- the tree with what the disk holds along components, from a directory on; a symbolic link is seen as one to the place at
its end -/
def lookAlong (t : FileTree) (p : Place) : List Text → IO FileTree
  | [] => return t
  | name :: rest => do
    if name.isEmpty || name = Path.here then lookAlong t p rest
    else if name = Path.up then lookAlong t p.above rest
    else
      let path := Place.toPath (name :: p)
      let target ← match ← (IO.FS.realPath (String.ofList path)).toBaseIO with
        | .ok real => pure real.toString.toList
        | .error _ => pure path
      let place := (Path.names target).reverse
      let linked := if target = path then t else (t.putLink (name :: p) target).putDirectories place.tail
      let seen ← lookAtPlace linked place
      if seen.entry? place = some .directory then lookAlong seen place rest else return seen

/-- the tree of everything that the disk holds along some paths -/
def lookAt (t : FileTree) : List Text → IO FileTree
  | [] => return t
  | path :: rest => do
    let seen ← if path.contains '\x00' then pure t else lookAlong t (t.start path) (Path.components path)
    lookAt seen rest

/-- what a command may look at -/
def see (command : Option Command) : IO World := do
  let stdin ← IO.getStdin
  let stdout ← IO.getStdout
  let readsInput := (command.map Command.readsInput).getD false
  let input ← if readsInput then stdin.readBinToEnd else pure ByteArray.empty
  let directory := (← IO.currentDir).toString.toList
  let base := (Path.names directory).reverse
  let tree ← lookAt { base } ((command.map Command.paths).getD [])
  let forceColor ← IO.getEnv "FORCE_COLOR"
  let noColor ← IO.getEnv "NO_COLOR"
  let logLevel ← IO.getEnv "PY2RB_LOG_LEVEL"
  let isTerminal ← stdout.isTty
  return {
    input := input.toList
    tree
    directory
    environment := ⟨forceColor.map String.toList, noColor.map String.toList, logLevel.map String.toList⟩
    isTerminal }

/-- write what came of a session -/
def write (s : Session) : IO Unit := do
  let stdout ← IO.getStdout
  let stderr ← IO.getStderr
  match s.ending.written with
  | some (place, text) => IO.FS.writeFile (String.ofList place.toPath) (String.ofList text)
  | none => pure ()
  stdout.putStr (String.ofList s.output)
  stdout.flush
  stderr.putStr (String.ofList s.errors)
  match s.ending.crash with
  | some crash => stderr.putStrLn (String.ofList crash.message)
  | none => pure ()

end Linewise

open Linewise in
/-- run the program -/
def main (arguments : List String) : IO UInt32 := do
  let arguments := arguments.map String.toList
  let world ← see (Command.ofArguments? arguments)
  let session := world.run arguments
  write session
  return session.ending.code.number.toUInt32
