/-
The program: its arguments come from the command line, and its files are those of the disk. It has no
client for the web, so that no address can be fetched.
-/
import SwaggerRoutes.CommandLine.Run

namespace SwaggerRoutes

open SwaggerRoutes.Files

/-- The number of an error of the system, which may come with either sign. -/
def errorNumber (code : UInt32) : Nat :=
  if code.toNat < 0x80000000 then code.toNat else 0x100000000 - code.toNat

/-- The fault that an error of the system stands for. -/
def faultOf : IO.Error → Fault
  | .noFileOrDirectory .. => .notFound
  | .alreadyExists .. => .exists
  | .inappropriateType _ code details =>
    if errorNumber code = 20 then .notDirectory
    else if errorNumber code = 21 then .isDirectory
    else .other details
  | .invalidArgument _ code details =>
    if errorNumber code = 36 then .nameTooLong else .other details
  | error => .other (toString error)

/-- An action on the disk; an error of the system is a failure of the run. -/
def onDisk (faultOf : IO.Error → Fault) (action : IO α) : ExceptT Error IO α := ExceptT.mk do
  try
    return .ok (← action)
  catch error =>
    return .error (.files (faultOf error))

/-- An action on the file of a path, which must be a path that the system takes. -/
def onFile (path : Path) (action : IO α) : ExceptT Error IO α :=
  match Tree.refused? path with
  | some fault => throw (.files fault)
  | none => onDisk faultOf action

/-- The fault when directories cannot be made: a file in their place is there already, and one on
the way to them is no directory. -/
def directoryFaultOf (directory : String) : IO.Error → Fault
  | .alreadyExists (some file) _ _ => if file = directory then .exists else .notDirectory
  | error => faultOf error

instance : Host (ExceptT Error IO) where
  isAddress location := return Web.unreachable.isAddress location
  fetch address :=
    match Web.unreachable.get address with
    | .ok reply => return reply
    | .error fault => throw (.remote fault)
  readText path := do
    let bytes ← onFile path (IO.FS.readBinFile path.text)
    match String.fromUTF8? bytes with
    | some text => return text
    | none => throw (.files .notText)
  makeParents path :=
    let directory := path.parent.text
    if directory = "" then return ()
    else if directory.toList.contains '\x00' then throw (.files .nulInName)
    else onDisk (directoryFaultOf directory) (IO.FS.createDirAll directory)
  writeText path text := onFile path (IO.FS.writeFile path.text text)
  note _ := return ()

end SwaggerRoutes

def main (arguments : List String) : IO UInt32 := do
  let run : ExceptT SwaggerRoutes.Error IO SwaggerRoutes.CommandLine.Outcome :=
    SwaggerRoutes.CommandLine.run arguments
  match ← run.run with
  | .ok outcome =>
    IO.print outcome.stdout
    IO.eprint outcome.stderr
    return UInt32.ofNat outcome.exitCode
  | .error error =>
    IO.eprintln error.message
    return 1
