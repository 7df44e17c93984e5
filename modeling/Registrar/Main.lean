import Registrar.Command.Run

/-!
# The program on a real file system
-/

namespace Registrar

/-- The number of a system error and its description, if the system reported one. -/
def systemError? : IO.Error → Option (UInt32 × String)
  | .alreadyExists _ code text | .inappropriateType _ code text | .invalidArgument _ code text
  | .permissionDenied _ code text | .resourceExhausted _ code text | .noSuchThing _ code text =>
    some (code, text)
  | .interrupted _ code text | .noFileOrDirectory _ code text => some (code, text)
  | .otherError code text | .resourceBusy code text | .resourceVanished code text
  | .unsupportedOperation code text | .hardwareFault code text
  | .unsatisfiedConstraints code text | .illegalOperation code text | .protocolError code text
  | .timeExpired code text => some (code, text)
  | .unexpectedEof | .userError _ => none

/-- The cause of a system error. Some requests report the number of an error as a negative one. -/
def FileFailure.ofSystem (e : IO.Error) : FileFailure :=
  match systemError? e with
  | none => .other (toString e)
  | some (reported, text) =>
    let code := if 0x80000000 ≤ reported then -reported else reported
    if code = 2 then .notFound
    else if code = 17 then .alreadyExists
    else if code = 20 then .notDirectory
    else if code = 21 then .isDirectory
    else if code = 36 then .nameTooLong
    else .other (text.capitalize ++ " (os error " ++ toString code.toNat ++ ")")

def attempt {α : Type} (path : String) (action : String → IO α) : IO (Except FileFailure α) :=
  if '\x00' ∈ path.toList then return .error .containsNul
  else try return .ok (← action path) catch e => return .error (.ofSystem e)

instance : FileSystem IO where
  readText path := do
    match ← attempt path (IO.FS.readBinFile ·) with
    | .error e => return .error e
    | .ok content =>
      match String.fromUTF8? content with
      | some text => return .ok text
      | none => return .error .notText
  writeText path text := attempt path (IO.FS.writeBinFile · text.toUTF8)
  createDirectory path := attempt path (IO.FS.createDir ·)
  -- A directory is in itself, and a file is not.
  isDirectory path := do
    match ← attempt (path ++ "/.") (IO.FS.createDir ·) with
    | .error .alreadyExists => return true
    | _ => return false

end Registrar

/-- The program. -/
def main (args : List String) : IO UInt32 := do
  let errors ← IO.getStderr
  let exit : Registrar.Command.Exit ← Registrar.Command.run (← errors.isTty) args
  IO.print exit.stdout
  IO.eprint exit.stderr
  return exit.status
