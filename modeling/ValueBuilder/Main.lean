import ValueBuilder.Command.Run

/-!
# The program

Reads the file that the arguments name, runs the command on it, and prints what comes of it. The
output takes texts that have bytes in UTF-8, and reports show a surrogate as an escape.
-/

open ValueBuilder Command

/-- The number of an error of the system, which is sometimes given with its sign turned. -/
def systemNumber (code : UInt32) : Nat := if code.toInt32 < 0 then (-code).toNat else code.toNat

/-- The reason with a number for which the system does not read a file. -/
def faultOfNumber (number : Nat) (words : String) : FileFault :=
  match number with
  | 2 => .notFound
  | 13 => .refused number "Permission denied"
  | 20 => .notFolder
  | 21 => .isFolder
  | 36 => .nameTooLong
  | _ => .refused number words

/-- The reason for which the system does not read a file. -/
def faultOfError : IO.Error → FileFault
  | .noFileOrDirectory _ code words => faultOfNumber (systemNumber code) words
  | .inappropriateType _ code words => faultOfNumber (systemNumber code) words
  | .permissionDenied _ code words => faultOfNumber (systemNumber code) words
  | .invalidArgument _ code words => faultOfNumber (systemNumber code) words
  | e => .refused 5 e.toString

/-- The bytes of a file. -/
def readBytes (p : Path) : IO (Except FileFault (List UInt8)) := do
  if p.toString.toList.contains '\x00' then return .error .nullCharacter
  try
    return .ok (← IO.FS.readBinFile p.toString).toList
  catch e => return .error (faultOfError e)

/-- What the program runs on. Its reader goes down 992 levels and its printer 993, and it prints in
UTF-8. -/
def host : Host := .utf8 992 993

/-- Runs the command on its arguments. -/
def main (args : List String) : IO UInt32 := do
  let bytes ←
    match parse args with
    | .ok (.run _ _ path) => readBytes (Path.ofString path)
    | _ => pure (.error .notFound)
  let outcome := run args (fun _ => bytes) host
  IO.print outcome.stdout.toStringLossy
  IO.eprint (Text.Utf8.escaped outcome.stderr)
  match outcome.ending with
  | .exit code => return code.toUInt32
  | .aborted .tooDeep =>
    IO.eprintln "the description is nested too deep"
    return 1
  | .aborted (.generation (.referenceNotText name)) =>
    IO.eprintln ("the reference to type " ++ Text.quoted name ++ " is no text")
    return 1
  | .aborted (.generation (.underlyingCompound name)) =>
    IO.eprintln ("the type under " ++ Text.quoted name ++ " is a list or an object")
    return 1
  | .aborted (.generation (.protocolNotText name found)) =>
    IO.eprintln ("the protocol of type " ++ Text.quoted name ++ " is " ++ found.literal)
    return 1
  | .aborted (.generation (.noClass file)) =>
    IO.eprintln ("the file " ++ Text.quoted file ++ " has no class")
    return 1
