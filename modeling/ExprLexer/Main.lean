import ExprLexer.Demo

/-!
The program: reads its arguments and the settings file, runs, and prints. It takes no filter for its
log from outside, so a run that is not verbose shows errors only.
-/

namespace ExprLexer

/-- The system's word on a failure. -/
def reason : IO.Error → Text
  | .alreadyExists _ code what | .otherError code what | .resourceBusy code what
  | .resourceVanished code what | .unsupportedOperation code what | .hardwareFault code what
  | .unsatisfiedConstraints code what | .illegalOperation code what | .protocolError code what
  | .timeExpired code what | .interrupted _ code what | .noFileOrDirectory _ code what
  | .invalidArgument _ code what | .permissionDenied _ code what
  | .resourceExhausted _ code what | .inappropriateType _ code what | .noSuchThing _ code what =>
    what.toList ++ " (os error ".toList ++ Text.ofNat code.toNat ++ [')']
  | .unexpectedEof => "unexpected end of file".toList
  | .userError what => what.toList

/-- What there is under a path. Nothing is there if the path cannot be followed to its end, whatever
the cause. -/
def readStored (path : Text) : IO Settings.Stored := do
  let name := String.ofList path
  let .ok _ ← (IO.FS.realPath name).toBaseIO | return .missing
  match ← (IO.FS.Handle.mk name .read).toBaseIO with
  | .error e => return .locked (reason e)
  | .ok handle =>
    match ← handle.readBinToEnd.toBaseIO with
    | .error e => return .unreadable (reason e)
    | .ok bytes => return .file bytes.toList

def outcome (args : List Text) : IO Outcome := do
  let stored ←
    match CommandLine.parse args with
    | .error _ => pure .missing
    | .ok o => readStored o.config
  return Demo.outcome args (Log.visible .error) fun _ => stored

end ExprLexer

open ExprLexer in
def main (args : List String) : IO UInt32 := do
  let o ← outcome (args.map String.toList)
  (← IO.getStdout).putStr (String.ofList o.stdout)
  (← IO.getStderr).putStr (String.ofList (Log.written o.log ++ o.stderr))
  return o.code.toUInt32
