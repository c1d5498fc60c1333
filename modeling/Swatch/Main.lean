import Swatch.CommandLine.Run
import Swatch.Editor.Keyboard

/-!
The program. It looks up what a run needs, and prints what the run leaves behind.
-/
namespace Swatch.Program

open CommandLine

/-- What stands at a path. -/
def entryAt (path : Path) : IO FileEntry := do
  try
    let content ← IO.FS.readFile (String.ofList path.text)
    return .text content.toList
  catch e =>
    match e with
    | .noFileOrDirectory .. => return .absent
    | .inappropriateType .. => return .directory
    | _ => throw e

/-- The whole of the standard input. -/
def standardInput : IO Text := do
  return (← (← IO.getStdin).readToEnd).toList

/-- What a request finds. The input is read only if the request uses it, and its end interrupts an
editing session. The output takes every character, but no half of a surrogate pair. -/
def lookAround (home : Text) (r : Request) : IO Surroundings := do
  let found ← (r.settingsPath? home).elim (pure .absent) entryAt
  let input ← if r.readsInput || r.edit then standardInput else pure []
  let keys := Key.ofText input ++ [.interrupt]
  return ⟨home, found, fun _ => found, input, keys, fun c => (halfCode? c).isNone⟩

/-- The wording of a failure that has no error message. -/
def escapeText : RunError → Text
  | .loading .nonTextKey => "a key of the configuration is not a text".toList
  | .loading .directory => "is a directory".toList
  | .loading .pathTooLong => "the path is too long".toList
  | .loading .tooDeep => "the configuration goes too deep".toList
  | .loading (.scalar e) => e.message
  | .color e => e.message
  | .choice e => e.message
  | .style e => e.message
  | .givenNothing o => "nothing was given to ".toList ++ o.title
  | .unencodable _ => "the output has no encoding for a half of a surrogate pair".toList
  | _ => "end of input".toList

end Swatch.Program

open Swatch Swatch.CommandLine Swatch.Program in
/-- Runs the program on the words of its command line. -/
def main (args : List String) : IO UInt32 := do
  let words := args.map String.toList
  let home := ((← IO.getEnv "HOME").getD "").toList
  let outcome ←
    match Request.ofTexts words with
    | .error stop => pure (Outcome.ofStop stop)
    | .ok r => r.run <$> lookAround home r
  (← IO.getStderr).putStr (String.ofList outcome.diagnostics)
  (← IO.getStdout).putStr (String.ofList outcome.output)
  match outcome.ending with
  | .exit code => return UInt32.ofNat code
  | .escaped why => do
    (← IO.getStderr).putStrLn (String.ofList (escapeText why))
    return 1
  | .waiting => return 1
