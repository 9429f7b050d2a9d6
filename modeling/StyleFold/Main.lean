import StyleFold.CommandLine
import StyleFold.Text.Repair

/-!
The program: reads the files that its arguments name, prints the answer and exits.
-/

namespace StyleFold

def readText (path : String) : IO (Except Unreadable String) := do
  try
    let bytes ← IO.FS.readBinFile path
    return .ok (Text.repair (bytes.toList.map UInt8.toNat))
  catch
    | .inappropriateType .. => return .error .directory
    | _ => return .error .missing

def readTexts (args : List String) : IO (List (String × Except Unreadable String)) := do
  match CommandLine.parse args with
  | .error _ => return []
  | .ok options => options.paths.mapM fun path => do return (path, ← readText path)

def traceVariable : String := "STYLENS_DEBUG"

def isTracing : IO Bool := do
  return ((← IO.getEnv traceVariable).map fun setting => !setting.isEmpty).getD false

end StyleFold

def main (args : List String) : IO UInt32 := do
  let texts ← StyleFold.readTexts args
  let files : StyleFold.Files := fun path => (texts.lookup path).getD (.error .missing)
  match StyleFold.CommandLine.respond files (← StyleFold.isTracing) args with
  | .ok answer =>
      (← IO.getStdout).putStr answer.stdout
      (← IO.getStderr).putStr answer.stderr
      return answer.exit.toUInt32
  | .error fault =>
      (← IO.getStderr).putStrLn (fault.message?.getD "the tree has an unexpected shape")
      return 1
