import StyleFold.Settings.File
import StyleFold.Style.Completion
import StyleFold.Style.Hover
import StyleFold.Tree.File

/-!
The command line: one query about one tree file. Everything but reading files and
printing is decided here.
-/

namespace StyleFold.CommandLine

/-- What a run prints, and its exit code. -/
structure Answer where
  exit : Nat := 0
  stdout : String := ""
  stderr : String := ""
  deriving DecidableEq, Repr

def line (text : String) : String := text ++ "\n"

def errorLine (text : String) : String := line ("Error: " ++ text)

section Arguments

structure Options where
  tree : String
  offset : Int
  /-- Asks for a completion instead of a hover. -/
  complete : Bool := false
  settings : Option String := none
  /-- Also shows the folded value of a hover. -/
  debug : Bool := false
  deriving DecidableEq, Repr

/-- How arguments can be wrong. -/
inductive Misuse where
  | usage
  | offset (given : String)
  deriving DecidableEq, Repr

def usageText : String :=
  "usage: stylens_cli.py <tree.json|tree.yaml> <byte-offset> [--complete] [--debug] " ++
    "[--settings FILE]"

def Misuse.answer : Misuse → Answer
  | .usage => { exit := 2, stderr := line usageText }
  | .offset given =>
      { exit := 2,
        stderr := errorLine ("byte offset must be an integer, got " ++ Text.quoted given) }

def takeFlag (flag : String) (args : List String) : Bool × List String :=
  (args.contains flag, args.erase flag)

def takeValue (flag : String) : List String → Except Misuse (Option String × List String)
  | [] => .ok (none, [])
  | arg :: rest =>
      if arg = flag then
        match rest with
        | value :: rest => .ok (some value, rest)
        | [] => .error .usage
      else (takeValue flag rest).map fun taken => (taken.1, arg :: taken.2)

def parse (args : List String) : Except Misuse Options := do
  let (complete, args) := takeFlag "--complete" args
  let (debug, args) := takeFlag "--debug" args
  let (settings, args) ← takeValue "--settings" args
  match args with
  | [tree, given] =>
      if Text.begins "-" tree then .error .usage
      else match Grouped.readInt? given with
        | some offset => return { tree, offset, complete, settings, debug }
        | none => .error (.offset given)
  | _ => .error .usage

end Arguments

section Answers

def completionText (completion : Completion) : String :=
  completion.property ++ ": " ++ completion.value.shown ++ " at " ++
    toString completion.span.start ++ "-" ++ toString completion.span.stop

def hoverAnswer (debug : Bool) (hover : Hover) : Except Fault Answer := do
  let stdout := line hover.contents
  if debug then
    let shown ← (Printer.print {} 0 hover.value).mapError Fault.refused
    return { stdout, stderr := line shown }
  else return { stdout }

def completionAnswer (completion : Completion) : Except Fault Answer :=
  .ok { stdout := line (completionText completion) }

def traceText (trace : List String) : String :=
  String.join (trace.map fun noticed => line ("[DBG] " ++ noticed))

/-- Faults that are the user's to mend end the run with a message; others are handed on. -/
def faultAnswer (fault : Fault) : Except Fault Answer :=
  if fault.isReported then .ok { exit := 1, stderr := errorLine (fault.message?.getD "") }
  else .error fault

def reportAnswer {Finding : Type} (tracing : Bool) (present : Finding → Except Fault Answer)
    (report : Survey.Report Finding) : Except Fault Answer := do
  let answer ← match report.outcome with
    | .ok (some finding) => present finding
    | .ok none => pure {}
    | .error fault => faultAnswer fault
  if tracing then return { answer with stderr := traceText report.trace ++ answer.stderr }
  else return answer

end Answers

def Options.treePath (options : Options) : String := Path.plain options.tree

def Options.paths (options : Options) : List String :=
  options.treePath :: options.settings.toList

/-- The settings and the tree that a query needs. A directory is there, but it is no tree. -/
def load (files : Files) (options : Options) (text : Option String) :
    Except Fault (Settings × Node) := do
  let settings ← match options.settings.filter fun path => !path.isEmpty with
    | some path => Settings.load files path
    | none => pure {}
  match text with
  | some text => return (settings, ← TreeFile.readFrom options.treePath text)
  | none => .error .treeIsDirectory

def answer (files : Files) (tracing : Bool) (options : Options) (text : Option String) :
    Except Fault Answer :=
  match load files options text with
  | .error fault => faultAnswer fault
  | .ok (settings, root) =>
      let query : Query := { cursor := options.offset, settings }
      if options.complete then
        reportAnswer tracing completionAnswer (Completion.find query false (.map root.entries))
      else
        reportAnswer tracing (hoverAnswer options.debug)
          (Hover.find query false (.map root.entries))

def run (files : Files) (tracing : Bool) (options : Options) : Except Fault Answer :=
  match files options.treePath with
  | .ok text => answer files tracing options (some text)
  | .error .directory => answer files tracing options none
  | .error _ => .ok { exit := 1, stderr := errorLine ("file not found: " ++ options.tree) }

def respond (files : Files) (tracing : Bool) (args : List String) : Except Fault Answer :=
  match parse args with
  | .error misuse => .ok misuse.answer
  | .ok options => run files tracing options

end StyleFold.CommandLine
