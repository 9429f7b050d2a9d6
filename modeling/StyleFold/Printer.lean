import StyleFold.Value.Conversion

/-!
Values and results for people to read, in script notation. Objects take a line for
each member, one level deeper than the object itself; arrays stay on their line.
-/

namespace StyleFold

structure Printer where
  indentWidth : Nat := 2

namespace Printer

/-! Text literals: three replacements, one after the other. -/

section Literals

def replace (c : Char) (becomes : List Char) (text : List Char) : List Char :=
  text.flatMap fun d => if d == c then becomes else [d]

def escape (text : List Char) : List Char :=
  replace '\n' ['\\', 'n'] (replace '\'' ['\\', '\''] (replace '\\' ['\\', '\\'] text))

def literal (text : List Char) : List Char := '\'' :: escape text ++ ['\'']

end Literals

def indent (printer : Printer) (level : Int) : String :=
  String.ofList (List.replicate (printer.indentWidth * level.toNat) ' ')

def static (text : String) : String := "<static " ++ text ++ ">"

def missing : String := "NOT_FOUND"

mutual

def value (printer : Printer) (level : Int) : Value → String
  | .undefined => "undefined"
  | .null => "null"
  | .bool b => if b then "true" else "false"
  | .number x => numberText x
  | .whole i => numberText (Double.ofInt i)
  | .bigint i => toString i ++ "n"
  | .string s => String.ofList (literal s.toList)
  | .regexp pattern flags => "/" ++ pattern.plain ++ "/" ++ flags.plain
  | .array entries => "[" ++ ", ".intercalate (entryTexts printer level entries) ++ "]"
  | .object [] => "\x7b\x7d"
  | .object (member :: rest) =>
      "\x7b\n" ++ ",\n".intercalate (memberLines printer (level + 1) (member :: rest)) ++ "\n" ++
        printer.indent level ++ "\x7d"
  | .foreign data => Node.shownPart data

def entry (printer : Printer) (level : Int) : Result → String
  | .value v _ => printer.value level v
  | .reference id _ => "<ref " ++ id.plain ++ ">"
  | .nonStatic => "<non-static>"
  | .bare v => printer.value level v

def entryTexts (printer : Printer) (level : Int) : List Result → List String
  | [] => []
  | result :: rest => printer.entry level result :: printer.entryTexts level rest

def memberLines (printer : Printer) (level : Int) : Members → List String
  | [] => []
  | (name, result) :: rest =>
      (printer.indent level ++ name.plain ++ ": " ++ printer.entry level result) ::
        printer.memberLines level rest

end

def result (printer : Printer) (level : Int) : Result → String
  | .value v _ => static (printer.value level v)
  | other => printer.entry level other

/-! A whole number is printed as a double, so it has to be in the range of doubles, and a
bigint in decimal notation. -/

section Range

mutual

/-- Why a value cannot be printed, if it cannot: the first cause in it. -/
def refusal? : Value → Option Refusal
  | .whole i => if (Double.ofInt? i).isSome then none else some .outOfRange
  | .bigint i => if isOverlong i then some .tooManyDigits else none
  | .array entries => entriesRefusal? entries
  | .object members => membersRefusal? members
  | _ => none

def entryRefusal? : Result → Option Refusal
  | .value v _ => refusal? v
  | .bare v => refusal? v
  | _ => none

def entriesRefusal? : List Result → Option Refusal
  | [] => none
  | result :: rest => (entryRefusal? result).or (entriesRefusal? rest)

def membersRefusal? : Members → Option Refusal
  | [] => none
  | (_, result) :: rest => (entryRefusal? result).or (membersRefusal? rest)

end

def print (printer : Printer) (level : Int) (result : Result) : Except Refusal String :=
  match entryRefusal? result with
  | some why => .error why
  | none => .ok (printer.result level result)

def span (span : Span) : Except Refusal String := do
  let start ← numberOfWhole span.start
  let stop ← numberOfWhole span.stop
  return "[" ++ numberText start ++ ", " ++ numberText stop ++ "]"

end Range

end Printer

def fenced (css : String) : String := "```css\n" ++ css ++ "\n```"

end StyleFold
