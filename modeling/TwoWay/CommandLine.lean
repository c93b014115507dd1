import TwoWay.Grammar.Render
import TwoWay.Statement

/-!
The command line reads programs of statements and shows each with its value and with the text
that the value is rendered to. Without arguments it shows samples.
-/

namespace TwoWay.CommandLine

open Statement

/-- What a run prints and how it ends. -/
structure Report where
  exitCode : UInt32 := 0
  output : String := ""
  errors : String := ""

/-- The text, its value and its rendering, a line each. -/
def present {shape : Shape} (grammar : Grammar shape) (text : String) :
    Except (Fault AnyError) String := do
  let content ← (grammar.parse text).mapError (.map .decode)
  let rendered ← (grammar.render content).mapError (.map .encode)
  return Text.quoted text ++ "\n  => " ++ shape.inspect content ++
    "\n  => " ++ Text.quoted rendered ++ "\n"

def faultMessage : Fault AnyError → String
  | .error error => error.message
  | .overrun overrun => overrun.message

/-- Prints results up to the first fault. -/
def report : List (Except (Fault AnyError) String) → Report
  | [] => {}
  | .ok text :: rest =>
      let more := report rest
      { more with output := text ++ more.output }
  | .error fault :: _ => { exitCode := 1, errors := "error: " ++ faultMessage fault ++ "\n" }

def declarationSamples : List String :=
  ["let x = \"hi\";", "let greeting=\"hello, world\";"]

def assignmentSamples : List String :=
  ["n = 42;", "s = \"0\" ;"]

def samples : List (Except (Fault AnyError) String) :=
  declarationSamples.map (present declaration) ++ assignmentSamples.map (present assignment) ++
    [present statements ("\n".intercalate (declarationSamples ++ assignmentSamples))]

def run (arguments : List String) : Report :=
  report (if arguments.isEmpty then samples else arguments.map (present statements))

end TwoWay.CommandLine
