import Stencil.CommandLine.Request
import Stencil.Run.Generate

/-!
# Answers of the command line

What the program prints and how it exits.

## Implementation notes

The library that reads the arguments has its own texts for mistakes and for help.  They are left
open: a `Wording` has some text for each mistake.
-/

namespace Stencil.CommandLine

/-- What is said about mistakes in the arguments, and as help. -/
structure Wording where
  mistake : UsageFault → String
  help : String
  mistake_ne_empty : ∀ fault, mistake fault ≠ ""

namespace Wording

/-- How a flag is spelled in the help text. -/
def spelling (flag : Flag) : String :=
  let short := match flag.shortName? with
    | some c => "-" ++ String.singleton c ++ ", "
    | none => "    "
  short ++ "--" ++ flag.longName ++ if flag.takesValue then " <VALUE>" else ""

/-- A wording that lists the flags with what they are for. -/
def plain : Wording where
  mistake _ := "error: the arguments cannot be read, for more information try '--help'\n"
  help := "Generate source code from a Swagger 1.2 API declaration\n\nOptions:\n" ++
    String.join (Flag.all.map fun flag =>
      "  " ++ spelling flag ++ "\n          " ++ flag.purpose ++ "\n")
  mistake_ne_empty _ := by decide

end Wording

/-- What a process leaves behind. -/
structure Answer where
  exitCode : UInt8
  output : String := ""
  errors : String := ""
deriving DecidableEq, Repr

namespace Answer

/-- The name of the program and its version. -/
def versionText : String := "swaggen 0.1.0\n"

/-- What a successful run says. -/
def summary (options : Options) (report : Report) : String :=
  "Generated " ++ toString report.files.length ++ " file(s) from " ++ toString report.models ++
    " model(s) and " ++ toString report.apis ++ " api(s) into " ++ options.outputFolder ++ " (" ++
    toString report.warnings ++ " warning(s))\n"

/-- The answer of a run. -/
def ofRun (options : Options) : Except Failure Report → Answer
  | .ok report => ⟨0, summary options report, ""⟩
  | .error failure => ⟨1, "", failure.message ++ "\n"⟩

/-- The keys of the converters, one a line. -/
def converterList (registry : Registry) : String :=
  String.join (registry.keys.map (· ++ "\n"))

end Answer

/-- The answer to the arguments of the command line. -/
def answer {m : Type → Type} [Monad m] (environment : Environment m) (arguments : List String)
    (wording : Wording := .plain) : m Answer :=
  match Request.read arguments with
  | .error fault => return ⟨2, "", wording.mistake fault⟩
  | .ok .help => return ⟨0, wording.help, ""⟩
  | .ok .version => return ⟨0, Answer.versionText, ""⟩
  | .ok .listConverters => return ⟨0, Answer.converterList .builtin, ""⟩
  | .ok (.generate options) =>
    return Answer.ofRun options (← (generate environment .builtin options).run)

end Stencil.CommandLine
