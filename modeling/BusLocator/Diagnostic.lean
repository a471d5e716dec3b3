/-!
# Diagnostics

What the search has to say beside its answer, one line at a time. Only information depends on how
talkative the caller asked it to be; warnings and errors are always reported.
-/

namespace BusLocator

inductive Severity where
  | info
  | warning
  | error
  deriving DecidableEq, Repr

structure Diagnostic where
  severity : Severity
  message : String
  deriving DecidableEq, Repr

namespace Diagnostic

def info (message : String) : Diagnostic := ⟨.info, message⟩
def warning (message : String) : Diagnostic := ⟨.warning, message⟩
def error (message : String) : Diagnostic := ⟨.error, message⟩

/-- The line as it is printed on a console. -/
def line (d : Diagnostic) : String :=
  match d.severity with
  | .info => d.message
  | .warning => "Warning: " ++ d.message
  | .error => "Error: " ++ d.message

end Diagnostic

end BusLocator
