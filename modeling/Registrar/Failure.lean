import Registrar.Json.Fault
import Registrar.Remote
import Registrar.Settings

/- Why a pass, or the reading or writing of settings, ended without its result. -/
namespace Registrar

inductive Failure where
  | notFound (name : String)
  | remote (e : RemoteError)
  | cancelled (before : String)
  | missingField (field : String)
  | unusable (reason : String)
  | unreadable (f : Json.Fault)
  | files (reason : String)
  deriving DecidableEq, Repr

def Json.Fault.message : Json.Fault → String
  | .grammar => "not JSON"
  | .shape m => m.message
  | .instant => "not an instant"

namespace Failure

def message : Failure → String
  | .notFound name => "repository not found: " ++ name
  | .remote e => "remote API error: " ++ e.message
  | .cancelled before => "reconcile pass cancelled before " ++ before
  | .missingField field => "missing required field: " ++ field
  | .unusable reason => "invalid config: " ++ reason
  | .unreadable f => "serialization error: " ++ f.message
  | .files reason => "I/O error: " ++ reason

/-- What brought the failure about, message by message, from its own down to the first cause. -/
def causes (f : Failure) : List String :=
  f.message :: match f with
    | .remote e => [e.message]
    | .unreadable g => [g.message]
    | .files reason => [reason]
    | _ => []

def code? : Failure → Option String
  | .remote e => some e.code
  | _ => none

def isTerminal (f : Failure) (settings : Settings) : Bool :=
  match f.code? with
  | some code => settings.terminalCodes.contains code
  | none => false

end Failure

def chained (messages : List String) : String := String.intercalate ": " messages

end Registrar
