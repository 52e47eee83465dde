import Registrar.Snapshot
import Registrar.Text.Blank
import Registrar.Text.Digits

/- What every pass is handed besides the snapshots. -/
namespace Registrar

/-- `terminalCodes` are the remote's error codes that stop retries; none means every failure is
    retried. The presets are sent where a desired snapshot leaves an attribute unset. -/
structure Settings where
  version : UInt32
  account : String
  region : String
  presetScan : Bool
  presetMutability : Mutability
  terminalCodes : List String
  requeueSeconds : UInt64
  deriving DecidableEq, Repr

namespace Settings

def currentVersion : UInt32 := 1

def presetRequeueSeconds : UInt64 := 10

def of (account region : String) : Settings :=
  ⟨currentVersion, account, region, false, Mutability.preset, [], presetRequeueSeconds⟩

inductive Defect where
  | emptyAccount
  | emptyRegion
  | versionOutOfRange (version : Nat)
  | versionTooNew (version : Nat)
  | notAnObject
  deriving DecidableEq, Repr

def Defect.message : Defect → String
  | .emptyAccount => "account_id is empty"
  | .emptyRegion => "region is empty"
  | .versionOutOfRange v => "config_version " ++ Digits.text v ++ " is out of range"
  | .versionTooNew v =>
    "config_version " ++ Digits.text v ++ " is newer than this build supports (" ++
      Digits.text currentVersion.toNat ++ ")"
  | .notAnObject => "config is not a JSON object"

def defect? (s : Settings) : Option Defect :=
  if Text.allBlank s.account then some .emptyAccount
  else if Text.allBlank s.region then some .emptyRegion
  else none

end Settings
end Registrar
