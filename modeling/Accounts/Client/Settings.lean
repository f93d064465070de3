import Accounts.Decimal
import Accounts.Http.Message
import Accounts.Text.Basic

/-!
What all calls of a client share: the base address without slashes at its end, headers sent with
every request, the statuses that count as success, and a time limit.
-/

namespace Accounts.Client

/-- The statuses from `low` up to, and without, `high`. -/
structure StatusRange where
  low : Nat
  high : Nat
  deriving DecidableEq

def StatusRange.contains (range : StatusRange) (status : Nat) : Bool :=
  range.low ≤ status && status < range.high

structure Settings where
  basePath : String
  headers : List Http.Header := []
  success : StatusRange := ⟨200, 300⟩
  timeoutSeconds : Nat := 30
  deriving DecidableEq

namespace Settings

def ofBasePath (basePath : String) : Settings := { basePath := Text.trimRight '/' basePath }

def addHeader (settings : Settings) (header : Http.Header) : Settings :=
  { settings with headers := settings.headers ++ [header] }

def addHeaders (settings : Settings) (headers : List Http.Header) : Settings :=
  headers.foldl addHeader settings

def withSuccess (settings : Settings) (success : StatusRange) : Settings :=
  { settings with success := success }

/-- The time limit is not part of the diagnostic. -/
def diagnostic (settings : Settings) : String :=
  Text.braced "ClientConfig" [
    "base_path: " ++ Text.quoted settings.basePath,
    "custom_headers: " ++ Http.headersDiagnostic settings.headers,
    "success_status: " ++ Decimal.write settings.success.low ++ ".."
      ++ Decimal.write settings.success.high,
    ".."]

end Settings

end Accounts.Client
