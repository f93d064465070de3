import Accounts.Url.Basic

/-!
User names and passwords in requests. They are joined by a colon and written in base 64: three
bytes make four digits, and a last group that is short is filled up with equals signs.
-/

namespace Accounts.Transport

def digit64 (value : Nat) : UInt8 :=
  UInt8.ofNat <|
    if value < 26 then 0x41 + value
    else if value < 52 then 0x61 + (value - 26)
    else if value < 62 then 0x30 + (value - 52)
    else if value = 62 then 0x2B
    else 0x2F

def encode64 : List UInt8 → List UInt8
  | [] => []
  | [first] =>
    let group := first.toNat * 16
    [digit64 (group / 64), digit64 (group % 64), 0x3D, 0x3D]
  | [first, second] =>
    let group := (first.toNat * 256 + second.toNat) * 4
    [digit64 (group / 4096), digit64 (group / 64 % 64), digit64 (group % 64), 0x3D]
  | first :: second :: third :: rest =>
    let group := first.toNat * 65536 + second.toNat * 256 + third.toNat
    digit64 (group / 262144) :: digit64 (group / 4096 % 64) :: digit64 (group / 64 % 64)
      :: digit64 (group % 64) :: encode64 rest

/-- The value of an authorization header for the user of an address, if it names one. A user name
that is no text cannot be sent, and a password that is none counts as missing. -/
def authorization? (authority : Url.Authority) : Option (List UInt8) :=
  let plain? (escaped : List Char) : Option String :=
    Text.ofBytes? (Percent.decode (Text.bytes (String.ofList escaped)))
  match plain? authority.username with
  | none => none
  | some username =>
    let password := authority.password.bind plain?
    if username.isEmpty && password.isNone then none
    else
      some (Text.bytes "Basic "
        ++ encode64 (Text.bytes username ++ 0x3A :: Text.bytes (password.getD "")))

end Accounts.Transport
