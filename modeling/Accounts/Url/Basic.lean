import Accounts.Url.Host
import Accounts.Url.Path

/-!
Addresses. Reading drops white space around an address and tabs and line breaks in it. In the common
schemes backslashes count as slashes and any number of slashes may follow the scheme; there must be
a host, and it is put into its plain form. A file may have a host and has neither user nor number.
Other addresses have a host only after two slashes. Every part is kept in the escaped form in which
it is written.
-/

namespace Accounts.Url

open Accounts.Text

/-- What stands between two slashes and the path. The number is left out if it is the usual one. -/
structure Authority where
  username : List Char := []
  password : Option (List Char) := none
  host : Option Host := none
  portNumber : Option Nat := none
  deriving DecidableEq

structure Address where
  scheme : Scheme
  authority : Option Authority
  path : Path
  query : Option (List Char) := none
  fragment : Option (List Char) := none
  deriving DecidableEq

namespace Address

def segments (address : Address) : List (List Char) :=
  match address.path with
  | .segments list => list
  | .text _ => []

end Address

/-! Taking an address apart. -/
section Splitting

/-- Drops white space and controls at both ends, and tabs and line breaks anywhere. -/
def tidy (characters : List Char) : List Char :=
  let isOuter (character : Char) : Bool := character.toNat ≤ 0x20
  (dropRight isOuter (characters.dropWhile isOuter)).filter fun character =>
    !"\t\n\r".toList.contains character

def isSchemeCharacter (character : Char) : Bool :=
  character.isAlphanum || "+-.".toList.contains character

def splitScheme? (characters : List Char) : Option (Scheme × List Char) :=
  let name := characters.takeWhile isSchemeCharacter
  match name, characters.dropWhile isSchemeCharacter with
  | first :: _, ':' :: rest =>
    if first.isAlpha then some (name.map Char.toLower, rest) else none
  | _, _ => none

def startsTail (character : Char) : Bool := character == '?' || character == '#'

def splitTail (characters : List Char) : List Char × List Char :=
  (characters.takeWhile fun character => !startsTail character,
    characters.dropWhile fun character => !startsTail character)

def splitPath (kind : SchemeKind) (characters : List Char) : List Char × List Char :=
  (characters.takeWhile fun character => !kind.isSlash character,
    characters.dropWhile fun character => !kind.isSlash character)

/-- The user name and the password before the last at sign, and the authority without them. -/
def splitUser (authority : List Char) : Option (List Char) × List Char :=
  let tail := (authority.reverse.takeWhile (· != '@')).reverse
  if tail.length < authority.length then
    (some (authority.take (authority.length - tail.length - 1)), tail)
  else (none, authority)

/-- Splits at the colon that is not inside square brackets. -/
def splitNumber (inBrackets : Bool) : List Char → List Char × Option (List Char)
  | [] => ([], none)
  | character :: rest =>
    if character == ':' && !inBrackets then ([], some rest)
    else
      let later := splitNumber
        (if character == '[' then true else if character == ']' then false else inBrackets) rest
      (character :: later.1, later.2)

end Splitting

/-! Reading the parts. -/
section Parts

def readQuery (kind : SchemeKind) : List Char → Option (List Char)
  | '?' :: query => some (escapeAll (escapesInQuery (kind != .other)) query)
  | _ => none

def readFragment : List Char → Option (List Char)
  | '#' :: fragment => some (escapeAll escapesInFragment fragment)
  | _ => none

def Address.withTail (address : Address) (tail : List Char) : Address :=
  { address with
    query := readQuery address.scheme.kind (tail.takeWhile (· != '#'))
    fragment := readFragment (tail.dropWhile (· != '#')) }

/-- An empty password is none. -/
def readUser (characters : List Char) : List Char × Option (List Char) :=
  let name := escapeAll escapesInUser (characters.takeWhile (· != ':'))
  let password := (characters.dropWhile (· != ':')).drop 1
  (name, if password.isEmpty then none else some (escapeAll escapesInUser password))

def readNumber? (scheme : Scheme) (characters : List Char) : Option (Option Nat × List Char) :=
  let digits := characters.takeWhile Char.isDigit
  match valueIn? 10 0 digits with
  | none => none
  | some value =>
    if 65535 < value then none
    else
      some (if digits.isEmpty || Scheme.usualNumber? scheme == some value then none else some value,
        characters.dropWhile Char.isDigit)

/-- A host, which only some addresses must have. -/
def readHost? (kind : SchemeKind) (characters : List Char) : Option (Option Host) :=
  match kind with
  | .other => if characters.isEmpty then some none else (Host.parseOther? characters).map some
  | _ => (Host.parse? characters).map some

/-- Reads an authority. A backslash after the number ends it, and what it begins is given back. -/
def readAuthority? (scheme : Scheme) (characters : List Char) :
    Option (Authority × List Char) :=
  let parts := splitUser characters
  let user := readUser (parts.1.getD [])
  let hostAndNumber := splitNumber false parts.2
  match readHost? scheme.kind hostAndNumber.1, readNumber? scheme (hostAndNumber.2.getD []) with
  | some host, some (number, rest) =>
    let isBare := host.isNone && (hostAndNumber.2.isSome || !user.1.isEmpty || user.2.isSome)
    if isBare || !(rest.isEmpty || rest.head? == some '\\') then none
    else some (⟨user.1, user.2, host, number⟩, rest)
  | _, _ => none

end Parts

/-! Reading addresses. What is read begins after the colon of the scheme, or after the slashes that
follow it. -/
section Reading

def readCommon? (scheme : Scheme) (characters : List Char) : Option Address :=
  let body := splitTail characters
  let parts := splitPath .common body.1
  match readAuthority? scheme parts.1 with
  | some (authority, []) =>
    let path := Path.segments (readSegments .common (dropSlash .common parts.2))
    some (Address.withTail ⟨scheme, some authority, path, none, none⟩ body.2)
  | _ => none

def readOtherPath (characters : List Char) : Path :=
  .segments (if characters.isEmpty then [] else readSegments .other (dropSlash .other characters))

def readOther? (scheme : Scheme) : List Char → Option Address
  | '/' :: '/' :: characters =>
    let body := splitTail characters
    let parts := splitPath .other body.1
    match readAuthority? scheme parts.1 with
    | none => none
    | some (authority, rest) =>
      -- An at sign with nothing around it needs something to follow.
      if (splitUser parts.1).1 == some [] && authority.host.isNone
          && !(parts.2.isEmpty && body.2.isEmpty) then none
      else
        let path := readOtherPath (rest ++ parts.2)
        some (Address.withTail ⟨scheme, some authority, path, none, none⟩ body.2)
  | characters =>
    let body := splitTail characters
    let path := match body.1 with
      | '/' :: rest => Path.segments (readSegments .other rest)
      | rest => Path.text (escapeAll isAlwaysEscaped rest)
    some (Address.withTail ⟨scheme, none, path, none, none⟩ body.2)

/-- The host of a file. The machine that the file is on needs no name. -/
def readFileHost? (characters : List Char) : Option (Option Host) :=
  if characters.isEmpty || isDrive characters then some none
  else
    match Host.parse? characters with
    | none => none
    | some host => some (if host == .domain "localhost".toList then none else some host)

/-- The host and the path of a file, given what comes before the query. A drive leaves no
host. -/
def readFileParts? (characters : List Char) : Option (Option Host × List (List Char)) :=
  match characters with
  | first :: second :: rest =>
    if isSlash first && isSlash second then
      let parts := splitPath .file rest
      match readFileHost? parts.1 with
      | none => none
      | some host =>
        let segments := segmentsOf (if isDrive parts.1 then rest else parts.2)
        some (if isDrive (segments.headD []) then none else host, segments)
    else some (none, segmentsOf characters)
  | _ => some (none, segmentsOf characters)
where
  isSlash := SchemeKind.isSlash .file
  segmentsOf (path : List Char) := readSegments .file (dropSlash .file path)

def readFile? (scheme : Scheme) (characters : List Char) : Option Address :=
  let body := splitTail characters
  (readFileParts? body.1).map fun parts =>
    Address.withTail
      ⟨scheme, some ⟨[], none, parts.1, none⟩, .segments (dropEmpty parts.2), none, none⟩ body.2

def parse? (text : String) : Option Address :=
  match splitScheme? (tidy text.toList) with
  | none => none
  | some (scheme, rest) =>
    match scheme.kind with
    | .common => readCommon? scheme (rest.dropWhile (SchemeKind.isSlash .common))
    | .file => readFile? scheme rest
    | .other => readOther? scheme rest

end Reading

/-! Writing. -/
section Writing

def Authority.writeHost (authority : Authority) : List Char :=
  (match authority.host with
    | none => []
    | some host => host.write)
    ++ match authority.portNumber with
      | none => []
      | some number => ':' :: Decimal.digits number

def Authority.writeUser (authority : Authority) : List Char :=
  if authority.username.isEmpty && authority.password.isNone then []
  else
    authority.username
      ++ (match authority.password with
        | none => []
        | some password => ':' :: password)
      ++ ['@']

namespace Address

/-- The path and the query, as they are asked for at the host. -/
def writeTarget (address : Address) : List Char :=
  address.path.write ++
    match address.query with
    | none => []
    | some query => '?' :: query

/-- What stands before the path. Without it, a path must not begin with two slashes. -/
def writeBeforePath (address : Address) : List Char :=
  match address.authority, address.path with
  | some authority, _ => "//".toList ++ authority.writeUser ++ authority.writeHost
  | none, .segments ([] :: _ :: _) => "/.".toList
  | none, _ => []

def write (address : Address) : String :=
  String.ofList (address.scheme ++ ':' :: address.writeBeforePath ++ address.writeTarget ++
    match address.fragment with
    | none => []
    | some fragment => '#' :: fragment)

end Address

end Writing

end Accounts.Url
