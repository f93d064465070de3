import Accounts.Url.Basic

/-!
References. An address may be named from another one: by its scheme and host, by its host, by its
path, by its query, or by nothing. What is not named is taken from the address where the reference
was found, and a path that does not begin with a slash goes on from the last slash there. A fragment
is no part of what is asked for.
-/

namespace Accounts.Url

open Accounts.Text

def isReferenceCharacter (character : Char) : Bool :=
  character.isAlphanum || "-._~:/?#[]@!$&'()*+,;=".toList.contains character

def isReference : List Char → Bool
  | [] => true
  | '%' :: high :: low :: rest =>
    (digitIn? 16 high).isSome && (digitIn? 16 low).isSome && isReference rest
  | character :: rest => isReferenceCharacter character && isReference rest

namespace Address

/-- What a reference without a fragment names. A scheme must have a host after it. -/
def locate? (base : Address) (reference : List Char) : Option (List Char) :=
  let scheme := base.scheme ++ [':']
  let host := scheme ++ base.writeBeforePath
  match reference with
  | [] => some (host ++ base.writeTarget)
  | '/' :: '/' :: _ => some (scheme ++ reference)
  | '/' :: _ => some (host ++ reference)
  | '?' :: _ => some (host ++ base.path.write ++ reference)
  | _ =>
    match splitScheme? reference with
    | some (_, '/' :: '/' :: _) => some reference
    | some _ => none
    | none => some (host ++ dropRight (· != '/') base.path.write ++ reference)

def refer? (base : Address) (reference : String) : Option String :=
  if isReference reference.toList then
    (base.locate? (reference.toList.takeWhile (· != '#'))).map String.ofList
  else none

end Address

end Accounts.Url
