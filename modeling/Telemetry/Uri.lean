import Telemetry.Text.Octets

/-!
# URIs

What a request is sent to has to be a URI.  Its parts are checked in order: the scheme, the
authority and the path with its query.
-/

namespace Telemetry

/-- Why a text is no URI. -/
inductive UriProblem where
  | empty
  | tooLong
  | badCharacter
  | longScheme
  | badAuthority
  | badFormat
  deriving DecidableEq, Repr

/-- The wording of a URI's problem. -/
def UriProblem.message : UriProblem → String
  | .empty => "empty string"
  | .tooLong => "uri too long"
  | .badCharacter => "invalid uri character"
  | .longScheme => "scheme too long"
  | .badAuthority => "invalid authority"
  | .badFormat => "invalid format"

namespace Uri

/-- The most bytes of a URI. -/
def lengthLimit : Nat := 65534

/-- The most characters of a scheme. -/
def schemeLimit : Nat := 64

/-- Whether a character may stand in a scheme. -/
def isSchemeCharacter (character : Char) : Bool :=
  character.isAlphanum || ['+', '-', '.', '~'].contains character

/-- Whether a character may stand in an authority. -/
def isAuthorityCharacter (character : Char) : Bool :=
  character.isAlphanum || "!$&'()*+,-.:;=@[]_~".toList.contains character

/-- Whether a character ends an authority. -/
def endsAuthority (character : Char) : Bool :=
  ['/', '?', '#'].contains character

/-- Whether a character may stand in a path. -/
def isPathCharacter (character : Char) : Bool :=
  let code := character.toNat
  code == 0x21 || (0x24 ≤ code && code ≤ 0x3B) || code == 0x3D || (0x40 ≤ code && code ≤ 0x5F) ||
    (0x61 ≤ code && code ≤ 0x7E) || 0x7F ≤ code || code == 0x22

/-- Whether a character may stand in a query. -/
def isQueryCharacter (character : Char) : Bool :=
  let code := character.toNat
  code == 0x21 || (0x24 ≤ code && code ≤ 0x3B) || code == 0x3D || (0x3F ≤ code && code != 0x7F)

/-- What follows the scheme, if there is a scheme.  The mark of a scheme without anything before or
after it is none. -/
def afterScheme? (text : List Char) : Except UriProblem (Option (List Char)) :=
  match text.dropWhile isSchemeCharacter with
  | ':' :: '/' :: '/' :: rest =>
      if text = [':', '/', '/'] then
        .ok none
      else if schemeLimit < (text.takeWhile isSchemeCharacter).length then
        .error .longScheme
      else
        .ok (some rest)
  | _ => .ok none

/-- What is known while an authority is read. -/
structure Progress where
  /-- Colons since the last sign that made the earlier ones part of something else. -/
  colons : Nat
  opened : Bool
  closed : Bool
  /-- Whether a percent sign stands where none may be in the end. -/
  percent : Bool
  /-- Whether the last character separates user information from the host. -/
  afterUser : Bool

/-- Read one character of an authority. -/
def Progress.next (progress : Progress) (character : Char) : Except UriProblem Progress :=
  let here := { progress with afterUser := false }
  match character with
  | ':' => if 8 ≤ here.colons then .error .badAuthority else
      .ok { here with colons := here.colons + 1 }
  | '[' => if here.percent || here.opened then .error .badAuthority else
      .ok { here with opened := true }
  | ']' => if !here.opened || here.closed then .error .badAuthority else
      .ok { here with closed := true, colons := 0, percent := false }
  | '@' => .ok { here with afterUser := true, colons := 0, percent := false }
  | '%' => .ok { here with percent := true }
  | _ => if isAuthorityCharacter character then .ok here else .error .badCharacter

/-- Whether an authority may end here. -/
def Progress.ends (progress : Progress) : Bool :=
  progress.opened == progress.closed && progress.colons ≤ 1 && !progress.afterUser &&
    !progress.percent

/-- Check an authority. -/
def checkAuthority (text : List Char) : Except UriProblem Unit := do
  let progress ← text.foldlM Progress.next ⟨0, false, false, false, false⟩
  if progress.ends then .ok () else .error .badAuthority

/-- Check a path with its query; what follows a number sign does not matter. -/
def checkPath (text : List Char) : Except UriProblem Unit :=
  let address := text.takeWhile (· != '#')
  let path := address.takeWhile (· != '?')
  let query := (address.dropWhile (· != '?')).drop 1
  if path.all isPathCharacter && query.all isQueryCharacter then .ok () else .error .badCharacter

/-- Check the text after a scheme: an authority, which may not be empty, and a path. -/
def checkHierarchy (text : List Char) : Except UriProblem Unit := do
  if text.isEmpty then
    .error .empty
  let authority := text.takeWhile (!endsAuthority ·)
  checkAuthority authority
  if authority.isEmpty then .error .badFormat else checkPath (text.dropWhile (!endsAuthority ·))

/-- Check a text without a scheme, which has to be an authority and nothing else. -/
def checkBare (text : List Char) : Except UriProblem Unit := do
  checkAuthority (text.takeWhile (!endsAuthority ·))
  if text.any endsAuthority then .error .badFormat else .ok ()

/-- Check the text of a URI. -/
def check (text : String) : Except UriProblem Unit := do
  if lengthLimit < text.utf8ByteSize then
    .error .tooLong
  match text.toList with
  | [] => .error .empty
  | ['*'] => .ok ()
  | ['?'] | ['#'] => .error .badCharacter
  | '/' :: rest => checkPath ('/' :: rest)
  | characters =>
      match ← afterScheme? characters with
      | none => checkBare characters
      | some rest => checkHierarchy rest

end Uri
end Telemetry
