import Telemetry.Url

/-!
# Reading URLs

A URL is read from left to right: scheme, user information, host, port, path, query and fragment.
Some schemes are usual: they always have a host, any number of slashes before it, and slashes of
either kind.  The scheme of files is usual too, but may do without a host.
-/

namespace Telemetry
namespace Url

/-- How the URLs of a scheme are read. -/
inductive Kind where
  | usual
  | file
  | other
  deriving DecidableEq, Repr

/-- The kind of a scheme. -/
def Kind.ofScheme (scheme : String) : Kind :=
  if ["http", "https", "ws", "wss", "ftp"].contains scheme then .usual
  else if scheme = "file" then .file
  else .other

/-- The port of a scheme. -/
def defaultPort? : String → Option Nat
  | "http" | "ws" => some 80
  | "https" | "wss" => some 443
  | "ftp" => some 21
  | _ => none

/-- Whether a character is a slash between segments. -/
def Kind.isSlash (kind : Kind) (character : Char) : Bool :=
  character == '/' || (character == '\\' && kind != .other)

/-- Whether a character ends a path. -/
def endsPath (character : Char) : Bool :=
  character == '?' || character == '#'

/-- Whether a character ends what stands before a path. -/
def Kind.endsAuthority (kind : Kind) (character : Char) : Bool :=
  kind.isSlash character || endsPath character

/-- Drop controls and blanks at both ends, and line ends and tabs everywhere. -/
def clean (text : List Char) : List Char :=
  let isOutside (character : Char) : Bool := character.toNat ≤ 0x20
  let inside := ((text.dropWhile isOutside).reverse.dropWhile isOutside).reverse
  inside.filter fun character => !(['\t', '\n', '\r'].contains character)

/-- Whether a character may stand in a scheme after the first one. -/
def isSchemeCharacter (character : Char) : Bool :=
  character.isAlphanum || ['+', '-', '.'].contains character

/-- Take the scheme, in lower case. -/
def takeScheme? (text : List Char) : Option (String × List Char) :=
  if (text.head?).any Char.isAlpha then
    match text.dropWhile isSchemeCharacter with
    | ':' :: rest =>
        some (String.ofList ((text.takeWhile isSchemeCharacter).map Char.toLower), rest)
    | _ => none
  else
    none

/-! ## Host -/

/-- Split a text at the last of a character, if there is one. -/
def splitLast? (separator : Char) (text : List Char) : Option (List Char × List Char) :=
  if text.contains separator then
    some (((text.reverse.dropWhile (· != separator)).drop 1).reverse,
      (text.reverse.takeWhile (· != separator)).reverse)
  else
    none

/-- Take the user information: name, password and the rest.  Without a name a host must follow. -/
def takeUser (kind : Kind) (text : List Char) :
    Except UrlProblem (List Char × List Char × List Char) :=
  let authority := text.takeWhile (!kind.endsAuthority ·)
  let rest := text.drop authority.length
  match splitLast? '@' authority with
  | none => .ok ([], [], text)
  | some ([], []) => if rest.isEmpty then .ok ([], [], []) else .error .emptyHost
  | some (information, host) =>
      .ok
        (information.takeWhile (· != ':'), (information.dropWhile (· != ':')).drop 1, host ++ rest)

/-- Take the text of a host, which a colon outside brackets ends. -/
def takeHost (kind : Kind) : Bool → List Char → List Char × List Char
  | _, [] => ([], [])
  | inside, character :: rest =>
      if kind.endsAuthority character || (character == ':' && !inside) then
        ([], character :: rest)
      else
        let (host, after) :=
          takeHost kind (if character = '[' then true else inside && character != ']') rest
        (character :: host, after)

/-- Take a port after its colon. -/
def takePort (scheme : String) (text : List Char) : Except UrlProblem (Option Nat × List Char) :=
  match text with
  | ':' :: rest =>
      let digits := rest.takeWhile Char.isDigit
      let after := rest.dropWhile Char.isDigit
      let port := decimalValue digits
      if 65535 < port || !(after.head?).all (['/', '\\', '?', '#'].contains ·) then
        .error .badPort
      else if digits.isEmpty || defaultPort? scheme = some port then
        .ok (none, after)
      else
        .ok (some port, after)
  | _ => .ok (none, text)

/-- Read the text of a host that is not a file's. -/
def readHost (kind : Kind) (text : List Char) : Except UrlProblem Host :=
  match kind with
  | .other => Host.readOther text
  | .usual | .file => if text.isEmpty then .error .emptyHost else Host.readDomain text

/-! ## Path -/

/-- Whether a text is a drive: a letter and a colon or bar. -/
def isDrive : List Char → Bool
  | [letter, mark] => letter.isAlpha && (mark == ':' || mark == '|')
  | _ => false

/-- Whether a segment is a drive with a colon. -/
def isPlainDrive (segment : String) : Bool :=
  isDrive segment.toList && segment.toList.getLast? == some ':'

/-- A segment with its points written as such. -/
def points (segment : List Char) : List Char :=
  match segment with
  | '%' :: '2' :: 'e' :: rest | '%' :: '2' :: 'E' :: rest => '.' :: points rest
  | character :: rest => character :: points rest
  | [] => []

/-- The segments above others, the last of which comes first.  A drive has nothing above it. -/
def above (kind : Kind) : List String → List String
  | [] => []
  | last :: others => if kind == .file && isPlainDrive last then last :: others else others

/-- Put a segment after others, of which the last comes first. -/
def push (kind : Kind) (segment : List Char) (before : List String) : List String :=
  let written := String.ofList (Percent.encode Percent.path segment)
  if kind == .file && before.isEmpty && isDrive segment then
    String.ofList (segment.take 1 ++ [':']) :: before
  else
    written :: before

/-- Put segments after others, of which the last comes first.  One point stands for the place where
it is and two for the one above. -/
def walk (kind : Kind) (before : List String) : List (List Char) → List String
  | [] => before
  | segment :: rest =>
      let isLast := rest.isEmpty
      let here (segments : List String) : List String :=
        if isLast then "" :: segments else segments
      match points segment with
      | ['.', '.'] => walk kind (here (above kind before)) rest
      | ['.'] => walk kind (here before) rest
      | _ => walk kind (push kind segment before) rest

/-- The segments of a path without its first slash. -/
def readSegments (kind : Kind) (text : List Char) : List String :=
  (walk kind [] (text.splitOnP kind.isSlash)).reverse

/-- Read a path after a host, up to the query.  A path that is not empty begins with a slash, and in
the usual schemes no path is empty. -/
def readPath (kind : Kind) (text : List Char) : List String :=
  let path := text.takeWhile (!endsPath ·)
  if path.isEmpty && kind == .other then
    []
  else if (path.head?).any kind.isSlash then
    readSegments kind (path.drop 1)
  else
    readSegments kind path

/-! ## Query and fragment -/

/-- Read the fragment after the query. -/
def readFragment? (text : List Char) : Option String :=
  match text.dropWhile (· != '#') with
  | [] => none
  | _ :: fragment => some (String.ofList (Percent.encode Percent.fragment fragment))

/-- Read the query, which in the usual schemes does not keep single quotes. -/
def readQuery? (kind : Kind) (text : List Char) : Option String :=
  match (text.takeWhile (· != '#')).dropWhile (· != '?') with
  | [] => none
  | _ :: query =>
      let excluded := if kind == .other then Percent.query else '\'' :: Percent.query
      some (String.ofList (Percent.encode excluded query))

/-! ## Whole URLs -/

/-- A URL without a host, with the query and the fragment of a text. -/
def bare (kind : Kind) (scheme : String) (path : UrlPath) (text : List Char) : Url :=
  { scheme
    user := ""
    password := ""
    host := none
    port := none
    path
    query := readQuery? kind text
    fragment := readFragment? text }

/-- Read what follows two slashes. -/
def readAuthority (kind : Kind) (scheme : String) (text : List Char) : Except UrlProblem Url := do
  let (user, password, rest) ← takeUser kind text
  let (name, rest) := takeHost kind false rest
  let host ← readHost kind name
  if host.isEmpty && ((rest.head?).any (· == ':') || !user.isEmpty || !password.isEmpty) then
    .error .emptyHost
  let (port, rest) ← takePort scheme rest
  .ok
    { bare kind scheme (.segments (readPath kind rest)) rest with
      user := String.ofList (Percent.encode Percent.user user)
      password := String.ofList (Percent.encode Percent.user password)
      host := some host
      port }

/-- Drop empty segments at the front, but not the last one. -/
def dropEmpty : List String → List String
  | "" :: segment :: rest => dropEmpty (segment :: rest)
  | segments => segments

/-- A file's URL with a host, which is left out if the path begins with a drive. -/
def fileUrl (host : Host) (text : List Char) : Url :=
  let segments := readPath .file text
  let kept := if (segments.head?).any isPlainDrive then Host.empty else host
  { bare .file "file" (.segments (dropEmpty segments)) text with host := some kept }

/-- Read the host of a file's URL and what follows it.  A drive is no host. -/
def readFileHost (text : List Char) : Except UrlProblem Url := do
  let name := text.takeWhile (!Kind.file.endsAuthority ·)
  if name.isEmpty || isDrive name then
    .ok (fileUrl Host.empty text)
  else
    let host ← Host.readDomain name
    .ok (fileUrl (if host = .name "localhost" then Host.empty else host) (text.drop name.length))

/-- Read what follows the scheme of files. -/
def readFile (text : List Char) : Except UrlProblem Url :=
  match text with
  | first :: second :: rest =>
      if Kind.file.isSlash first && Kind.file.isSlash second then
        readFileHost rest
      else
        .ok (fileUrl Host.empty text)
  | _ => .ok (fileUrl Host.empty text)

/-- Read what follows a scheme that is not usual. -/
def readUnusual (scheme : String) (text : List Char) : Except UrlProblem Url :=
  match text with
  | '/' :: '/' :: rest => readAuthority .other scheme rest
  | '/' :: _ => .ok (bare .other scheme (.segments (readPath .other text)) text)
  | _ =>
      let path := text.takeWhile (!endsPath ·)
      .ok (bare .other scheme (.text (String.ofList (Percent.encode [] path))) text)

/-- Read a URL. -/
def read (text : String) : Except UrlProblem Url :=
  match takeScheme? (clean text.toList) with
  | none => .error .relative
  | some (scheme, rest) =>
      match Kind.ofScheme scheme with
      | .usual => readAuthority .usual scheme (rest.dropWhile Kind.usual.isSlash)
      | .file => readFile rest
      | .other => readUnusual scheme rest

end Url
end Telemetry
