import Telemetry.Text.Blank
import Telemetry.Text.Hexadecimal

/-!
# Trace contexts

A message carries the trace it belongs to in two headers: the parent, with version, trace, span and
flags, and the state, a list of entries that tracing systems pass on.  A parent that breaks a rule
means no context; a state that breaks one only means an empty state.
-/

namespace Telemetry
namespace Trace

/-- The position of a span within a trace. -/
structure Context where
  /-- The trace, a number of 128 bits other than zero. -/
  trace : Nat
  /-- The span, a number of 64 bits other than zero. -/
  span : Nat
  sampled : Bool
  /-- What tracing systems pass on, by key; a key may come several times. -/
  state : List (String × String)
  deriving DecidableEq, Repr

/-- Cut a text at a separator; an empty piece at the end does not count. -/
def pieces (separator : Char) (text : List Char) : List (List Char) :=
  let all := text.splitOn separator
  if all.getLast? = some [] then all.dropLast else all

/-! ## The state -/

/-- The number of bytes of a text. -/
def byteCount (text : List Char) : Nat :=
  (String.ofList text).utf8ByteSize

/-- The most bytes of a key, and of a value. -/
def entryLimit : Nat := 256

def isLowerOrDigit (character : Char) : Bool :=
  ('a' ≤ character && character ≤ 'z') || ('0' ≤ character && character ≤ '9')

/-- Whether a character may stand in a key. -/
def isKeyCharacter (character : Char) : Bool :=
  isLowerOrDigit character || ['_', '-', '*', '/', '@'].contains character

/-- Whether what follows the sign between tenant and system is a system's name: it is short, has no
further sign, and begins with a letter or digit. -/
def isSystem (text : List Char) : Bool :=
  text.length < 14 && !text.contains '@' && text.head?.all isLowerOrDigit

/-- Whether a text is a key; the empty text is. -/
def isKey (text : List Char) : Bool :=
  byteCount text ≤ entryLimit && text.all isKeyCharacter && text.head?.all isLowerOrDigit &&
    (match text.dropWhile (· != '@') with
    | [] => true
    | _ :: system => isSystem system)

/-- Whether a text is a value. -/
def isValue (text : List Char) : Bool :=
  byteCount text ≤ entryLimit && !text.contains ',' && !text.contains '='

/-- Read one entry: the key ends at the first equals sign, and those at the start of the value are
dropped. -/
def readEntry? (text : List Char) : Option (String × String) :=
  let key := text.takeWhile (· != '=')
  let value := (text.dropWhile (· != '=')).dropWhile (· == '=')
  if text.contains '=' && isKey key && isValue value then
    some (String.ofList key, String.ofList value)
  else
    none

/-- Read the state; one bad entry makes all of it bad. -/
def readState? (text : String) : Option (List (String × String)) :=
  (pieces ',' text.toList).mapM readEntry?

/-- Write the state. -/
def writeState (state : List (String × String)) : String :=
  ",".intercalate (state.map fun entry => entry.1 ++ "=" ++ entry.2)

/-! ## The parent -/

/-- The largest version. -/
def versionLimit : Nat := 254

/-- The largest flags of the first version. -/
def flagLimit : Nat := 2

/-- Read an identifier below a limit, which is neither zero nor written in upper case. -/
def readIdentifier? (limit : Nat) (text : List Char) : Option Nat :=
  if text.any Char.isUpper then
    none
  else
    (hexRead? limit text).filter (0 < ·)

/-- Read the parent: its trace, its span, and whether it is sampled. -/
def readParent? (text : String) : Option (Nat × Nat × Bool) :=
  match pieces '-' (trimBlanks text.toList) with
  | version :: trace :: span :: flags :: further => do
      let version ← hexRead? (versionLimit + 1) version
      let trace ← readIdentifier? 0x100000000000000000000000000000000 trace
      let span ← readIdentifier? 0x10000000000000000 span
      let flags ← hexRead? 256 flags
      if version = 0 ∧ (!further.isEmpty ∨ flagLimit < flags) then
        none
      else
        some (trace, span, flags % 2 = 1)
  | _ => none

/-! ## Headers -/

/-- The headers of a message, of which the first of each name counts. -/
abbrev Headers := List (String × String)

def parentHeader : String := "traceparent"

def stateHeader : String := "tracestate"

/-- The context that headers carry. -/
def extract? (headers : Headers) : Option Context := do
  let (trace, span, sampled) ← readParent? (← headers.lookup parentHeader)
  let state := ((headers.lookup stateHeader).bind readState?).getD []
  some { trace, span, sampled, state }

/-- Write the parent. -/
def Context.writeParent (context : Context) : String :=
  String.ofList
    (['0', '0', '-'] ++ hexWrite 32 context.trace ++ ['-'] ++ hexWrite 16 context.span ++
      ['-', '0', if context.sampled then '1' else '0'])

/-- The headers that carry a context. -/
def Context.inject (context : Context) : Headers :=
  [(parentHeader, context.writeParent), (stateHeader, writeState context.state)]

/-- A new span below a parent, or at the root of a new trace; every span is sampled. -/
def newSpan (parent : Option Context) (trace span : Nat) : Context :=
  match parent with
  | some parent => { parent with span, sampled := true }
  | none => { trace, span, sampled := true, state := [] }

end Trace
end Telemetry
