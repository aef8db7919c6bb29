import Telemetry.Text.Alphanumeric
import Telemetry.Text.Blank
import Telemetry.Text.Hexadecimal

/-!
# Patterns

A pattern describes texts: characters, sets of them in brackets, groups, alternatives and
repetitions.  Patterns with a count for a repetition cannot be written here, because a closing brace
ends the text in which a pattern stands.
-/

namespace Telemetry
namespace Log

/-- What cannot be divided in a pattern. -/
inductive Atom where
  /-- A character, which may be written as a byte. -/
  | character (value : Char) (byte : Bool)
  /-- Any character. -/
  | any
  /-- The edge of a line or of the text. -/
  | edge
  | wordEdge
  /-- The digits, the blanks or the characters of words, or all others. -/
  | shorthand (negated : Bool)
  /-- A property of characters. -/
  | property
  deriving DecidableEq, Repr

/-- What stands between brackets. -/
inductive Bracket where
  | single (atom : Atom)
  | range (first last : Char)
  /-- A set of plain characters with a name, or all others. -/
  | named (negated : Bool)
  | union (parts : List Bracket)
  | operation (left right : Bracket)
  | nested (negated : Bool) (inner : Bracket)
  deriving Repr

/-- Letters that change how a pattern is read, each with whether it is set. -/
abbrev Switches := List (Char × Bool)

/-- A pattern. -/
inductive Pattern where
  | single (atom : Atom)
  /-- A change for what follows in the same group. -/
  | change (switches : Switches)
  | bracket (negated : Bool) (inner : Bracket)
  | repeated (inner : Pattern)
  | group (name : Option String) (switches : Switches) (inner : Pattern)
  | alternatives (branches : List Pattern)
  | sequence (parts : List Pattern)
  deriving Repr

namespace Pattern

/-! ## Reading -/

/-- Drop blanks and comments, which reach from a number sign to the end of a line. -/
def dropBlanks : Bool → List Char → List Char
  | _, [] => []
  | true, character :: rest => dropBlanks (character != '\n') rest
  | false, character :: rest =>
      if isBlank character then dropBlanks false rest
      else if character = '#' then dropBlanks true rest
      else character :: rest

/-- Drop blanks and comments where they do not count. -/
def skip (spaced : Bool) (text : List Char) : List Char :=
  if spaced then dropBlanks false text else text

/-- Take hexadecimal digits. -/
def takeDigits (spaced : Bool) : Nat → List Char → Option (List Nat × List Char)
  | 0, text => some ([], skip spaced text)
  | count + 1, text =>
      match skip spaced text with
      | character :: rest => do
          let digit ← hexValue? character
          let (digits, rest) ← takeDigits spaced count rest
          some (digit :: digits, rest)
      | [] => none

/-- Read a character that is given by its code. -/
def readCoded (spaced : Bool) (count : Nat) (text : List Char) : Option (Atom × List Char) := do
  let (digits, rest) ← takeDigits spaced count text
  let code := digits.foldl (fun value digit => value * 16 + digit) 0
  if Nat.isValidChar code then some (.character (Char.ofNat code) (count == 2), rest) else none

/-- Whether a character stands for itself after a backslash. -/
def isEscapable (character : Char) : Bool :=
  character.toNat < 128 && !character.isAlphanum && character != '<' && character != '>'

/-- Read what follows a backslash. -/
def readEscape (spaced : Bool) (text : List Char) : Option (Atom × List Char) :=
  match text with
  | [] => none
  | 'x' :: rest => readCoded spaced 2 rest
  | 'u' :: rest => readCoded spaced 4 rest
  | 'U' :: rest => readCoded spaced 8 rest
  | 'p' :: rest | 'P' :: rest =>
      match skip spaced rest with
      | [] | '\\' :: _ => none
      | _ :: rest => some (.property, rest)
  | character :: rest =>
      if isEscapable character then some (.character character false, rest)
      else if ['d', 's', 'w'].contains character then some (.shorthand false, rest)
      else if ['D', 'S', 'W'].contains character then some (.shorthand true, rest)
      else if ['a', 'f', 'n', 'r', 't', 'v'].contains character then
        some (.character ' ' false, rest)
      else if ['A', 'z'].contains character then some (.edge, rest)
      else if ['b', 'B', '<', '>'].contains character then some (.wordEdge, rest)
      else none

/-- The names of sets of plain characters. -/
def setNames : List String :=
  ["alnum", "alpha", "ascii", "blank", "cntrl", "digit", "graph", "lower", "print", "punct",
    "space", "upper", "word", "xdigit"]

/-- Read the name of a set of plain characters after its bracket. -/
def readNamed? (text : List Char) : Option (Bracket × List Char) :=
  match text with
  | ':' :: rest =>
      let negated := rest.head? == some '^'
      let rest := if negated then rest.tail else rest
      match rest.dropWhile (· != ':') with
      | ':' :: ']' :: after =>
          if setNames.contains (String.ofList (rest.takeWhile (· != ':'))) then
            some (.named negated, after)
          else
            none
      | _ => none
  | _ => none

/-- Read one character or escape between brackets. -/
def readMember (spaced : Bool) (text : List Char) : Option (Atom × List Char) :=
  match text with
  | [] => none
  | '\\' :: rest => readEscape spaced rest
  | character :: rest => some (.character character false, rest)

/-- Whether an atom may stand between brackets. -/
def isMember : Atom → Bool
  | .character .. | .shorthand _ | .property => true
  | .any | .edge | .wordEdge => false

/-- Read a character, an escape or a range between brackets. -/
def readRange (spaced : Bool) (text : List Char) : Option (Bracket × List Char) := do
  let (first, rest) ← readMember spaced text
  match skip spaced rest with
  | [] => none
  | '-' :: after =>
      match skip spaced after with
      | ']' :: _ | '-' :: _ => if isMember first then some (.single first, '-' :: after) else none
      | after => do
          let (last, rest) ← readMember spaced after
          match first, last with
          | .character first _, .character last _ =>
              if first ≤ last then some (.range first last, rest) else none
          | _, _ => none
  | rest => if isMember first then some (.single first, rest) else none

/-- Take hyphens at the front of a set, which stand for themselves. -/
def takeHyphens (spaced : Bool) : Nat → List Char → List Bracket × List Char
  | 0, text => ([], text)
  | fuel + 1, text =>
      match text with
      | '-' :: rest =>
          let (hyphens, rest) := takeHyphens spaced fuel (skip spaced rest)
          (.single (.character '-' false) :: hyphens, rest)
      | _ => ([], text)

/-- Read the front of a set after its bracket: whether it is negated, and its first members if they
are hyphens or the bracket that closes other sets. -/
def readFront (spaced : Bool) (text : List Char) : Bool × List Bracket × List Char :=
  let text := skip spaced text
  let negated := text.head? == some '^'
  let text := if negated then skip spaced text.tail else text
  match takeHyphens spaced text.length text with
  | ([], ']' :: rest) => (negated, [.single (.character ']' false)], skip spaced rest)
  | (hyphens, rest) => (negated, hyphens, rest)

/-- The set of several members. -/
def unite (parts : List Bracket) : Bracket :=
  match parts with
  | [part] => part
  | parts => .union parts

/-- The set of an operation whose second operand has been read. -/
def operate (left : Option Bracket) (parts : List Bracket) : Bracket :=
  match left with
  | none => unite parts.reverse
  | some left => .operation left (unite parts.reverse)

/-- Read a set up to its closing bracket, after the first operand and some members, of which the
last comes first. -/
def readBracket (spaced : Bool) :
    Nat → Option Bracket → List Bracket → List Char → Option (Bracket × List Char)
  | 0, _, _, _ => none
  | fuel + 1, left, parts, text =>
      match skip spaced text with
      | [] => none
      | ']' :: rest => some (operate left parts, rest)
      | '&' :: '&' :: rest | '-' :: '-' :: rest | '~' :: '~' :: rest =>
          readBracket spaced fuel (some (operate left parts)) [] rest
      | '[' :: rest =>
          match readNamed? rest with
          | some (named, rest) => readBracket spaced fuel left (named :: parts) rest
          | none => do
              let (negated, front, rest) := readFront spaced rest
              let (inner, rest) ← readBracket spaced fuel none front.reverse rest
              readBracket spaced fuel left (.nested negated inner :: parts) rest
      | rest => do
          let (part, rest) ← readRange spaced rest
          readBracket spaced fuel left (part :: parts) rest

/-- The letters of switches. -/
def switchLetters : List Char := ['i', 'm', 's', 'U', 'u', 'R', 'x']

/-- Read switches up to the colon or parenthesis that ends them, which is returned too. -/
def readSwitches (on dangling : Bool) (found : Switches) :
    List Char → Option (Switches × Char × List Char)
  | [] => none
  | character :: rest =>
      if character = ':' ∨ character = ')' then
        if dangling then none else some (found.reverse, character, rest)
      else if character = '-' then
        if on then readSwitches false true found rest else none
      else if switchLetters.contains character && !found.any (·.1 == character) then
        readSwitches on false ((character, on) :: found) rest
      else
        none

/-- Whether a switch is set, if it is mentioned. -/
def switchOf? (letter : Char) (switches : Switches) : Option Bool :=
  switches.lookup letter

/-- Whether a character may stand in the name of a group. -/
def isNameCharacter (character : Char) : Bool :=
  isAlphanumeric character || ['_', '.', '[', ']'].contains character

/-- Read the name of a group up to the bracket that ends it. -/
def readName (text : List Char) : Option (String × List Char) :=
  let name := text.takeWhile isNameCharacter
  match text.dropWhile isNameCharacter with
  | '>' :: rest =>
      if (name.head?).any fun first => first == '_' || isLetter first then
        some (String.ofList name, rest)
      else
        none
  | _ => none

/-- How a group begins. -/
inductive Opening where
  | change (switches : Switches)
  | start (name : Option String) (switches : Switches)

/-- Read the beginning of a group after its parenthesis. -/
def readOpening (text : List Char) : Option (Opening × List Char) :=
  match text with
  | '?' :: 'P' :: '<' :: rest | '?' :: '<' :: rest =>
      (readName rest).map fun (name, rest) => (.start (some name) [], rest)
  | '?' :: rest => do
      let (switches, last, rest) ← readSwitches true false [] rest
      if last = ':' then some (.start none switches, rest)
      else if switches.isEmpty then none
      else some (.change switches, rest)
  | _ => some (.start none [], text)

/-- The pattern of parts, of which the last comes first. -/
def join (parts : List Pattern) : Pattern :=
  match parts with
  | [part] => part
  | parts => .sequence parts.reverse

/-- The pattern of branches, of which the last is still in parts and the others come last first. -/
def choose (branches : List Pattern) (parts : List Pattern) : Pattern :=
  if branches.isEmpty then join parts else .alternatives (join parts :: branches).reverse

/-- Read a pattern up to the end of its group, after some branches and some parts of the current
branch, each with the last one first. -/
def readGroup :
    Nat → Bool → Bool → List Pattern → List Pattern → List Char → Option (Pattern × List Char)
  | 0, _, _, _, _, _ => none
  | fuel + 1, inside, spaced, branches, parts, text =>
      match skip spaced text with
      | [] => if inside then none else some (choose branches parts, [])
      | ')' :: rest => if inside then some (choose branches parts, rest) else none
      | '|' :: rest => readGroup fuel inside spaced (join parts :: branches) [] rest
      | '(' :: rest => do
          match ← readOpening (skip spaced rest) with
          | (.change switches, rest) =>
              readGroup fuel inside ((switchOf? 'x' switches).getD spaced) branches
                (.change switches :: parts) rest
          | (.start name switches, rest) => do
              let (inner, rest) ←
                readGroup fuel true ((switchOf? 'x' switches).getD spaced) [] [] rest
              readGroup fuel inside spaced branches (.group name switches inner :: parts) rest
      | '[' :: rest => do
          let (negated, front, rest) := readFront spaced rest
          let (inner, rest) ← readBracket spaced fuel none front.reverse rest
          readGroup fuel inside spaced branches (.bracket negated inner :: parts) rest
      | '?' :: rest | '*' :: rest | '+' :: rest =>
          let rest := if rest.head? = some '?' then rest.tail else rest
          match parts with
          | [] | .change _ :: _ => none
          | last :: before =>
              readGroup fuel inside spaced branches (.repeated last :: before) rest
      | '{' :: _ => none
      | '\\' :: rest => do
          let (escaped, rest) ← readEscape spaced rest
          readGroup fuel inside spaced branches (.single escaped :: parts) rest
      | '.' :: rest => readGroup fuel inside spaced branches (.single .any :: parts) rest
      | '^' :: rest | '$' :: rest =>
          readGroup fuel inside spaced branches (.single .edge :: parts) rest
      | character :: rest =>
          readGroup fuel inside spaced branches (.single (.character character false) :: parts) rest

/-- Read a pattern. -/
def read? (text : List Char) : Option Pattern :=
  (readGroup (text.length + 1) false false [] [] text).map (·.1)

end Pattern

/-! ## Measures -/

mutual

/-- How deep sets are nested between brackets. -/
def Bracket.depth : Bracket → Nat
  | .single _ | .range .. | .named _ => 0
  | .union [] => 0
  | .union (part :: parts) => 1 + Bracket.depthAll (part :: parts)
  | .operation left right => 1 + max left.depth right.depth
  | .nested _ inner => 1 + inner.depth

/-- How deep the deepest of some sets is nested. -/
def Bracket.depthAll : List Bracket → Nat
  | [] => 0
  | part :: parts => max part.depth (Bracket.depthAll parts)

end

mutual

/-- How deep a pattern is nested. -/
def Pattern.depth : Pattern → Nat
  | .single _ | .change _ => 0
  | .bracket _ inner => 1 + inner.depth
  | .repeated inner => 1 + inner.depth
  | .group _ _ inner => 1 + inner.depth
  | .alternatives branches => 1 + Pattern.depthAll branches
  | .sequence [] => 0
  | .sequence (part :: parts) => 1 + Pattern.depthAll (part :: parts)

/-- How deep the deepest of some patterns is nested. -/
def Pattern.depthAll : List Pattern → Nat
  | [] => 0
  | part :: parts => max part.depth (Pattern.depthAll parts)

end

mutual

/-- The names of a pattern's groups. -/
def Pattern.names : Pattern → List String
  | .single _ | .change _ | .bracket .. => []
  | .repeated inner => inner.names
  | .group name _ inner => name.toList ++ inner.names
  | .alternatives parts | .sequence parts => Pattern.namesAll parts

/-- The names of the groups of some patterns. -/
def Pattern.namesAll : List Pattern → List String
  | [] => []
  | part :: parts => part.names ++ Pattern.namesAll parts

end

/-! ## Soundness -/

/-- How a pattern is read: for characters or for bytes, and whether case counts. -/
structure Mode where
  bytes : Bool
  anyCase : Bool

/-- The mode in which a pattern begins. -/
def Mode.initial : Mode := ⟨false, false⟩

/-- The mode after switches. -/
def Mode.switch (mode : Mode) (switches : Switches) : Mode :=
  { bytes := ((Pattern.switchOf? 'u' switches).map (!·)).getD mode.bytes
    anyCase := (Pattern.switchOf? 'i' switches).getD mode.anyCase }

/-- Whether an atom can be used: bytes have to be plain characters, and beyond bytes the case of
characters is not known. -/
def Mode.allows (mode : Mode) : Atom → Bool
  | .character value byte =>
      if mode.bytes then !byte || value.toNat < 128 else !mode.anyCase
  | .any => !mode.bytes
  | .edge | .wordEdge => true
  | .shorthand negated => !(mode.bytes && negated)
  | .property => false

mutual

/-- Whether a set can be used.  Between brackets bytes are plain characters. -/
def Mode.allowsBracket (mode : Mode) : Bracket → Bool
  | .single (.character value _) => if mode.bytes then value.toNat < 128 else !mode.anyCase
  | .single (.shorthand negated) => if mode.bytes then !negated else !mode.anyCase
  | .single _ => false
  | .range first last =>
      if mode.bytes then first.toNat < 128 && last.toNat < 128 else !mode.anyCase
  | .named negated => if mode.bytes then !negated else !mode.anyCase
  | .union parts => mode.allowsAll parts
  | .operation left right => mode.allowsBracket left && mode.allowsBracket right
  | .nested negated inner => !(mode.bytes && negated) && mode.allowsBracket inner

/-- Whether all of some sets can be used. -/
def Mode.allowsAll (mode : Mode) : List Bracket → Bool
  | [] => true
  | part :: parts => mode.allowsBracket part && mode.allowsAll parts

end

/-- What comes of going through a pattern. -/
structure Passage where
  /-- The mode for what follows. -/
  mode : Mode
  /-- Whether edges of words of any characters have been met. -/
  wordEdge : Bool

mutual

/-- Go through a pattern, unless it cannot be used. -/
def Passage.through (passage : Passage) : Pattern → Option Passage
  | .single .wordEdge => some { passage with wordEdge := passage.wordEdge || !passage.mode.bytes }
  | .single atom => if passage.mode.allows atom then some passage else none
  | .change switches => some { passage with mode := passage.mode.switch switches }
  | .bracket negated inner =>
      if passage.mode.allowsBracket (.nested negated inner) then some passage else none
  | .repeated inner => passage.through inner
  | .group _ switches inner =>
      (Passage.through { passage with mode := passage.mode.switch switches } inner).map
        fun after => { after with mode := passage.mode }
  | .alternatives parts | .sequence parts => passage.throughAll parts

/-- Go through patterns in order. -/
def Passage.throughAll (passage : Passage) : List Pattern → Option Passage
  | [] => some passage
  | part :: parts => (passage.through part).bind fun after => after.throughAll parts

end

/-- Why a pattern cannot be used. -/
inductive PatternProblem where
  | malformed
  /-- It asks for the edges of words of any characters. -/
  | wordEdge
  deriving DecidableEq, Repr

/-- The wording of a pattern's problem. -/
def PatternProblem.message : PatternProblem → String
  | .malformed => "error building NFA"
  | .wordEdge =>
      "unsupported regex feature for DFAs: cannot build DFAs for regexes with Unicode word " ++
        "boundaries; switch to ASCII word boundaries, or heuristically enable Unicode word " ++
        "boundaries or use a different regex engine"

/-- The deepest nesting of a pattern. -/
def nestingLimit : Nat := 250

/-- What keeps the text of a pattern from being used. -/
def Pattern.problemOf? (text : List Char) : Option PatternProblem :=
  match Pattern.read? text with
  | none => some .malformed
  | some pattern =>
      if nestingLimit < pattern.depth || !decide pattern.names.Nodup then
        some .malformed
      else
        match Passage.through ⟨.initial, false⟩ pattern with
        | none => some .malformed
        | some passage => if passage.wordEdge then some .wordEdge else none

example : Pattern.problemOf? "a+|[^b-d]".toList = none := by decide +kernel

example : Pattern.problemOf? "*".toList = some .malformed := by decide +kernel

example : Pattern.problemOf? "\\bword".toList = some .wordEdge := by decide +kernel

end Log
end Telemetry
