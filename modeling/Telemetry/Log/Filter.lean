import Telemetry.Log.Directive

/-!
# Filters

A filter is a list of directives with commas between them.  Of the directives that apply to a line
the most specific decides whether it is let through.
-/

namespace Telemetry
namespace Log

/-- The texts between commas that are not empty. -/
def directiveTexts (text : String) : List (List Char) :=
  (text.toList.splitOn ',').filter (!·.isEmpty)

/-- The directives of a filter. -/
structure Filter where
  directives : List Directive
  deriving DecidableEq, Repr

namespace Filter

/-- The directive of a filter that names none: only errors are let through. -/
def fallback : Directive :=
  { target := none, span := none, field := none, limit := Level.error.rank }

/-- The filter of directives. -/
def ofDirectives (directives : List Directive) : Filter :=
  if directives.isEmpty then ⟨[fallback]⟩ else ⟨directives⟩

/-- The filter of a text every part of which is a directive. -/
def ofText? (text : String) : Option Filter :=
  ((directiveTexts text).mapM fun part => (Directive.read part).toOption).map ofDirectives

/-- The part of a text that is no directive, and why. -/
def problemOf? (part : List Char) : Option (String × DirectiveProblem) :=
  match Directive.read part with
  | .error problem => some (String.ofList part, problem)
  | .ok _ => none

/-- The filter of those parts of a text that are directives, and the other parts. -/
def ofTextLossy (text : String) : Filter × List (String × DirectiveProblem) :=
  (ofDirectives ((directiveTexts text).filterMap fun part => (Directive.read part).toOption),
    (directiveTexts text).filterMap problemOf?)

/-- Of two directives the more specific one, and of equally specific ones the later one. -/
def moreSpecific (earlier : Option Directive) (later : Directive) : Option Directive :=
  match earlier with
  | none => some later
  | some earlier => if later.isAsSpecific earlier then some later else some earlier

/-- The highest rank that a line may have. -/
def limit (filter : Filter) (line : Line) : Nat :=
  match (filter.directives.filter (Directive.applies line)).foldl moreSpecific none with
  | some directive => directive.limit
  | none => 0

/-- Whether a line is let through. -/
def admits (filter : Filter) (line : Line) : Bool :=
  line.level.rank ≤ filter.limit line

end Filter
end Log
end Telemetry
