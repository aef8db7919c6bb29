import Telemetry.Proofs.Histogram.Statement
import Telemetry.Proofs.Sending

/-!
# Binding a statement

In the text of a statement every question mark is one of its placeholders, as long as the name of
the table has none, and no placeholder can be taken for a doubled mark or for the columns.  So
binding puts each literal in the place of its own placeholder.
-/

namespace Telemetry
namespace Store

open Histogram

/-- Whether a text after a placeholder leaves it one. -/
def Detached (text : List Char) : Prop :=
  text.head?.all (fun character => character != '?' && character != 'f') = true

instance (text : List Char) : Decidable (Detached text) :=
  inferInstanceAs (Decidable (_ = true))

theorem Detached.append {first second : List Char} (left : Detached first)
    (right : first = [] → Detached second) : Detached (first ++ second) := by
  cases first with
  | nil => exact right rfl
  | cons character rest => exact left

theorem pieces_mark {rest : List Char} (detached : Detached rest) :
    pieces ('?' :: rest) = .value :: pieces rest := by
  cases rest with
  | nil => simp [pieces, List.isPrefixOf]
  | cons next rest =>
      have apart : next ≠ '?' ∧ next ≠ 'f' := by simpa [Detached] using detached
      obtain ⟨noMark, noColumns⟩ := apart
      rw [pieces, if_neg]
      · simpa [List.isPrefixOf] using fun same => absurd same.symm noColumns
      · rintro rest same
        cases same
        exact noMark rfl

def sqlOf (fragments : List Fragment) : List Char :=
  fragments.flatMap fun fragment => fragment.sql.toList

@[simp]
theorem sqlOf_text (content : String) (rest : List Fragment) :
    sqlOf (.text content :: rest) = content.toList ++ sqlOf rest := rfl

@[simp]
theorem sqlOf_placeholder (role : Role) (rest : List Fragment) :
    sqlOf (.placeholder role :: rest) = '?' :: sqlOf rest := by
  simp [sqlOf, Fragment.sql]

theorem toList_sql (shape : Shape) : shape.sql.toList = sqlOf shape.fragments := by
  rw [Shape.sql, String.toList_join, List.flatMap_map, sqlOf]

/-- Whether all question marks of fragments are their placeholders. -/
def Tidy : List Fragment → Prop
  | [] => True
  | .text content :: rest => '?' ∉ content.toList ∧ Tidy rest
  | .placeholder _ :: rest => Detached (sqlOf rest) ∧ Tidy rest

/-- The text of fragments with literals in the places of their placeholders. -/
def render : List Fragment → List String → List Char
  | [], _ => []
  | .text content :: rest, literals => content.toList ++ render rest literals
  | .placeholder _ :: rest, literals => (literals.headD "").toList ++ render rest literals.tail

/-- Binding puts each literal in the place of its own placeholder. -/
theorem substitute_eq_render (columns : String) {fragments : List Fragment} (tidy : Tidy fragments)
    {literals : List String}
    (matched : (fragments.filterMap Fragment.role?).length = literals.length) :
    substitute columns (pieces (sqlOf fragments)) literals = .ok (render fragments literals) := by
  induction fragments generalizing literals with
  | nil =>
      rw [List.length_eq_zero_iff.mp matched.symm]
      simp [sqlOf, pieces, substitute, render]
  | cons fragment rest ih =>
      cases fragment with
      | text content =>
          rw [sqlOf_text, pieces_append_of_plain tidy.1, substitute_append, ih tidy.2 matched]
          rfl
      | placeholder role =>
          rw [sqlOf_placeholder, pieces_mark tidy.1]
          cases literals with
          | nil => cases matched
          | cons literal literals =>
              rw [substitute, ih tidy.2 (Nat.succ.inj matched)]
              rfl

theorem sqlOf_append (first second : List Fragment) :
    sqlOf (first ++ second) = sqlOf first ++ sqlOf second :=
  List.flatMap_append

theorem Tidy.append {first second : List Fragment} (left : Tidy first) (right : Tidy second)
    (detached : Detached (sqlOf second)) : Tidy (first ++ second) := by
  induction first with
  | nil => exact right
  | cons fragment rest ih =>
      cases fragment with
      | text content => exact ⟨left.1, ih left.2⟩
      | placeholder role =>
          have apart : Detached (sqlOf (rest ++ second)) := by
            rw [sqlOf_append]
            exact left.1.append fun _ => detached
          exact ⟨apart, ih left.2⟩

theorem tidy_separated (separator : String) (plain : '?' ∉ separator.toList)
    (inhabited : separator.toList ≠ []) (detached : Detached separator.toList) (roles : List Role) :
    Tidy (separated separator (roles.map .placeholder)) := by
  induction roles with
  | nil => trivial
  | cons role rest ih =>
      cases rest with
      | nil => exact ⟨rfl, trivial⟩
      | cons next rest =>
          exact ⟨detached.append fun none => absurd none inhabited, plain, ih⟩

theorem digits_plain (number : Nat) : '?' ∉ (toString number).toList := by
  intro member
  rw [Nat.toString_eq_ofList_toDigits, String.toList_ofList] at member
  exact absurd (Nat.isDigit_of_mem_toDigits (by decide) (by decide) member) (by decide)

theorem tidy_fragments (shape : Shape) (plain : '?' ∉ shape.table.toList) :
    Tidy shape.fragments := by
  have next {content : String} (inhabited : content.toList ≠ [])
      (detached : Detached content.toList) (rest : List Fragment) :
      Detached (sqlOf (.text content :: rest)) :=
    detached.append fun none => absurd none inhabited
  have counts : Tidy shape.countFragments := by
    rw [Shape.countFragments]
    split
    · exact ⟨by decide +kernel, trivial⟩
    · have listed := tidy_separated "), countIf(value <= " (by decide +kernel)
        (by decide +kernel) (by decide +kernel) (numbered shape.thresholds .threshold)
      rw [numbered, List.map_map] at listed
      have closing : Tidy [.text ")]"] := ⟨by decide +kernel, trivial⟩
      have apart : Detached (sqlOf [.text ")]"]) := next (by decide +kernel) (by decide +kernel) []
      exact ⟨by decide +kernel, listed.append closing apart⟩
  have paths (role : Nat → Role) : Tidy (shape.pathFragments role) := by
    have listed := tidy_separated ", " (by decide +kernel) (by decide +kernel)
      (by decide +kernel) (numbered shape.segments role)
    rw [numbered, List.map_map] at listed
    exact listed
  have devices : Tidy (if shape.filtersDevices then
      [.text " AND has(", .placeholder .devices, .text ", end_device_id)"]
    else
      []) := by
    split
    · exact ⟨by decide +kernel, next (by decide +kernel) (by decide +kernel) _, by decide +kernel,
        trivial⟩
    · trivial
  rw [Shape.fragments]
  simp only [List.append_assoc, List.cons_append, List.nil_append]
  refine ⟨?interval, counts.append ⟨?_, (paths _).append ⟨?_, plain, ?_, next ?_ ?_ _, ?_,
    next ?_ ?_ _, ?_, next ?_ ?_ _, ?_, devices.append ⟨?_, (paths _).append ⟨?_, trivial⟩
      (next ?_ ?_ _)⟩ (next ?_ ?_ _)⟩ (next ?_ ?_ _)⟩ (next ?_ ?_ _)⟩
  case interval =>
    simp only [String.toList_append, List.mem_append, digits_plain, or_false]
    decide +kernel
  all_goals decide +kernel

/-- The text of a statement is bound whatever the values are. -/
theorem bind_statement {query : Query} {table : String} {statement : Statement}
    (plain : '?' ∉ table.toList) (built : query.statement table = .ok statement)
    (columns : String) :
    bind statement.shape.sql columns statement.parameters =
      .ok (.ofList (render statement.shape.fragments (statement.parameters.map literal))) := by
  have named : '?' ∉ statement.shape.table.toList := by
    rw [shape_eq built]
    exact plain
  have matched : (statement.shape.fragments.filterMap Fragment.role?).length =
      (statement.parameters.map literal).length := by
    rw [List.length_map]
    exact length_roles_eq built
  rw [bind, toList_sql, substitute_eq_render columns (tidy_fragments _ named) matched]
  rfl

/-- A store that any statement about a table can be sent to. -/
structure Ready (access : Access) (table : String) : Prop where
  plain : '?' ∉ table.toList
  described : ∃ description, describe access table = .ok description
  sendable : ∀ text, access.check (.of text) = .ok ()

theorem Ready.exists_selection {access : Access} {query : Query} {table : String}
    {statement : Statement} (ready : Ready access table)
    (built : query.statement table = .ok statement) :
    ∃ text, selection access statement = .ok text := by
  refine ⟨.ofList (render statement.shape.fragments (statement.parameters.map literal)), ?_⟩
  rw [selection, bind_statement ready.plain built]
  simp only [Bind.bind, Except.bind, ready.sendable]

theorem ready_localAccess : Ready localAccess "t" where
  plain := by decide +kernel
  described := ⟨_, describe_localAccess⟩
  sendable := check_localAccess

end Store
end Telemetry
