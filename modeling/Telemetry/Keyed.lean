/-!
# Lists ordered by key

A finite map is a list of entries in strictly ascending key order, so equal maps are equal lists.
`Keyed.insert` keeps the order and lets a later entry replace an earlier one of the same key.
-/

namespace Telemetry
namespace Keyed

variable {κ α β : Type} [LT κ] [DecidableLT κ] [DecidableEq κ]

/-- Put a value under a key, replacing the one that stands there. -/
def insert (key : κ) (value : α) : List (κ × α) → List (κ × α)
  | [] => [(key, value)]
  | (other, present) :: rest =>
      if key < other then
        (key, value) :: (other, present) :: rest
      else if key = other then
        (key, value) :: rest
      else
        (other, present) :: insert key value rest

/-- The ordered entries of a list, the last one of each key. -/
def ofEntries (entries : List (κ × α)) : List (κ × α) :=
  entries.foldl (fun ordered entry => insert entry.1 entry.2 ordered) []

/-- The value under a key. -/
def find? (key : κ) : List (κ × α) → Option α
  | [] => none
  | (other, present) :: rest => if key = other then some present else find? key rest

/-- The entries without those of a key. -/
def erase (key : κ) (entries : List (κ × α)) : List (κ × α) :=
  entries.filter fun entry => entry.1 ≠ key

/-- Whether a key stands before every entry of an ordered list. -/
def precedes (key : κ) : List (κ × α) → Bool
  | [] => true
  | (other, _) :: _ => key < other

/-- Whether each key is below the next one. -/
def ascending : List (κ × α) → Bool
  | [] => true
  | (key, _) :: rest => precedes key rest && ascending rest

omit [DecidableEq κ] in
@[simp]
theorem ascending_nil : ascending ([] : List (κ × α)) = true := rfl

omit [DecidableEq κ] in
@[simp]
theorem ascending_cons (key : κ) (value : α) (rest : List (κ × α)) :
    ascending ((key, value) :: rest) = (precedes key rest && ascending rest) := rfl

theorem precedes_insert {before key : κ} {value : α} {entries : List (κ × α)}
    (below : before < key) (first : precedes before entries = true) :
    precedes before (insert key value entries) = true := by
  cases entries with
  | nil => simpa [insert, precedes] using below
  | cons entry rest =>
      simp only [insert]
      split
      · simpa [precedes] using below
      · split
        · simpa [precedes] using below
        · simpa [precedes] using first

theorem ascending_insert [Std.Trichotomous (α := κ) (· < ·)] (key : κ) (value : α)
    {entries : List (κ × α)} (ordered : ascending entries = true) :
    ascending (insert key value entries) = true := by
  induction entries with
  | nil => rfl
  | cons entry rest ih =>
      obtain ⟨other, present⟩ := entry
      simp only [ascending_cons, Bool.and_eq_true] at ordered
      simp only [insert]
      split
      · rename_i below
        have first : precedes key ((other, present) :: rest) = true := by
          simpa [precedes] using below
        simp [first, ordered.1, ordered.2]
      · split
        · rename_i same
          subst same
          simp [ordered.1, ordered.2]
        · rename_i notBelow different
          have above : other < key := by
            rcases Std.lt_trichotomy key other with below | same | above
            · exact absurd below notBelow
            · exact absurd same different
            · exact above
          simp [precedes_insert above ordered.1, ih ordered.2]

theorem ascending_foldl_insert [Std.Trichotomous (α := κ) (· < ·)] (entries : List (κ × α))
    {ordered : List (κ × α)} (start : ascending ordered = true) :
    ascending (entries.foldl (fun sofar entry => insert entry.1 entry.2 sofar) ordered) = true := by
  induction entries generalizing ordered with
  | nil => exact start
  | cons entry rest ih => exact ih (ascending_insert entry.1 entry.2 start)

theorem ascending_ofEntries [Std.Trichotomous (α := κ) (· < ·)] (entries : List (κ × α)) :
    ascending (ofEntries entries) = true :=
  ascending_foldl_insert entries rfl

theorem mem_insert {key : κ} {value : α} {entries : List (κ × α)} {entry : κ × α}
    (member : entry ∈ insert key value entries) : entry = (key, value) ∨ entry ∈ entries := by
  induction entries with
  | nil => simpa [insert] using member
  | cons head rest ih =>
      obtain ⟨other, present⟩ := head
      simp only [insert] at member
      split at member
      · simpa using member
      · split at member
        · rcases List.mem_cons.mp member with same | inside
          · exact .inl same
          · exact .inr (List.mem_cons_of_mem _ inside)
        · rcases List.mem_cons.mp member with same | inside
          · exact .inr (same ▸ List.mem_cons_self)
          · rcases ih inside with same | further
            · exact .inl same
            · exact .inr (List.mem_cons_of_mem _ further)

theorem mem_foldl_insert {entries ordered : List (κ × α)} {entry : κ × α}
    (member : entry ∈ entries.foldl (fun sofar next => insert next.1 next.2 sofar) ordered) :
    entry ∈ entries ∨ entry ∈ ordered := by
  induction entries generalizing ordered with
  | nil => exact .inr member
  | cons head rest ih =>
      rcases ih member with inside | before
      · exact .inl (List.mem_cons_of_mem _ inside)
      · rcases mem_insert before with same | earlier
        · exact .inl (same ▸ List.mem_cons_self)
        · exact .inr earlier

theorem mem_of_mem_ofEntries {entries : List (κ × α)} {entry : κ × α}
    (member : entry ∈ ofEntries entries) : entry ∈ entries := by
  rcases mem_foldl_insert member with inside | impossible
  · exact inside
  · simp at impossible

end Keyed
end Telemetry
