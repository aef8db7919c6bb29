import Telemetry.Proofs.Histogram.Agreement

/-!
# Answers found in a table

An answer is found in a table when the statement of its request was evaluated over the stored rows.
Its windows then show what is observed of these rows, so whatever the windows are, a tally over all
of them is the number of rows that are in scope and have a chosen number at the path.
-/

namespace Telemetry

open Dialogue Histogram

namespace Store

variable {access : Access} {table : String} {stored : List Row} {query : Query}
  {exchanges : List (Exchange interface)} {windows : List Window}

/-- Windows that a query reads from a table: the statement that it sends is evaluated over the
stored rows. -/
structure Reads (access : Access) (table : String) (stored : List Row) (query : Query)
    (exchanges : List (Exchange interface)) (windows : List Window) : Prop where
  course : Course (Store.windows access table query) exchanges (.ok windows)
  evaluated : ∀ statement text rows, query.statement table = .ok statement →
    ⟨.select text, .ok rows⟩ ∈ exchanges → rows = evaluate statement stored

theorem Reads.filled (reads : Reads access table stored query exchanges windows) :
    query.fill (aggregate query.thresholds (stored.filterMap (observationOf? query))) =
      .ok windows := by
  obtain ⟨_, _, _, impossible⟩ |
    ⟨statement, built, ⟨_, _, _, impossible⟩ | ⟨text, reply, -, rfl, same⟩⟩ :=
      course_windows_cases reads.course
  · cases impossible
  · cases impossible
  · cases reply with
    | error fault => cases same
    | ok rows =>
        rw [← evaluate_eq built,
          ← reads.evaluated statement text rows built (List.mem_singleton_self _)]
        exact same.symm

theorem Reads.shows (reads : Reads access table stored query exchanges windows)
    (small : wordMillis query.firstOpening = query.firstOpening * 1000) :
    List.Forall₂ (query.Shows (stored.filterMap (observationOf? query))) query.axis windows := by
  obtain ⟨interval_pos, interval_lt⟩ := Query.usable_of_fill reads.filled
  have follow := ((Query.fill_eq_ok_iff interval_pos interval_lt small).mp reads.filled).1
  exact follow.imp fun opening window fills => Query.fills_aggregate_iff.mp fills

theorem Reads.bounds (reads : Reads access table stored query exchanges windows)
    (small : wordMillis query.firstOpening = query.firstOpening * 1000) :
    ∀ window ∈ windows,
      window.buckets.map Bucket.bound = query.thresholds ++ [Double.infinity] := by
  intro window member
  obtain ⟨opening, -, shows⟩ := exists_of_mem_right (reads.shows small) member
  rw [shows.content]
  exact Window.bounds_ofValues _ _ _ _

/-- Windows within the calendar are read, whatever is stored. -/
theorem exists_reads {statement : Statement} (built : query.statement table = .ok statement)
    (interval_lt : query.interval < 0x8000000000000000) (representable : query.Representable)
    (ready : Ready access table) (stored : List Row) :
    ∃ exchanges windows, Reads access table stored query exchanges windows := by
  obtain ⟨text, selected⟩ := ready.exists_selection built
  obtain ⟨windows, filled, -⟩ := exists_fill_evaluate built interval_lt representable stored
  have course := course_windows_of_reply built selected (.ok (evaluate statement stored))
  rw [windowsOf, filled] at course
  refine ⟨_, _, course, ?_⟩
  intro other further rows rebuilt member
  cases built.symm.trans rebuilt
  cases List.mem_singleton.mp member
  rfl

/-- Whether a row is in the scope of a query and has a chosen number at its path. -/
def picks (query : Query) (chosen : Double → Bool) (row : Row) : Bool :=
  decide (InScope query row) && (row.payload.numberAt? (FieldPath.split query.path)).any chosen

theorem countP_observations (query : Query) (chosen : Double → Bool) (stored : List Row) :
    ((stored.filterMap (observationOf? query)).countP fun observation =>
        chosen observation.value) =
      stored.countP (picks query chosen) := by
  induction stored with
  | nil => rfl
  | cons row rest ih =>
      rw [List.countP_cons, ← ih, List.filterMap_cons, picks, observationOf?]
      by_cases inside : InScope query row
      · cases row.payload.numberAt? (FieldPath.split query.path) with
        | none => simp [inside]
        | some value => simp [inside, List.countP_cons]
      · simp [inside]

end Store

namespace Inquiry

variable {access : Store.Access} {table : String} {stored : List Store.Row} {request : Request}
  {exchanges : List (Exchange interface)} {answer : Answer}

/-- An answer that an inquiry finds in a table: the statement that it sends is evaluated over the
stored rows. -/
structure Finds (access : Store.Access) (table : String) (stored : List Store.Row)
    (request : Request) (exchanges : List (Exchange interface)) (answer : Answer) : Prop where
  course : Course (Inquiry.answer access table request) exchanges (.ok answer)
  evaluated : ∀ query statement text rows, request.normalize = .ok query →
    query.statement table = .ok statement → ⟨.store (.select text), .ok rows⟩ ∈ exchanges →
    rows = Store.evaluate statement stored

theorem Finds.reads (finds : Finds access table stored request exchanges answer) :
    ∃ query devices selecting windows, request.normalize = .ok query ∧
      Store.Reads access table stored query selecting windows ∧
      answer = query.answer devices windows := by
  obtain ⟨_, _, _, impossible⟩ | ⟨query, counting, counted, accepted, -, ended⟩ :=
    course_answer_iff.mp finds.course
  · cases impossible
  obtain ⟨_, _, _, impossible⟩ | ⟨devices, selecting, windowed, -, course, rfl, made⟩ := ended
  · cases impossible
  cases windowed with
  | error failure => cases made
  | ok windows =>
      refine ⟨query, devices, selecting, windows, accepted, ⟨course, ?_⟩, Except.ok.inj made⟩
      intro statement text rows built member
      apply finds.evaluated query statement text rows accepted built
      exact List.mem_append_right _ (List.mem_map_of_mem member)

theorem exists_finds {query : Query} (accepted : request.normalize = .ok query)
    (closes : ∀ opening ∈ query.axis, opening + query.interval ≤ lastSecond)
    (ready : Store.Ready access table) (stored : List Store.Row) :
    ∃ exchanges answer, Finds access table stored request exchanges answer := by
  obtain ⟨counting, devices, counts⟩ := exists_counts query
  obtain ⟨statement, text, windows, built, -, -, course⟩ :=
    exists_answer accepted closes ready stored counts
  refine ⟨_, _, course, ?_⟩
  intro again other further rows same rebuilt member
  cases accepted.symm.trans same
  cases built.symm.trans rebuilt
  obtain member | member := List.mem_append.mp member
  · exact absurd member counts.store_not_mem
  · cases List.mem_singleton.mp member
    rfl

/-- A tally of an answer is how many rows are picked. -/
theorem Finds.exists_tally (finds : Finds access table stored request exchanges answer) :
    ∃ query, request.normalize = .ok query ∧
      answer.summary.total = (answer.windows.map Window.count).sum % totalLimit ∧
      ∀ shown chosen, Window.Tallies (distinctThresholds request.thresholds) shown chosen →
        (answer.windows.map shown).sum = stored.countP (Store.picks query chosen) := by
  obtain ⟨query, devices, selecting, windows, accepted, reads, rfl⟩ := finds.reads
  have interval_pos := Request.interval_pos accepted
  refine ⟨query, accepted, rfl, fun shown chosen tallies => ?_⟩
  rw [← Store.countP_observations]
  apply sum_map_of_shows interval_pos
  · rwa [(Request.eq_of_normalize accepted).1]
  · exact Store.mem_axis_of_observed interval_pos stored
  · exact reads.shows (Request.wordMillis_firstOpening accepted)

end Inquiry
end Telemetry
