import Mathlib.Algebra.BigOperators.Group.List.Basic
import Telemetry.Proofs.Histogram.Reference

/-!
# Accounting for rows

Every row that filling takes is counted in one window, and a row that belongs to no window is an
error.  A row that a later one with the same start replaces is neither: it is gone before the walk
begins, so the windows count all rows exactly when the replaced ones count nothing.
-/

namespace Telemetry
namespace Histogram
namespace Query

/-- What rows count together. -/
def totalOf (rows : List Row) : Nat :=
  (rows.map Row.total).sum

/-- What ordered rows count together. -/
def remaining (ordered : List (Int × Row)) : Nat :=
  totalOf (ordered.map Prod.snd)

variable {query : Query} {opening : Int} {rows : List Row} {ordered left : List (Int × Row)}
  {windows : List Window} {window : Window}

theorem totalOf_perm {others : List Row} (perm : rows.Perm others) : totalOf rows = totalOf others :=
  (perm.map Row.total).sum_eq

theorem count_of_toWindow {row : Row} {start stop : Instant} {thresholds : List Double}
    (made : row.toWindow start stop thresholds = .ok window) : window.count = row.total := by
  rw [Row.toWindow] at made
  split at made <;> cases made
  rfl

/-- The window at an opening counts what its row counts, and the other rows remain. -/
theorem count_add_remaining {start stop : Instant} (sorted : Keyed.ascending ordered = true)
    (made : query.windowAt ordered opening start stop = .ok window) :
    window.count + remaining (Keyed.erase opening ordered) = remaining ordered := by
  cases found : Keyed.find? opening ordered with
  | none =>
      simp only [windowAt, found] at made
      cases made
      rw [Keyed.erase_of_not_mem (Keyed.find?_eq_none_iff.mp found)]
      exact Nat.zero_add _
  | some row =>
      simp only [windowAt, found] at made
      have taken := (Keyed.perm_cons_erase sorted found).map Prod.snd
      rw [count_of_toWindow made, remaining, remaining, totalOf_perm taken]
      rfl

theorem ascending_erase (sorted : Keyed.ascending ordered = true) :
    Keyed.ascending (Keyed.erase opening ordered) = true := by
  rw [Keyed.ascending_iff_pairwise] at sorted ⊢
  exact sorted.sublist (List.filter_sublist.map Prod.fst)

/-- The windows that are made and the rows that are left count all rows. -/
theorem counts_add_remaining (interval_pos : 0 < query.interval)
    (sorted : Keyed.ascending ordered = true)
    (walked : query.fillFrom interval_pos opening ordered = .ok (windows, left)) :
    (windows.map Window.count).sum + remaining left = remaining ordered := by
  induction opening, ordered using fillFrom.induct query interval_pos generalizing windows left with
  | case1 opening ordered before ih =>
      rw [fillFrom_of_lt interval_pos before] at walked
      obtain ⟨start, -, walked⟩ := bind_eq_ok_iff.mp walked
      obtain ⟨stop, -, walked⟩ := bind_eq_ok_iff.mp walked
      obtain ⟨window, made, walked⟩ := bind_eq_ok_iff.mp walked
      obtain ⟨⟨later, rest⟩, further, same⟩ := bind_eq_ok_iff.mp walked
      cases same
      have counted := ih (ascending_erase sorted) further
      rw [List.map_cons, List.sum_cons, Nat.add_assoc, counted, count_add_remaining sorted made]
  | case2 opening ordered done =>
      rw [fillFrom_of_le interval_pos (by omega)] at walked
      cases walked
      exact Nat.zero_add _

theorem walk_of_fill (filled : query.fill rows = .ok windows) :
    ∃ interval_pos,
      query.fillFrom interval_pos query.firstOpening (byStart rows) = .ok (windows, []) ∨
        windows = [] ∧ byStart rows = [] := by
  have usable := usable_of_fill filled
  refine ⟨usable.1, ?_⟩
  rw [fill, dif_pos usable] at filled
  dsimp only at filled
  split at filled
  · obtain ⟨⟨made, left⟩, walked, result⟩ := bind_eq_ok_iff.mp filled
    split at result
    · rename_i none
      cases result
      obtain rfl := List.isEmpty_iff.mp none
      exact .inl walked
    · cases result
  · obtain ⟨_, ⟨⟩, result⟩ := bind_eq_ok_iff.mp filled
    split at result
    · rename_i none
      cases result
      exact .inr ⟨rfl, List.isEmpty_iff.mp none⟩
    · cases result

theorem remaining_byStart (rows : List Row) :
    remaining (byStart rows) = totalOf (Keyed.lasting Row.start rows) := by
  rw [remaining, totalOf_perm ((byStart_perm rows).map Prod.snd), List.map_map]
  exact congrArg totalOf (List.map_id _)

theorem totalOf_eq_zero_iff : totalOf rows = 0 ↔ ∀ row ∈ rows, row.total = 0 := by
  rw [totalOf, List.sum_eq_zero_iff_forall_eq_nat, List.forall_mem_map]

theorem totalOf_lasting_add_replaced (rows : List Row) :
    totalOf (Keyed.lasting Row.start rows) + totalOf (Keyed.replaced Row.start rows) =
      totalOf rows := by
  rw [← totalOf_perm (Keyed.replaced_append_lasting_perm Row.start rows), totalOf, totalOf,
    totalOf, List.map_append, List.sum_append, Nat.add_comm]

theorem counts_of_fill (filled : query.fill rows = .ok windows) :
    (windows.map Window.count).sum = totalOf (Keyed.lasting Row.start rows) := by
  rw [← remaining_byStart]
  obtain ⟨interval_pos, walked | ⟨rfl, none⟩⟩ := walk_of_fill filled
  · exact counts_add_remaining interval_pos (ascending_byStart rows) walked
  · rw [none]
    rfl

theorem opens_of_fill (filled : query.fill rows = .ok windows) {row : Row} (member : row ∈ rows) :
    query.Opens row.start := by
  obtain ⟨interval_pos, walked | ⟨-, none⟩⟩ := walk_of_fill filled
  · have none := ((fillFrom_eq_ok_iff interval_pos fun _ _ => rfl).mp walked).2.symm
    exact (opens_iff_mem_axis interval_pos).mpr (filter_byStart_eq_nil_iff.mp none row member)
  · have present := mem_keys_byStart.mpr ⟨row, member, rfl⟩
    rw [none] at present
    cases present

/-- Leaving out the replaced rows changes nothing. -/
theorem fill_lasting (query : Query) (rows : List Row) :
    query.fill (Keyed.lasting Row.start rows) = query.fill rows :=
  fill_eq_of_perm (.of_eq (Keyed.lasting_of_nodup Keyed.nodup_keys_lasting))

/-- The windows count all rows exactly when the replaced ones count nothing. -/
theorem counts_all_rows_iff (filled : query.fill rows = .ok windows) :
    (∀ row ∈ rows, query.Opens row.start) ∧
      (windows.map Window.count).sum + totalOf (Keyed.replaced Row.start rows) = totalOf rows ∧
      ((windows.map Window.count).sum = totalOf rows ↔
        ∀ row ∈ Keyed.replaced Row.start rows, row.total = 0) ∧
      (Keyed.replaced Row.start rows = [] ↔ (rows.map Row.start).Nodup) ∧
      query.fill (Keyed.lasting Row.start rows) = .ok windows := by
  have counted := counts_of_fill filled
  have parts := totalOf_lasting_add_replaced rows
  refine ⟨fun row => opens_of_fill filled, counted ▸ parts, ?_, Keyed.replaced_eq_nil_iff,
    (fill_lasting query rows).trans filled⟩
  rw [← totalOf_eq_zero_iff, counted]
  omega

section Example

/-- A query about nine minutes after the epoch. -/
def nineMinutes : Query :=
  ⟨"org-1", [], ⟨2, 0, by decide⟩, ⟨540, 0, by decide⟩, "temp", [], 300⟩

def pairRow (start : Int) : Row :=
  ⟨start, 2, ⟨0x4000000000000000⟩, []⟩

def tripleRow (start : Int) : Row :=
  ⟨start, 3, ⟨0x4008000000000000⟩, []⟩

theorem axis_nineMinutes : nineMinutes.axis = [0, 300] := by decide

theorem fill_nineMinutes (rows : List Row) {first second : Window}
    (opens : ∀ row ∈ rows, row.start ∈ nineMinutes.axis)
    (early : nineMinutes.Fills (byStart rows) 0 first)
    (late : nineMinutes.Fills (byStart rows) 300 second) :
    nineMinutes.fill rows = .ok [first, second] := by
  refine (fill_eq_ok_iff (by decide) (by decide) (by decide)).mpr ⟨?_, opens⟩
  rw [axis_nineMinutes]
  exact .cons early (.cons late .nil)

/-- The row of each window is counted. -/
theorem distinct_rows_counted :
    ∃ windows, nineMinutes.fill [tripleRow 300, pairRow 0] = .ok windows ∧
      (windows.map Window.count).sum = totalOf [tripleRow 300, pairRow 0] := by
  have filled := fill_nineMinutes [tripleRow 300, pairRow 0] (by decide)
    ⟨_, _, rfl, rfl, rfl⟩ ⟨_, _, rfl, rfl, rfl⟩
  obtain ⟨-, -, counted, distinct, -⟩ := counts_all_rows_iff filled
  refine ⟨_, filled, counted.mpr ?_⟩
  rw [distinct.mpr (by decide)]
  exact nofun

/-- Of two rows of the first window only the later one is counted. -/
theorem replaced_row_not_counted :
    ∃ windows, nineMinutes.fill [pairRow 0, tripleRow 0] = .ok windows ∧
      (windows.map Window.count).sum = 3 ∧ totalOf [pairRow 0, tripleRow 0] = 5 := by
  have filled := fill_nineMinutes [pairRow 0, tripleRow 0] (by decide)
    ⟨_, _, rfl, rfl, rfl⟩ ⟨_, _, rfl, rfl, rfl⟩
  exact ⟨_, filled, rfl, rfl⟩

end Example

end Query
end Histogram
end Telemetry
