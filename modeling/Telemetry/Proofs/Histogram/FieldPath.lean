import Telemetry.Proofs.Admission
import Telemetry.Proofs.Histogram.Request

/-!
# Paths and their names

Cutting a path at its dots and joining names with dots undo each other, as long as no name has a dot
itself.  So a path has names in at most one way, the reader of paths finds them whenever there are
any, and a request is refused for its path exactly when there are none.
-/

namespace Telemetry
namespace Histogram

namespace FieldPath

/-- Whether names spell a path: none is empty or has a dot, and joined by dots they are the path. -/
structure Spells (names : List String) (path : String) : Prop where
  inhabited : names ≠ []
  whole : ∀ name ∈ names, name ≠ "" ∧ '.' ∉ name.toList
  joined : ".".intercalate names = path

variable {path : String} {names : List String}

theorem not_mem_of_mem_splitOn {separator : Char} {text part : List Char}
    (member : part ∈ text.splitOn separator) : separator ∉ part := by
  induction text generalizing part with
  | nil =>
      rw [List.splitOn_nil, List.mem_singleton] at member
      rw [member]
      exact List.not_mem_nil
  | cons character rest ih =>
      rw [List.splitOn_cons_eq_if_modifyHead] at member
      split at member
      · obtain rfl | member := List.mem_cons.mp member
        · exact List.not_mem_nil
        · exact ih member
      · rename_i other
        obtain ⟨first, others, cut⟩ := List.exists_cons_of_ne_nil (List.splitOn_ne_nil separator rest)
        rw [cut] at member ih
        obtain rfl | member := List.mem_cons.mp member
        · refine List.not_mem_cons_of_ne_of_not_mem ?_ (ih List.mem_cons_self)
          rintro rfl
          exact other (beq_self_eq_true _)
        · exact ih (List.mem_cons_of_mem first member)

theorem split_ne_nil (path : String) : split path ≠ [] := by
  rw [split, ne_eq, List.map_eq_nil_iff]
  exact List.splitOn_ne_nil _ _

theorem not_mem_of_mem_split {name : String} (member : name ∈ split path) :
    '.' ∉ name.toList := by
  obtain ⟨part, inside, rfl⟩ := List.mem_map.mp member
  rw [String.toList_ofList]
  exact not_mem_of_mem_splitOn inside

/-- Joined again, the segments of a path are the path. -/
theorem intercalate_split (path : String) : ".".intercalate (split path) = path := by
  have back : String.toList ∘ String.ofList = id := funext fun _ => String.toList_ofList
  apply String.toList_injective
  rw [String.toList_intercalate, split, List.map_map, back, List.map_id]
  exact List.intercalate_splitOn '.'

/-- Cut again, names joined with dots are the names. -/
theorem split_intercalate (inhabited : names ≠ []) (whole : ∀ name ∈ names, '.' ∉ name.toList) :
    split (".".intercalate names) = names := by
  have back : String.ofList ∘ String.toList = id := funext fun _ => String.ofList_toList
  have plain : ∀ part ∈ names.map String.toList, '.' ∉ part := by
    simpa only [List.forall_mem_map] using whole
  have cut := List.splitOn_intercalate '.' plain (List.map_eq_nil_iff.not.mpr inhabited)
  rw [split, String.toList_intercalate]
  exact (congrArg (List.map String.ofList) cut).trans (by rw [List.map_map, back, List.map_id])

/-- The only names that can spell a path are its segments. -/
theorem Spells.eq_split (spells : Spells names path) : names = split path := by
  rw [← spells.joined]
  exact (split_intercalate spells.inhabited fun name member => (spells.whole name member).2).symm

theorem spells_split_iff : Spells (split path) path ↔ hasEmptySegment path = false := by
  rw [hasEmptySegment, List.any_eq_false]
  constructor
  · intro spells name member empty
    exact (spells.whole name member).1 (beq_iff_eq.mp empty)
  · intro whole
    refine ⟨split_ne_nil path, fun name member => ⟨fun empty => ?_, not_mem_of_mem_split member⟩,
      intercalate_split path⟩
    exact whole name member (beq_iff_eq.mpr empty)

theorem exists_spells_iff : (∃ names, Spells names path) ↔ hasEmptySegment path = false := by
  rw [← spells_split_iff]
  constructor
  · rintro ⟨names, spells⟩
    rwa [spells.eq_split] at spells
  · intro spells
    exact ⟨split path, spells⟩

theorem segments_eq (path : String) :
    segments path =
      if hasEmptySegment path then .error (.rejected (.unusablePath path)) else .ok (split path) := by
  rw [segments, Request.hasEmptySegment_eq]

theorem segments_eq_ok_iff : segments path = .ok names ↔ Spells names path := by
  rw [segments_eq]
  split
  next empty =>
    constructor
    · intro impossible
      cases impossible
    · intro spells
      cases empty.symm.trans (exists_spells_iff.mp ⟨names, spells⟩)
  next whole =>
    have spells := spells_split_iff.mpr (Bool.eq_false_iff.mpr whole)
    constructor
    · rintro ⟨⟩
      exact spells
    · intro others
      rw [others.eq_split]

theorem ne_empty_of_whole (whole : hasEmptySegment path = false) : path ≠ "" := by
  rintro rfl
  obtain ⟨names, spells⟩ := exists_spells_iff.mpr whole
  have same : names = [""] := spells.eq_split
  exact (spells.whole "" (same ▸ List.mem_singleton_self _)).1 rfl

end FieldPath

namespace Request

variable {request : Request}

theorem faults_eq_nil_iff :
    request.faults = [] ↔
      request.path ≠ "" ∧ request.organization ≠ "" ∧
        request.thresholds.all Double.isFinite = true := by
  rw [faults, List.append_eq_nil_iff, List.append_eq_nil_iff, and_assoc]
  simp only [ite_eq_right_iff, ite_eq_left_iff, List.cons_ne_nil, imp_false, not_not]

/-- With another path a request is accepted exactly when this has no empty segment. -/
theorem accepted_with_path_iff (accepted : ∃ query, request.normalize = .ok query)
    (path : String) :
    (∃ query, { request with path }.normalize = .ok query) ↔
      FieldPath.hasEmptySegment path = false := by
  obtain ⟨query, accepted⟩ := accepted
  obtain ⟨valid, forwards, -, few, -⟩ := normalize_eq_ok_iff.mp accepted
  rw [validate, requireSound_eq_ok_iff, faults_eq_nil_iff] at valid
  constructor
  · rintro ⟨_, taken⟩
    exact (normalize_eq_ok_iff.mp taken).2.2.1
  · intro whole
    refine ⟨_, normalize_eq_ok_iff.mpr ⟨?_, forwards, whole, few, rfl⟩⟩
    rw [validate, requireSound_eq_ok_iff, faults_eq_nil_iff]
    exact ⟨FieldPath.ne_empty_of_whole whole, valid.2⟩

end Request

namespace FieldPath

/-- The names that are read from a path are those that spell it. -/
theorem path_read_iff_spelled (path : String) :
    (∀ names, segments path = .ok names ↔ Spells names path) ∧
    (∀ names others, Spells names path → Spells others path → names = others) ∧
    (∀ failure, segments path = .error failure ↔
      (¬∃ names, Spells names path) ∧ failure = .rejected (.unusablePath path)) ∧
    ∀ request : Request, (∃ query, request.normalize = .ok query) →
      ((∃ query, { request with path }.normalize = .ok query) ↔
        ∃ names, segments path = .ok names) := by
  refine ⟨fun names => segments_eq_ok_iff, ?_, fun failure => ?_, fun request accepted => ?_⟩
  · intro names others spells same
    rw [spells.eq_split, same.eq_split]
  · rw [exists_spells_iff, segments_eq]
    split
    next empty => simp [empty, eq_comm]
    next whole => simp [whole]
  · simp only [segments_eq_ok_iff]
    rw [Request.accepted_with_path_iff accepted, exists_spells_iff]

section Example

def hourRequest (path : String) : Request :=
  ⟨"org-1", [], ⟨7200, 0, by decide⟩, ⟨10800, 0, by decide⟩, path, []⟩

theorem exists_normalize_hourRequest : ∃ query, (hourRequest "temp").normalize = .ok query := by
  have valid : (hourRequest "temp").validate = .ok () :=
    requireSound_eq_ok_iff.mpr (Request.faults_eq_nil_iff.mpr ⟨by decide, by decide, rfl⟩)
  exact ⟨_, Request.normalize_eq_ok_iff.mpr
    ⟨valid, by decide, by decide +kernel, by decide, rfl⟩⟩

/-- One dot separates two names; two dots side by side separate none. -/
theorem sensor_path_read :
    segments "sensors.temp" = .ok ["sensors", "temp"] ∧
    (∃ query, (hourRequest "sensors.temp").normalize = .ok query) ∧
    segments "sensors..temp" = .error (.rejected (.unusablePath "sensors..temp")) := by
  have spells : Spells ["sensors", "temp"] "sensors.temp" := ⟨by decide, by decide, rfl⟩
  obtain ⟨reads, -, -, accepts⟩ := path_read_iff_spelled "sensors.temp"
  obtain ⟨-, -, refuses, -⟩ := path_read_iff_spelled "sensors..temp"
  have read := (reads _).mpr spells
  refine ⟨read, (accepts (hourRequest "temp") exists_normalize_hourRequest).mpr ⟨_, read⟩,
    (refuses _).mpr ⟨?_, rfl⟩⟩
  rw [exists_spells_iff]
  decide +kernel

end Example

end FieldPath
end Histogram
end Telemetry
