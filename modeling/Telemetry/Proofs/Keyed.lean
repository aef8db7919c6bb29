import Mathlib.Tactic.Tauto
import Telemetry.Keyed

/-!
# Ascending lists of entries

An ascending list is one whose keys increase pairwise, so inserting its entries one after the other
rebuilds it and looking up a key finds the one entry that has it.  Of a list in any order, putting it
into order keeps the last entry of each key.
-/

namespace Telemetry
namespace Keyed

variable {κ α β : Type} [LT κ] [DecidableLT κ] [DecidableEq κ]

section Order

variable [Trans (α := κ) (· < ·) (· < ·) (· < ·)]

omit [DecidableEq κ] in
theorem ascending_iff_pairwise {entries : List (κ × α)} :
    ascending entries = true ↔ (entries.map Prod.fst).Pairwise (· < ·) := by
  induction entries with
  | nil => simp
  | cons entry rest ih =>
      obtain ⟨key, value⟩ := entry
      rw [ascending_cons, Bool.and_eq_true, ih, List.map_cons, List.pairwise_cons]
      refine and_congr_left fun ordered => ?_
      cases rest with
      | nil => simp [precedes]
      | cons next further =>
          simp only [precedes, decide_eq_true_eq, List.map_cons, List.mem_cons]
          constructor
          · rintro below other (rfl | member)
            · exact below
            · exact Std.lt_trans below (List.rel_of_pairwise_cons ordered member)
          · intro below
            exact below next.1 (.inl rfl)

omit [DecidableEq κ] in
theorem ascending_map (entries : List (κ × α)) (change : α → β) :
    ascending (entries.map fun entry => (entry.1, change entry.2)) = ascending entries := by
  rw [Bool.eq_iff_iff, ascending_iff_pairwise, ascending_iff_pairwise, List.map_map]
  rfl

omit [Trans (α := κ) (· < ·) (· < ·) (· < ·)] in
theorem insert_of_above [Std.Asymm (α := κ) (· < ·)] {key : κ} (value : α)
    {entries : List (κ × α)} (above : ∀ entry ∈ entries, entry.1 < key) :
    insert key value entries = entries ++ [(key, value)] := by
  induction entries with
  | nil => rfl
  | cons entry rest ih =>
      have below : entry.1 < key := above entry List.mem_cons_self
      have notBefore : ¬key < entry.1 := Std.Asymm.asymm _ _ below
      have different : key ≠ entry.1 := by
        rintro rfl
        exact notBefore below
      rw [insert, if_neg notBefore, if_neg different,
        ih fun other member => above other (List.mem_cons_of_mem _ member)]
      rfl

theorem foldl_insert_of_ascending [Std.Asymm (α := κ) (· < ·)] {entries before : List (κ × α)}
    (ordered : ascending (before ++ entries) = true) :
    entries.foldl (fun sofar entry => insert entry.1 entry.2 sofar) before =
      before ++ entries := by
  induction entries generalizing before with
  | nil => simp
  | cons entry rest ih =>
      have pairwise := ascending_iff_pairwise.mp ordered
      rw [List.map_append, List.pairwise_append] at pairwise
      have above : ∀ other ∈ before, other.1 < entry.1 := fun other member =>
        pairwise.2.2 _ (List.mem_map_of_mem member) _ (by simp)
      rw [List.foldl_cons, insert_of_above entry.2 above, ih (by simpa using ordered)]
      simp

theorem ofEntries_of_ascending [Std.Asymm (α := κ) (· < ·)] {entries : List (κ × α)}
    (ordered : ascending entries = true) : ofEntries entries = entries := by
  have whole : ascending ([] ++ entries) = true := ordered
  exact foldl_insert_of_ascending whole

/-- Looking up a key finds the one entry that has it. -/
theorem find?_eq_some_iff [Std.Irrefl (α := κ) (· < ·)] {key : κ} {value : α}
    {entries : List (κ × α)} (ordered : ascending entries = true) :
    find? key entries = some value ↔ (key, value) ∈ entries := by
  induction entries with
  | nil => simp [find?]
  | cons entry rest ih =>
      obtain ⟨other, present⟩ := entry
      have pairwise := ascending_iff_pairwise.mp ordered
      rw [List.map_cons, List.pairwise_cons, ← ascending_iff_pairwise] at pairwise
      rw [find?]
      split
      · rename_i same
        subst same
        have absent : (key, value) ∉ rest := fun member =>
          Std.Irrefl.irrefl key (pairwise.1 key (List.mem_map_of_mem (f := Prod.fst) member))
        simp [absent, eq_comm]
      · rename_i different
        rw [ih pairwise.2]
        simp [different]

end Order

omit [LT κ] [DecidableLT κ] in
theorem find?_map (change : α → β) (key : κ) (entries : List (κ × α)) :
    find? key (entries.map fun entry => (entry.1, change entry.2)) =
      (find? key entries).map change := by
  induction entries with
  | nil => rfl
  | cons entry rest ih =>
      obtain ⟨other, present⟩ := entry
      simp only [List.map_cons, find?]
      split <;> simp [ih]

omit [LT κ] [DecidableLT κ] in
theorem find?_erase {key other : κ} (different : key ≠ other) (entries : List (κ × α)) :
    find? key (erase other entries) = find? key entries := by
  induction entries with
  | nil => rfl
  | cons entry rest ih =>
      rw [erase] at ih
      by_cases same : entry.1 = other
      · have elsewhere : key ≠ entry.1 := same ▸ different
        rw [erase, List.filter_cons_of_neg (by simpa using same), ih, find?, if_neg elsewhere]
      · rw [erase, List.filter_cons_of_pos (by simpa using same), find?, ih, find?]

omit [LT κ] [DecidableLT κ] in
theorem find?_eq_none_iff {key : κ} {entries : List (κ × α)} :
    find? key entries = none ↔ key ∉ entries.map Prod.fst := by
  induction entries with
  | nil => simp [find?]
  | cons entry rest ih =>
      rw [find?, List.map_cons, List.mem_cons, not_or, ← ih]
      split
      · rename_i same
        simp [same]
      · rename_i different
        simp [different]

omit [LT κ] [DecidableLT κ] in
theorem erase_of_not_mem {key : κ} {entries : List (κ × α)}
    (absent : key ∉ entries.map Prod.fst) : erase key entries = entries := by
  refine List.filter_eq_self.mpr fun entry member => decide_eq_true ?_
  rintro rfl
  exact absent (List.mem_map_of_mem member)

theorem mem_keys_insert {key other : κ} {value : α} {entries : List (κ × α)} :
    key ∈ (insert other value entries).map Prod.fst ↔
      key = other ∨ key ∈ entries.map Prod.fst := by
  induction entries with
  | nil => simp [insert]
  | cons entry rest ih =>
      rw [insert]
      split
      · simp
      · split
        · rename_i same
          simp [same]
        · rw [List.map_cons, List.mem_cons, ih, List.map_cons, List.mem_cons]
          tauto

theorem mem_keys_ofEntries {key : κ} {entries : List (κ × α)} :
    key ∈ (ofEntries entries).map Prod.fst ↔ key ∈ entries.map Prod.fst := by
  have general : ∀ ordered : List (κ × α),
      key ∈ (entries.foldl (fun sofar entry => insert entry.1 entry.2 sofar) ordered).map
        Prod.fst ↔ key ∈ entries.map Prod.fst ∨ key ∈ ordered.map Prod.fst := by
    induction entries with
    | nil => simp
    | cons entry rest ih =>
        intro ordered
        rw [List.foldl_cons, ih, mem_keys_insert, List.map_cons, List.mem_cons]
        tauto
  rw [ofEntries, general, List.map_nil, List.mem_nil_iff, or_false]

section Last

omit [LT κ] [DecidableLT κ]

variable {key : α → κ} {elements : List α}

/-- The elements that a later one with the same key replaces. -/
def replaced (key : α → κ) : List α → List α
  | [] => []
  | element :: later =>
      if key element ∈ later.map key then
        element :: replaced key later
      else
        replaced key later

/-- The elements that are the last ones with their keys. -/
def lasting (key : α → κ) : List α → List α
  | [] => []
  | element :: later =>
      if key element ∈ later.map key then
        lasting key later
      else
        element :: lasting key later

theorem replaced_append_lasting_perm (key : α → κ) (elements : List α) :
    (replaced key elements ++ lasting key elements).Perm elements := by
  induction elements with
  | nil => exact .nil
  | cons element later ih =>
      rw [replaced, lasting]
      split
      · exact ih.cons element
      · exact List.perm_middle.trans (ih.cons element)

theorem replaced_eq_nil_iff : replaced key elements = [] ↔ (elements.map key).Nodup := by
  induction elements with
  | nil => simp [replaced]
  | cons element later ih =>
      rw [replaced, List.map_cons, List.nodup_cons, ← ih]
      split
      · rename_i repeated
        simp [repeated]
      · rename_i single
        simp [single]

theorem mem_keys_lasting {present : κ} :
    present ∈ (lasting key elements).map key ↔ present ∈ elements.map key := by
  induction elements with
  | nil => rfl
  | cons element later ih =>
      rw [lasting]
      split
      · rename_i repeated
        rw [ih, List.map_cons, List.mem_cons, or_iff_right_of_imp]
        rintro rfl
        exact repeated
      · rw [List.map_cons, List.mem_cons, ih, List.map_cons, List.mem_cons]

theorem lasting_of_nodup (distinct : (elements.map key).Nodup) :
    lasting key elements = elements := by
  induction elements with
  | nil => rfl
  | cons element later ih =>
      obtain ⟨single, others⟩ := List.nodup_cons.mp distinct
      rw [lasting, if_neg single, ih others]

theorem nodup_keys_lasting : ((lasting key elements).map key).Nodup := by
  induction elements with
  | nil => exact List.nodup_nil
  | cons element later ih =>
      rw [lasting]
      split
      · exact ih
      · rename_i single
        exact List.nodup_cons.mpr ⟨fun present => single (mem_keys_lasting.mp present), ih⟩

theorem lasting_map (change : β → α) (values : List β) :
    lasting key (values.map change) = (lasting (key ∘ change) values).map change := by
  induction values with
  | nil => rfl
  | cons value later ih =>
      rw [List.map_cons, lasting, lasting, List.map_map, ih, Function.comp_apply]
      split <;> rfl

end Last

section Content

variable [Trans (α := κ) (· < ·) (· < ·) (· < ·)] [Std.Irrefl (α := κ) (· < ·)]
  {key : κ} {value : α} {entries : List (κ × α)}

omit [DecidableEq κ] in
theorem nodup_of_ascending (ordered : ascending entries = true) :
    (entries.map Prod.fst).Nodup := by
  refine (ascending_iff_pairwise.mp ordered).imp ?_
  rintro _ _ below rfl
  exact Std.Irrefl.irrefl _ below

theorem insert_perm (key : κ) (value : α) (ordered : ascending entries = true) :
    (insert key value entries).Perm ((key, value) :: erase key entries) := by
  induction entries with
  | nil => exact .refl _
  | cons entry rest ih =>
      obtain ⟨other, present⟩ := entry
      obtain ⟨above, further⟩ := List.pairwise_cons.mp (ascending_iff_pairwise.mp ordered)
      rw [insert]
      split
      · rename_i below
        have absent : key ∉ ((other, present) :: rest).map Prod.fst := by
          rw [List.map_cons, List.mem_cons]
          rintro (rfl | member)
          · exact Std.Irrefl.irrefl _ below
          · exact Std.Irrefl.irrefl _ (Std.lt_trans below (above key member))
        rw [erase_of_not_mem absent]
      split
      · rename_i same
        subst same
        have absent : key ∉ rest.map Prod.fst :=
          fun member => Std.Irrefl.irrefl _ (above key member)
        rw [erase, List.filter_cons_of_neg (by simp), ← erase, erase_of_not_mem absent]
      · rename_i different
        have kept : erase key ((other, present) :: rest) = (other, present) :: erase key rest :=
          List.filter_cons_of_pos (decide_eq_true (Ne.symm different))
        rw [kept]
        exact ((ih (ascending_iff_pairwise.mpr further)).cons _).trans (.swap _ _ _)

theorem foldl_insert_perm [Std.Trichotomous (α := κ) (· < ·)] (entries : List (κ × α))
    {before : List (κ × α)} (ordered : ascending before = true) :
    (entries.foldl (fun sofar entry => insert entry.1 entry.2 sofar) before).Perm
      (lasting Prod.fst entries ++
        before.filter fun entry => entry.1 ∉ entries.map Prod.fst) := by
  induction entries generalizing before with
  | nil => exact .of_eq (List.filter_eq_self.mpr fun _ _ => rfl).symm
  | cons entry rest ih =>
      have inserted := (insert_perm entry.1 entry.2 ordered).filter
        fun other => other.1 ∉ rest.map Prod.fst
      have remaining : (erase entry.1 before).filter (fun other => other.1 ∉ rest.map Prod.fst) =
          before.filter fun other => other.1 ∉ (entry :: rest).map Prod.fst := by
        rw [erase, List.filter_filter]
        refine List.filter_congr fun other _ => ?_
        rw [← Bool.decide_and, decide_eq_decide, List.map_cons, List.mem_cons, not_or, and_comm]
      rw [List.foldl_cons, ← remaining, lasting]
      refine (ih (ascending_insert entry.1 entry.2 ordered)).trans
        ((inserted.append_left _).trans ?_)
      split
      · rename_i repeated
        rw [List.filter_cons_of_neg (by simpa using repeated)]
      · rename_i single
        rw [List.filter_cons_of_pos (by simpa using single)]
        exact List.perm_middle

/-- Putting entries into order keeps the last one of each key. -/
theorem ofEntries_perm [Std.Trichotomous (α := κ) (· < ·)] :
    (ofEntries entries).Perm (lasting Prod.fst entries) := by
  have inserted := foldl_insert_perm entries ascending_nil
  rwa [List.filter_nil, List.append_nil] at inserted

omit [DecidableEq κ] in
/-- Ordered entries are determined by what they are. -/
theorem eq_of_perm {others : List (κ × α)} (ordered : ascending entries = true)
    (further : ascending others = true) (perm : entries.Perm others) : entries = others := by
  refine perm.eq_of_pairwise ?_ (List.pairwise_map.mp (ascending_iff_pairwise.mp ordered))
    (List.pairwise_map.mp (ascending_iff_pairwise.mp further))
  intro first second _ _ below above
  exact absurd (Std.lt_trans below above) (Std.Irrefl.irrefl _)

theorem perm_cons_erase (ordered : ascending entries = true)
    (found : find? key entries = some value) :
    entries.Perm ((key, value) :: erase key entries) := by
  have distinct := nodup_of_ascending ordered
  obtain ⟨before, after, rfl⟩ := List.append_of_mem ((find?_eq_some_iff ordered).mp found)
  rw [List.map_append, List.map_cons, List.perm_middle.nodup_iff, List.nodup_cons,
    List.mem_append, not_or] at distinct
  have others : erase key (before ++ (key, value) :: after) = before ++ after := by
    rw [erase, List.filter_append, List.filter_cons_of_neg (by simp), ← erase, ← erase,
      erase_of_not_mem distinct.1.1, erase_of_not_mem distinct.1.2]
  rw [others]
  exact List.perm_middle

end Content

end Keyed
end Telemetry
