import Telemetry.Wire.Field

/-!
# Reading back what was written

A reader returns the bytes after what it read, so what it makes of a field has to be known whatever
follows the field: that is `Yields`.  `Reads` says the same of the fields of a whole message.  Both
keep the reason of a fault and forget its place.
-/

namespace Telemetry
namespace Wire

variable {α β : Type}

/-- A result that keeps the reason of a fault only. -/
def outcome (result : Except Fault α) : Except Reason α :=
  result.mapError Fault.reason

@[simp]
theorem outcome_ok (value : α) : outcome (.ok value) = .ok value := rfl

@[simp]
theorem outcome_within (place : Place) (result : Except Fault α) :
    outcome (within place result) = outcome result := by
  cases result <;> rfl

@[simp]
theorem outcome_bind (result : Except Fault α) (next : α → Except Fault β) :
    outcome (result >>= next) = outcome result >>= fun value => outcome (next value) := by
  cases result <;> rfl

theorem eq_ok_of_outcome {result : Except Fault α} {value : α} (good : outcome result = .ok value) :
    result = .ok value := by
  cases result with
  | error fault => cases good
  | ok found => exact congrArg Except.ok (Except.ok.inj good)

theorem eq_error_of_outcome {result : Except Fault α} {reason : Reason}
    (bad : outcome result = .error reason) :
    ∃ fault, fault.reason = reason ∧ result = .error fault := by
  cases result with
  | error fault => exact ⟨fault, Except.error.inj bad, rfl⟩
  | ok found => cases bad

theorem ok_bind {ε : Type} (value : α) (next : α → Except ε β) :
    (Except.ok value >>= next) = next value := rfl

theorem error_bind {ε : Type} (error : ε) (next : α → Except ε β) :
    (Except.error error >>= next) = .error error := rfl

/-- A value, if the budget covers what it costs. -/
def spend (cost budget : Nat) (value : α) : Except Reason α :=
  if cost ≤ budget then .ok value else .error .tooDeep

@[simp]
theorem spend_nothing (budget : Nat) (value : α) : spend 0 budget value = .ok value :=
  if_pos (Nat.zero_le budget)

theorem spend_unaffordable {cost : Nat} (positive : 0 < cost) (value : α) :
    spend cost 0 value = .error .tooDeep :=
  if_neg (by omega)

theorem spend_succ (cost budget : Nat) (value : α) :
    spend (1 + cost) (budget + 1) value = spend cost budget value := by
  simp only [spend, Nat.add_comm 1 cost, Nat.add_le_add_iff_right]

theorem spend_bind_ok (cost budget : Nat) (value : α) (next : α → β) :
    (spend cost budget value >>= fun found => .ok (next found)) =
      spend cost budget (next value) := by
  unfold spend
  split <;> rfl

/-- Costs that are paid one after the other are paid from one budget. -/
theorem spend_bind_spend (first second budget : Nat) (value : α) (next : α → β) :
    (spend first budget value >>= fun found => spend second budget (next found)) =
      spend (max first second) budget (next value) := by
  by_cases affordable : first ≤ budget
  · have whole : max first second ≤ budget ↔ second ≤ budget := by omega
    simp only [spend, if_pos affordable, ok_bind, whole]
  · have whole : ¬max first second ≤ budget := by omega
    rw [spend, spend, if_neg affordable, if_neg whole, error_bind]

theorem eq_of_spend {cost budget : Nat} {value found : α}
    (good : spend cost budget value = .ok found) : value = found := by
  unfold spend at good
  split at good
  · exact Except.ok.inj good
  · cases good

/-- A result, if a length can be written in sixty-four bits. -/
def fitting (length : Nat) (result : Except Reason α) : Except Reason α :=
  if length < 0x10000000000000000 then result else .error .badVarint

theorem fitting_of_lt {length : Nat} (fits : length < 0x10000000000000000)
    (result : Except Reason α) : fitting length result = result :=
  if_pos fits

theorem fitting_bind (length : Nat) (result : Except Reason α) (next : α → Except Reason β) :
    (fitting length result >>= next) = fitting length (result >>= next) := by
  unfold fitting
  split <;> rfl

theorem eq_ok_of_fitting {length : Nat} {result : Except Reason α} {value : α}
    (good : fitting length result = .ok value) : result = .ok value := by
  unfold fitting at good
  split at good
  · exact good
  · cases good

/-- The reader makes `result` of the bytes of a field and leaves what follows them. -/
def Yields (read : Bytes → Except Fault (α × Bytes)) (field : Bytes)
    (result : Except Reason α) : Prop :=
  ∀ rest : Bytes, outcome (read (field ++ rest)) = result.map (·, rest)

/-- The fields in `content`, read one after the other into `message`, make `result`. -/
def Reads (step : α → Bytes → Except Fault (α × Bytes)) (message : α) (content : Bytes)
    (result : Except Reason α) : Prop :=
  ∀ (rest : Bytes) (fuel : Nat), content.length ≤ fuel →
    outcome (readFields step rest.length fuel message (content ++ rest)) = result.map (·, rest)

section Readers

variable {read : Bytes → Except Fault (α × Bytes)} {field further : Bytes}

/-- The rule for a reader that goes on with another one after the first. -/
theorem Yields.bind {value : α} {next : α × Bytes → Except Fault (β × Bytes)}
    {result : Except Reason β} (head : Yields read field (.ok value))
    (tail : Yields (fun rest => next (value, rest)) further result) :
    Yields (fun input => read input >>= next) (field ++ further) result := by
  intro rest
  rw [outcome_bind, List.append_assoc, head (further ++ rest)]
  exact tail rest

/-- The rule for a reader that changes what another one has read. -/
theorem Yields.map {next : α × Bytes → Except Fault (β × Bytes)} {result : Except Reason α}
    (whole : Yields read field result) (change : α → β)
    (same : ∀ value rest, next (value, rest) = .ok (change value, rest)) :
    Yields (fun input => read input >>= next) field
      (result >>= fun value => .ok (change value)) := by
  intro rest
  rw [outcome_bind, whole rest]
  cases result with
  | error reason => rfl
  | ok value => exact congrArg outcome (same value rest)

theorem Yields.mapTo {next : α × Bytes → Except Fault (β × Bytes)} {result : Except Reason α}
    {target : Except Reason β} (whole : Yields read field result) (change : α → β)
    (same : ∀ value rest, next (value, rest) = .ok (change value, rest))
    (reached : (result >>= fun value => .ok (change value)) = target) :
    Yields (fun input => read input >>= next) field target :=
  reached ▸ whole.map change same

theorem Yields.within {result : Except Reason α} (place : Place)
    (whole : Yields read field result) :
    Yields (fun input => Wire.within place (read input)) field result := by
  intro rest
  rw [outcome_within]
  exact whole rest

end Readers

section Numbers

/-- A number of more than sixty-four bits cannot be read back. -/
theorem readGroups_writeGroups_of_large (room value : Nat) (rest : Bytes)
    (large : 1 <<< (7 * room + 1) ≤ value) :
    readGroups (room + 1) (writeGroups (room + 1) value ++ rest) = .error (.of .badVarint) := by
  induction room generalizing value with
  | zero =>
      have above : 2 ≤ value := large
      rw [writeGroups]
      split
      · rename_i small
        rw [List.singleton_append, readGroups, toNat_ofNat_byte (show value < 256 by omega),
          if_pos small, if_pos (by omega)]
      · rw [List.cons_append, readGroups, toNat_ofNat_byte (show value % 128 + 128 < 256 by omega),
          if_neg (by omega), readGroups, error_bind]
  | succ room ih =>
      have step : 1 <<< (7 * (room + 1) + 1) = 1 <<< (7 * room + 1) * 128 := by
        rw [show 7 * (room + 1) + 1 = 7 * room + 1 + 7 by omega, Nat.shiftLeft_add]
        exact Nat.shiftLeft_eq _ 7
      have positive : 0 < 1 <<< (7 * room + 1) := by
        rw [Nat.one_shiftLeft]
        exact Nat.two_pow_pos _
      have further : 1 <<< (7 * room + 1) ≤ value / 128 := by
        rw [Nat.le_div_iff_mul_le (by omega), ← step]
        exact large
      have continues : ¬value < 128 := by omega
      rw [writeGroups, if_neg continues, List.cons_append, readGroups,
        toNat_ofNat_byte (show value % 128 + 128 < 256 by omega), if_neg (by omega),
        ih (value / 128) further, error_bind]

theorem readVarint_of_large {value : Nat} (large : 0x10000000000000000 ≤ value) (rest : Bytes) :
    readVarint (writeVarint value ++ rest) = .error (.of .badVarint) :=
  readGroups_writeGroups_of_large 9 value rest large

theorem yields_varint {value : Nat} (fits : value < 0x10000000000000000) :
    Yields readVarint (writeVarint value) (.ok value) := by
  intro rest
  rw [readVarint_writeVarint fits]
  rfl

theorem WireType.code_lt (wireType : WireType) : wireType.code < 8 := by
  cases wireType <;> decide

theorem WireType.ofCode?_code (wireType : WireType) : ofCode? wireType.code = some wireType := by
  cases wireType <;> rfl

theorem yields_key {tag : Nat} (wireType : WireType) (positive : 0 < tag)
    (small : tag < 0x20000000) :
    Yields readKey (writeKey tag wireType) (.ok ⟨tag, wireType⟩) := by
  have code := wireType.code_lt
  have fits : tag * 8 + wireType.code < 0x10000000000000000 := by omega
  have remainder : (tag * 8 + wireType.code) % 8 = wireType.code := by omega
  have quotient : (tag * 8 + wireType.code) / 8 = tag := by omega
  intro rest
  have notLarge : ¬0x100000000 ≤ tag * 8 + wireType.code := by omega
  have notZero : ¬tag = 0 := by omega
  rw [readKey, writeKey, readVarint_writeVarint fits, ok_bind]
  simp only [notLarge, remainder, quotient, wireType.ofCode?_code, notZero, ↓reduceIte]
  rfl

theorem readLength_writeVarint {content rest : Bytes}
    (fits : content.length < 0x10000000000000000) :
    readLength (writeVarint content.length ++ (content ++ rest)) =
      .ok (content.length, content ++ rest) := by
  have enough : ¬(content ++ rest).length < content.length := by simp
  rw [readLength, readVarint_writeVarint fits, ok_bind]
  simp only [enough, ↓reduceIte]

theorem yields_number {value : Nat} (fits : value < 0x10000000000000000) :
    Yields (readNumber .varint) (writeVarint value) (.ok value) := by
  intro rest
  exact yields_varint fits rest

theorem readLength_of_large {content rest : Bytes}
    (large : 0x10000000000000000 ≤ content.length) :
    readLength (writeDelimited content ++ rest) = .error (.of .badVarint) := by
  rw [readLength, writeDelimited, List.append_assoc, readVarint_of_large large, error_bind]

theorem yields_text {text : String} (fits : (textBytes text).length < 0x10000000000000000) :
    Yields (readText .delimited) (writeDelimited (textBytes text)) (.ok text) := by
  intro rest
  rw [readText, writeDelimited, List.append_assoc]
  simp only [expect, ↓reduceIte, ok_bind, readLength_writeVarint fits, List.take_left,
    List.drop_left, textOfBytes?_textBytes]
  rfl

theorem yields_anyText (text : String) :
    Yields (readText .delimited) (writeDelimited (textBytes text))
      (fitting (textBytes text).length (.ok text)) := by
  by_cases fits : (textBytes text).length < 0x10000000000000000
  · rw [fitting_of_lt fits]
    exact yields_text fits
  · intro rest
    rw [readText, readLength_of_large (Nat.le_of_not_lt fits), fitting, if_neg fits]
    rfl

@[simp]
theorem length_writeFixed64 (value : Nat) : (writeFixed64 value).length = 8 := by
  simp [writeFixed64]

theorem natOfBytes_writeFixed64 {value : Nat} (fits : value < 0x10000000000000000) :
    natOfBytes (writeFixed64 value) = value := by
  simp only [writeFixed64, List.range, List.range.loop, List.map, natOfBytes, UInt8.toNat_ofNat',
    Nat.shiftRight_eq_div_pow]
  omega

theorem yields_fixed64 {value : Nat} (fits : value < 0x10000000000000000) :
    Yields (readFixed64 .fixed64) (writeFixed64 value) (.ok value) := by
  intro rest
  have take : (writeFixed64 value ++ rest).take 8 = writeFixed64 value :=
    List.take_left' (length_writeFixed64 value)
  have drop : (writeFixed64 value ++ rest).drop 8 = rest :=
    List.drop_left' (length_writeFixed64 value)
  have enough : ¬(writeFixed64 value ++ rest).length < 8 := by simp
  rw [readFixed64, advance, if_neg enough, take, drop, natOfBytes_writeFixed64 fits]
  rfl

end Numbers

section Messages

variable {step : α → Bytes → Except Fault (α × Bytes)} {message : α} {field content : Bytes}

theorem Reads.nil : Reads step message [] (.ok message) := by
  intro rest fuel _
  cases fuel with
  | zero => rfl
  | succ fuel => simp [readFields, Except.map]

/-- The rule for one more field. -/
theorem Reads.cons {first : Except Reason α} {next : α → Except Reason α} (inhabited : field ≠ [])
    (head : Yields (step message) field first)
    (tail : ∀ found, first = .ok found → Reads step found content (next found)) :
    Reads step message (field ++ content) (first >>= next) := by
  intro rest fuel enough
  have longer : 0 < field.length := List.length_pos_iff.mpr inhabited
  rw [List.length_append] at enough
  cases fuel with
  | zero => omega
  | succ fuel =>
      have more : ¬(field ++ content ++ rest).length ≤ rest.length := by simp; omega
      rw [readFields, if_neg more, outcome_bind, List.append_assoc, head (content ++ rest)]
      cases first with
      | error reason => rfl
      | ok found => exact tail found rfl rest fuel (by omega)

theorem Reads.cons_ok {found : α} {result : Except Reason α} (inhabited : field ≠ [])
    (head : Yields (step message) field (.ok found)) (tail : Reads step found content result) :
    Reads step message (field ++ content) result := by
  have next : Except.ok found >>= (fun _ => result) = result := ok_bind found _
  rw [← next]
  refine Reads.cons inhabited head ?_
  rintro other ⟨⟩
  exact tail

theorem Reads.one {result : Except Reason α} (inhabited : field ≠ [])
    (head : Yields (step message) field result) : Reads step message field result := by
  have whole : Reads step message (field ++ []) (result >>= .ok) :=
    Reads.cons inhabited head fun found _ => Reads.nil
  rw [List.append_nil] at whole
  cases result <;> exact whole

/-- The rule for a field that is left out when it would change nothing. -/
theorem Reads.optional {absent : Prop} [Decidable absent] (first : Except Reason α)
    (next : α → Except Reason α) (inhabited : field ≠ []) (same : absent → first = .ok message)
    (head : ¬absent → Yields (step message) field first)
    (tail : ∀ found, first = .ok found → Reads step found content (next found)) :
    Reads step message ((if absent then [] else field) ++ content) (first >>= next) := by
  by_cases skipped : absent
  · rw [if_pos skipped, List.nil_append, same skipped]
    exact tail message (same skipped)
  · rw [if_neg skipped]
    exact Reads.cons inhabited (head skipped) tail

theorem Reads.delimited {result : Except Reason α} (reads : Reads step message content result)
    (fits : content.length < 0x10000000000000000) :
    Yields (readMessage step message) (writeDelimited content) result := by
  intro rest
  have limit : (content ++ rest).length - content.length = rest.length := by simp
  rw [readMessage, writeDelimited, List.append_assoc, readLength_writeVarint fits, ok_bind]
  simp only [limit]
  rw [outcome_bind, reads rest _ (by simp)]
  cases result with
  | error reason => rfl
  | ok found => simp [Except.map, ok_bind]

theorem Reads.all {result : Except Reason α} (reads : Reads step message content result) :
    outcome (readAll step message content) = result := by
  have whole := reads [] content.length (Nat.le_refl _)
  rw [List.append_nil, List.length_nil] at whole
  rw [readAll]
  cases found : readFields step 0 content.length message content with
  | error fault =>
      rw [found] at whole
      cases result with
      | error reason => exact congrArg Except.error (Except.error.inj whole)
      | ok value => cases whole
  | ok pair =>
      rw [found] at whole
      cases result with
      | error reason => cases whole
      | ok value =>
          cases whole
          rfl

theorem Reads.delimited_of_any {result : Except Reason α}
    (reads : content.length < 0x10000000000000000 → Reads step message content result) :
    Yields (readMessage step message) (writeDelimited content) (fitting content.length result) := by
  by_cases fits : content.length < 0x10000000000000000
  · rw [fitting_of_lt fits]
    exact (reads fits).delimited fits
  · intro rest
    rw [readMessage, readLength_of_large (Nat.le_of_not_lt fits), error_bind, fitting, if_neg fits]
    rfl

end Messages

end Wire
end Telemetry
