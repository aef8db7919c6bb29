import Telemetry.Proofs.Wire.Payload

/-!
# What readers consume

Bytes may say something at greater length than it is written: a number may have empty groups, a
field may be skipped or replaced by a later one, and a message may come in pieces.  They never say
it at less length: what is read takes no more bytes to write than were consumed to read it, on top
of what the message that it goes into took before.  That is `Covers`; it also carries a property of
what is read, and there is one rule for each way in which readers are put together.
-/

namespace Telemetry
namespace Wire

section Sizes

/-- The bytes of a value of the given length after its length. -/
def delimitedSize (length : Nat) : Nat :=
  (writeVarint length).length + length

theorem length_writeDelimited (content : Bytes) :
    (writeDelimited content).length = delimitedSize content.length :=
  List.length_append

theorem length_writeGroups_of_lt (room : Nat) {value : Nat} (small : value < 128) :
    (writeGroups (room + 1) value).length = 1 := by
  rw [writeGroups, if_pos small, List.length_singleton]

theorem length_writeGroups_of_le (room : Nat) {value : Nat} (large : 128 ≤ value) :
    (writeGroups (room + 1) value).length = 1 + (writeGroups room (value / 128)).length := by
  rw [writeGroups, if_neg (by omega), List.length_cons, Nat.add_comm]

theorem length_writeGroups_le_one (room : Nat) {value : Nat} (small : value < 128) :
    (writeGroups room value).length ≤ 1 := by
  cases room with
  | zero => exact Nat.zero_le 1
  | succ room => exact Nat.le_of_eq (length_writeGroups_of_lt room small)

theorem length_writeGroups_div_le (room value : Nat) :
    (writeGroups room (value / 128)).length ≤ (writeGroups (room + 1) value).length := by
  by_cases large : 128 ≤ value
  · rw [length_writeGroups_of_le room large]
    exact Nat.le_add_left _ 1
  · rw [length_writeGroups_of_lt room (by omega)]
    exact length_writeGroups_le_one room (by omega)

theorem length_writeGroups_le_succ (room value : Nat) :
    (writeGroups (room + 1) value).length ≤ 1 + (writeGroups room (value / 128)).length := by
  by_cases large : 128 ≤ value
  · exact Nat.le_of_eq (length_writeGroups_of_le room large)
  · rw [length_writeGroups_of_lt room (by omega)]
    exact Nat.le_add_right 1 _

theorem length_writeGroups_add_le (room first second carry : Nat) (single : carry ≤ 1) :
    (writeGroups room (first + second + carry)).length ≤
      (writeGroups room first).length + (writeGroups room second).length := by
  induction room generalizing first second carry with
  | zero => exact Nat.zero_le _
  | succ room ih =>
      obtain ⟨carried, small, split⟩ : ∃ carried, carried ≤ 1 ∧
          (first + second + carry) / 128 = first / 128 + second / 128 + carried :=
        ⟨(first % 128 + second % 128 + carry) / 128, by omega, by omega⟩
      have further := ih (first / 128) (second / 128) carried small
      have upper := length_writeGroups_le_succ room (first + second + carry)
      have one := length_writeGroups_div_le room first
      have other := length_writeGroups_div_le room second
      rw [split] at upper
      by_cases large : 128 ≤ first ∨ 128 ≤ second
      · -- The larger part has a group before those of its quotient, which pays for the sum's.
        obtain large | large := large
        · rw [length_writeGroups_of_le room large]
          omega
        · rw [length_writeGroups_of_le room large]
          omega
      · have least := length_writeGroups_le_one room
          (show first / 128 + second / 128 + carried < 128 by omega)
        rw [length_writeGroups_of_lt room (show first < 128 by omega),
          length_writeGroups_of_lt room (show second < 128 by omega)]
        omega

theorem length_writeGroups_mono (room : Nat) {less more : Nat} (le : less ≤ more) :
    (writeGroups room less).length ≤ (writeGroups room more).length := by
  induction room generalizing less more with
  | zero => exact Nat.zero_le _
  | succ room ih =>
      by_cases large : 128 ≤ less
      · rw [length_writeGroups_of_le room large,
          length_writeGroups_of_le room (Nat.le_trans large le)]
        exact Nat.add_le_add_left (ih (Nat.div_le_div_right le)) 1
      · rw [length_writeGroups_of_lt room (by omega)]
        exact List.length_pos_iff.mpr (writeGroups_ne_nil room more)

theorem delimitedSize_mono {less more : Nat} (le : less ≤ more) :
    delimitedSize less ≤ delimitedSize more :=
  Nat.add_le_add (length_writeGroups_mono varintBytes le) le

theorem delimitedSize_add_le (first second : Nat) :
    delimitedSize (first + second) ≤ delimitedSize first + delimitedSize second := by
  have groups := length_writeGroups_add_le varintBytes first second 0 (by decide)
  simp only [delimitedSize, writeVarint, Nat.add_zero] at *
  omega

/-- A field that is merged from two takes no more than both. -/
theorem fieldSize_le {content inner before length : Nat} (grown : content ≤ inner + length)
    (there : inner = 0 ∨ 1 + delimitedSize inner ≤ before) :
    1 + delimitedSize content ≤ before + 1 + delimitedSize length := by
  obtain rfl | there := there
  · have alone := delimitedSize_mono grown
    rw [Nat.zero_add] at alone
    omega
  · have pieces := delimitedSize_add_le inner length
    have whole := delimitedSize_mono grown
    omega

theorem length_writeKey {tag : Nat} (small : tag < 16) (wireType : WireType) :
    (writeKey tag wireType).length = 1 := by
  have code := wireType.code_lt
  exact length_writeGroups_of_lt 9 (by omega)

theorem length_writeField {tag : Nat} (small : tag < 16) (content : Bytes) :
    (writeField tag content).length = 1 + delimitedSize content.length := by
  rw [writeField, List.length_append, length_writeKey small, length_writeDelimited]

end Sizes

variable {α β : Type}

/-- Whatever a reader finds is good and costs no more than what was there and what was consumed. -/
def Covers (read : Bytes → Except Fault (α × Bytes)) (before : Nat) (cost : α → Nat)
    (good : α → Prop) : Prop :=
  ∀ input found rest, read input = .ok (found, rest) →
    good found ∧ cost found + rest.length ≤ before + input.length

/-- Whether bytes remain of those that were there. -/
def Shrinks (skip : Bytes → Except Fault Bytes) : Prop :=
  ∀ input rest, skip input = .ok rest → rest.length ≤ input.length

theorem exists_of_bind_eq_ok {ε : Type} {first : Except ε α} {next : α → Except ε β} {result : β}
    (whole : (first >>= next) = .ok result) :
    ∃ value, first = .ok value ∧ next value = .ok result := by
  cases first with
  | error fault => cases whole
  | ok value => exact ⟨value, rfl, whole⟩

section Rules

variable {read : Bytes → Except Fault (α × Bytes)} {before : Nat} {cost middle : α → Nat}
  {good : α → Prop}

/-- The rule for a reader that goes on with another one after the first. -/
theorem Covers.bind {next : α × Bytes → Except Fault (β × Bytes)} {total : β → Nat}
    {fine : β → Prop} (head : Covers read before middle good)
    (tail : ∀ value, good value →
      Covers (fun rest => next (value, rest)) (middle value) total fine) :
    Covers (fun input => read input >>= next) before total fine := by
  intro input found rest whole
  obtain ⟨⟨value, between⟩, first, second⟩ := exists_of_bind_eq_ok whole
  obtain ⟨sound, paid⟩ := head input value between first
  obtain ⟨reached, further⟩ := tail value sound between found rest second
  exact ⟨reached, by omega⟩

/-- The rule for a reader that changes what another one has read. -/
theorem Covers.map {next : α × Bytes → Except Fault (β × Bytes)} {total : β → Nat}
    {fine : β → Prop} (whole : Covers read before middle good) (change : α → β)
    (same : ∀ value rest, next (value, rest) = .ok (change value, rest))
    (sound : ∀ value, good value → fine (change value))
    (paid : ∀ value, total (change value) ≤ middle value) :
    Covers (fun input => read input >>= next) before total fine := by
  refine whole.bind fun value known input found rest read => ?_
  cases (same value input).symm.trans read
  exact ⟨sound value known, Nat.add_le_add_right (paid value) _⟩

theorem covers_ok {value : α} (sound : good value) (paid : cost value ≤ before) :
    Covers (fun rest => .ok (value, rest)) before cost good := by
  rintro input found rest ⟨⟩
  exact ⟨sound, by omega⟩

theorem covers_error (fault : Fault) : Covers (fun _ => .error fault) before cost good :=
  nofun

theorem Covers.within (place : Place) (whole : Covers read before cost good) :
    Covers (fun input => Wire.within place (read input)) before cost good := by
  intro input found rest succeeded
  refine whole input found rest ?_
  dsimp only at succeeded
  cases result : read input with
  | error fault =>
      rw [result] at succeeded
      cases succeeded
  | ok pair =>
      rw [result] at succeeded
      exact succeeded

theorem Covers.expect {expected got : WireType} (whole : Covers read before cost good) :
    Covers (fun input => Wire.expect expected got >>= fun _ => read input) before cost good := by
  intro input found rest succeeded
  obtain ⟨_, -, succeeded⟩ := exists_of_bind_eq_ok succeeded
  exact whole input found rest succeeded

/-- The rule for a field that changes nothing. -/
theorem Shrinks.covers {skip : Bytes → Except Fault Bytes} {value : α} (shrinks : Shrinks skip)
    (sound : good value) (paid : cost value ≤ before) :
    Covers (fun input => skip input >>= fun rest => .ok (value, rest)) before cost good := by
  intro input found rest succeeded
  obtain ⟨between, skipped, ⟨⟩⟩ := exists_of_bind_eq_ok succeeded
  have shorter := shrinks input rest skipped
  exact ⟨sound, by omega⟩

end Rules

section Readers

variable {before : Nat}

theorem length_add_length_of_readGroups {room : Nat} {input rest : Bytes} {value : Nat}
    (read : readGroups room input = .ok (value, rest)) :
    (writeGroups room value).length + rest.length ≤ input.length := by
  induction room generalizing input rest value with
  | zero => cases read
  | succ room ih =>
      cases input with
      | nil => cases read
      | cons byte input =>
          rw [readGroups] at read
          rw [List.length_cons]
          split at read
          · rename_i last
            split at read
            · cases read
            · cases read
              rw [length_writeGroups_of_lt room last]
              omega
          · have size := byte.toNat_lt
            obtain ⟨⟨higher, between⟩, further, ⟨⟩⟩ := exists_of_bind_eq_ok read
            have paid := ih further
            by_cases large : 128 ≤ byte.toNat - 128 + 128 * higher
            · have groups : (byte.toNat - 128 + 128 * higher) / 128 = higher := by omega
              rw [length_writeGroups_of_le room large, groups]
              omega
            · rw [length_writeGroups_of_lt room (by omega)]
              omega

theorem length_lt_of_readVarint {input rest : Bytes} {value : Nat}
    (read : readVarint input = .ok (value, rest)) : rest.length < input.length := by
  have paid : (writeVarint value).length + rest.length ≤ input.length :=
    length_add_length_of_readGroups read
  have inhabited : 0 < (writeVarint value).length :=
    List.length_pos_iff.mpr (writeGroups_ne_nil 9 value)
  omega

theorem covers_varint : Covers readVarint before (fun _ => before + 1) fun _ => True := by
  intro input value rest read
  have shorter := length_lt_of_readVarint read
  exact ⟨trivial, by dsimp only; omega⟩

/-- A key takes a byte at least. -/
theorem covers_key : Covers readKey before (fun _ => before + 1) fun _ => True := by
  refine covers_varint.bind fun value _ => ?_
  intro rest key left read
  dsimp only at read
  split at read
  · cases read
  · split at read
    · cases read
    · split at read
      · cases read
      · cases read
        exact ⟨trivial, Nat.le_refl _⟩

theorem covers_number {wireType : WireType} :
    Covers (readNumber wireType) before (fun _ => before + 1) fun _ => True :=
  covers_varint.expect

theorem length_of_advance {count : Nat} {input rest : Bytes}
    (advanced : advance count input = .ok rest) : count + rest.length = input.length := by
  rw [advance] at advanced
  split at advanced
  · cases advanced
  · cases advanced
    rw [List.length_drop]
    omega

theorem covers_fixed64 {wireType : WireType} :
    Covers (readFixed64 wireType) before (fun _ => before + 8) fun _ => True := by
  refine Covers.expect ?_
  intro input value rest read
  obtain ⟨between, advanced, ⟨⟩⟩ := exists_of_bind_eq_ok read
  have taken := length_of_advance advanced
  exact ⟨trivial, by dsimp only; omega⟩

theorem textBytes_of_textOfBytes? {bytes : Bytes} {text : String}
    (same : textOfBytes? bytes = some text) : textBytes text = bytes := by
  rw [textOfBytes?, String.fromUTF8?] at same
  split at same
  · cases same
    rfl
  · cases same

theorem length_of_readLength {input rest : Bytes} {length : Nat}
    (read : readLength input = .ok (length, rest)) :
    length ≤ rest.length ∧ (writeVarint length).length + rest.length ≤ input.length := by
  obtain ⟨⟨value, between⟩, number, checked⟩ := exists_of_bind_eq_ok read
  have paid := length_add_length_of_readGroups number
  dsimp only at checked
  split at checked
  · cases checked
  · cases checked
    exact ⟨by omega, paid⟩

theorem covers_text {wireType : WireType} :
    Covers (readText wireType) before
      (fun text => before + delimitedSize (textBytes text).length) fun _ => True := by
  refine Covers.expect ?_
  intro input text rest read
  obtain ⟨⟨length, between⟩, bounded, read⟩ := exists_of_bind_eq_ok read
  obtain ⟨fits, paid⟩ := length_of_readLength bounded
  dsimp only at read
  split at read
  · rename_i same
    cases read
    refine ⟨trivial, ?_⟩
    dsimp only
    rw [textBytes_of_textOfBytes? same, List.length_take_of_le fits, List.length_drop,
      delimitedSize]
    omega
  · cases read

end Readers

section Skipping

theorem shrinks_skipGroup {skip : WireType → Nat → Bytes → Except Fault Bytes} {tag : Nat}
    (fields : ∀ wireType tag, Shrinks (skip wireType tag)) (fuel : Nat) :
    Shrinks (skipGroup skip tag fuel) := by
  induction fuel with
  | zero => nofun
  | succ fuel ih =>
      intro input rest skipped
      obtain ⟨⟨key, between⟩, read, skipped⟩ := exists_of_bind_eq_ok skipped
      have shorter := (@covers_key 0 input key between read).2
      dsimp only at skipped
      split at skipped
      · split at skipped
        · cases skipped
          omega
        · cases skipped
      · obtain ⟨further, field, skipped⟩ := exists_of_bind_eq_ok skipped
        have less := fields _ _ between further field
        have least := ih further rest skipped
        omega

theorem shrinks_skipField (budget : Nat) (wireType : WireType) (tag : Nat) :
    Shrinks (skipField budget wireType tag) := by
  induction budget generalizing wireType tag with
  | zero => nofun
  | succ budget ih =>
      intro input rest skipped
      cases wireType with
      | varint =>
          rw [skipField] at skipped
          cases read : readVarint input with
          | error fault =>
              rw [read] at skipped
              cases skipped
          | ok pair =>
              rw [read] at skipped
              cases skipped
              exact Nat.le_of_lt (length_lt_of_readVarint read)
      | fixed32 =>
          have taken := length_of_advance skipped
          omega
      | fixed64 =>
          have taken := length_of_advance skipped
          omega
      | delimited =>
          obtain ⟨⟨length, between⟩, read, skipped⟩ := exists_of_bind_eq_ok skipped
          have shorter := length_lt_of_readVarint read
          have taken := length_of_advance skipped
          omega
      | startGroup => exact shrinks_skipGroup ih _ input rest skipped
      | endGroup => cases skipped

end Skipping

section Messages

variable {step : α → Bytes → Except Fault (α × Bytes)} {size : α → Nat} {good : α → Prop}

/-- Whether each field that is read keeps a message good and pays for what it adds. -/
def Keeps (step : α → Bytes → Except Fault (α × Bytes)) (size : α → Nat) (good : α → Prop) :
    Prop :=
  ∀ message, good message → Covers (step message) (size message) size good

/-- What each field keeps, any number of them keeps. -/
theorem Keeps.fields (keeps : Keeps step size good) (limit fuel : Nat) :
    Keeps (readFields step limit fuel) size good := by
  induction fuel with
  | zero => exact fun message sound => covers_ok sound (Nat.le_refl _)
  | succ fuel ih =>
      intro message sound input found rest read
      rw [readFields] at read
      split at read
      · cases read
        exact ⟨sound, Nat.le_refl _⟩
      · exact (keeps message sound).bind (fun next => ih next) input found rest read

/-- The rule for a delimited message that is read into what is already there. -/
theorem Keeps.message {message : α} {before : Nat} {cost : α → Nat} (keeps : Keeps step size good)
    (sound : good message)
    (paid : ∀ found length, size found ≤ size message + length →
      cost found ≤ before + delimitedSize length) :
    Covers (readMessage step message) before cost good := by
  intro input found rest read
  obtain ⟨⟨length, content⟩, bounded, read⟩ := exists_of_bind_eq_ok read
  obtain ⟨⟨other, left⟩, fields, checked⟩ := exists_of_bind_eq_ok read
  obtain ⟨fits, announced⟩ := length_of_readLength bounded
  obtain ⟨reached, grown⟩ := keeps.fields _ _ message sound content other left fields
  dsimp only at checked
  split at checked
  · cases checked
    have enough := paid found length (by omega)
    rw [delimitedSize] at enough
    exact ⟨reached, by omega⟩
  · cases checked

theorem Keeps.all {message found : α} {input : Bytes} (keeps : Keeps step size good)
    (sound : good message) (read : readAll step message input = .ok found) :
    good found ∧ size found ≤ size message + input.length := by
  rw [readAll] at read
  cases fields : readFields step 0 input.length message input with
  | error fault =>
      rw [fields] at read
      cases read
  | ok pair =>
      rw [fields] at read
      cases read
      obtain ⟨reached, grown⟩ := keeps.fields _ _ message sound input pair.1 pair.2 fields
      exact ⟨reached, by omega⟩

end Messages

end Wire
end Telemetry
