import Telemetry.Proofs.Admission
import Telemetry.Proofs.Histogram.FieldPath
import Telemetry.Text.Blank

/-!
# Subjects and the stream that captures them

A record is published below the name of its stream, under the name of its device, whatever that name
is.  So the subject is well-formed exactly when the name of the device is a well-formed subject, and
the stream captures it exactly when no token of the name is empty.  In any case no two devices share
a subject.
-/

namespace Telemetry

open Dialogue Histogram

namespace Broker

/-- Whether a text may be one token of a subject. -/
structure IsToken (text : String) : Prop where
  inhabited : text ≠ ""
  whole : '.' ∉ text.toList
  solid : ∀ character ∈ text.toList, isBlank character = false
  literal : text ≠ "*" ∧ text ≠ ">"

theorem isToken_iff {text : String} :
    IsToken text ↔ text ≠ "" ∧ (text.toList.all fun character =>
      character != '.' && !isBlank character) = true ∧ text ≠ "*" ∧ text ≠ ">" := by
  simp only [List.all_eq_true, Bool.and_eq_true, bne_iff_ne, Bool.not_eq_true']
  constructor
  · rintro ⟨inhabited, whole, solid, literal⟩
    exact ⟨inhabited, fun character member =>
      ⟨fun dot => whole (dot ▸ member), solid character member⟩, literal⟩
  · rintro ⟨inhabited, characters, literal⟩
    exact ⟨inhabited, fun dot => (characters '.' dot).1 rfl,
      fun character member => (characters character member).2, literal⟩

instance (text : String) : Decidable (IsToken text) :=
  decidable_of_iff _ isToken_iff.symm

/-- Whether a text is a well-formed subject: tokens, one at least, with dots between them. -/
def IsSubject (text : String) : Prop :=
  ∃ tokens, tokens ≠ [] ∧ (∀ token ∈ tokens, IsToken token) ∧ ".".intercalate tokens = text

/-- What a broker is relied on for: after a token, the last wildcard takes one or more further
tokens. -/
def TakesRest (captures : String → String → Prop) : Prop :=
  ∀ stream subject, IsToken stream →
    (captures (stream ++ ".>") subject ↔
      ∃ tokens, tokens ≠ [] ∧ (∀ token ∈ tokens, token ≠ "" ∧ '.' ∉ token.toList) ∧
        subject = ".".intercalate (stream :: tokens))

variable {stream device : String}

theorem isSubject_iff {text : String} :
    IsSubject text ↔ ∀ token ∈ FieldPath.split text, IsToken token := by
  constructor
  · rintro ⟨tokens, inhabited, sound, rfl⟩
    rwa [FieldPath.split_intercalate inhabited fun token member => (sound token member).whole]
  · intro sound
    exact ⟨_, FieldPath.split_ne_nil text, sound, FieldPath.intercalate_split text⟩

instance (text : String) : Decidable (IsSubject text) :=
  decidable_of_iff _ isSubject_iff.symm

theorem subjectOf_injective (stream : String) : Function.Injective (subjectOf stream) :=
  fun _ _ same => (String.append_right_inj _).mp same

theorem intercalate_stream (stream : String) {tokens : List String} (some : tokens ≠ []) :
    ".".intercalate (stream :: tokens) = subjectOf stream (".".intercalate tokens) :=
  String.intercalate_cons_of_ne_nil some

/-- Below a stream, the tokens of a device's name come after the stream's own. -/
theorem split_subjectOf (token : IsToken stream) (device : String) :
    FieldPath.split (subjectOf stream device) = stream :: FieldPath.split device := by
  have joined := intercalate_stream stream (FieldPath.split_ne_nil device)
  rw [FieldPath.intercalate_split] at joined
  rw [← joined]
  refine FieldPath.split_intercalate (List.cons_ne_nil _ _) (List.forall_mem_cons.mpr ?_)
  exact ⟨token.whole, fun _ member => FieldPath.not_mem_of_mem_split member⟩

theorem isSubject_subjectOf_iff (token : IsToken stream) :
    IsSubject (subjectOf stream device) ↔ IsSubject device := by
  rw [isSubject_iff, isSubject_iff, split_subjectOf token, List.forall_mem_cons,
    and_iff_right token]

/-- A stream captures a device's subject exactly when its tokens are not empty. -/
theorem captures_subjectOf_iff {captures : String → String → Prop} (takes : TakesRest captures)
    (token : IsToken stream) (device : String) :
    captures (stream ++ ".>") (subjectOf stream device) ↔ "" ∉ FieldPath.split device := by
  rw [takes stream _ token]
  constructor
  · rintro ⟨tokens, some, sound, same⟩ empty
    rw [intercalate_stream stream some] at same
    rw [subjectOf_injective stream same,
      FieldPath.split_intercalate some fun token member => (sound token member).2] at empty
    exact (sound "" empty).1 rfl
  · intro full
    refine ⟨FieldPath.split device, FieldPath.split_ne_nil device, fun token member => ?_, ?_⟩
    · exact ⟨fun empty => full (empty ▸ member), FieldPath.not_mem_of_mem_split member⟩
    · rw [intercalate_stream stream (FieldPath.split_ne_nil device), FieldPath.intercalate_split]

theorem not_mem_split_of_isSubject (sound : IsSubject device) : "" ∉ FieldPath.split device :=
  fun empty => (isSubject_iff.mp sound "" empty).inhabited rfl

namespace Stream

/-- The one stream that is ever created takes every subject below its name. -/
theorem subjects_of_course_ensure {name : String} {exchanges : List (Exchange interface)}
    {outcome : Except Report Unit} (course : Course (ensure name) exchanges outcome)
    {stream : Stream} {reply : Except Report Unit}
    (created : ⟨.create stream, reply⟩ ∈ exchanges) :
    stream.name = name ∧ stream.subjects = [name ++ ".>"] := by
  obtain ⟨found, rest, rfl, further⟩ := course_call_iff.mp course
  obtain impossible | later := List.mem_cons.mp created
  · cases impossible
  cases found with
  | ok _ =>
      obtain ⟨rfl, -⟩ := course_done_iff.mp further
      cases later
  | error report =>
      rw [course_ask_iff.mp further] at later
      cases List.mem_singleton.mp later
      exact ⟨rfl, rfl⟩

end Stream

end Broker

namespace Gateway

open Broker

variable {stream organization : String} {reading : Reading}
  {exchanges : List (Exchange interface)} {outcome : Except Failure Unit}

/-- When the registry names the claiming organization, one record is published, below the stream. -/
theorem publication_of_owned (course : Course (ingest stream organization reading) exchanges outcome)
    (owned : ⟨.owner reading.device, .ok (some organization)⟩ ∈ exchanges) :
    ∃ payload sent,
      exchanges.filterMap publication? = [(⟨subjectOf stream reading.device, payload⟩, sent)] := by
  obtain ⟨_, -, rfl, -⟩ | ⟨-, ⟨found, failure, checked, rfl, -⟩ | ⟨now, sent, rfl, -⟩⟩ :=
    course_ingest_iff.mp course
  · cases owned
  · cases List.mem_singleton.mp owned
    rw [Ingest.checkOwner_eq_ok_iff.mpr ⟨rfl, rfl⟩] at checked
    cases checked
  · exact ⟨_, sent, rfl⟩

theorem exists_course_ingest (stream : String) (complete : Ingest.Complete organization reading) :
    ∃ exchanges : List (Exchange interface),
      Course (ingest stream organization reading) exchanges (.ok ()) ∧
        ⟨.owner reading.device, .ok (some organization)⟩ ∈ exchanges := by
  refine ⟨_, course_ingest_iff.mpr (.inr ⟨Ingest.validate_eq_ok_iff.mpr complete, .inr
    ⟨⟨0, 0, by decide⟩, .ok (), rfl, rfl⟩⟩), List.mem_cons_self⟩

/-- A record's subject is well-formed exactly when its device's name is. -/
theorem published_within_stream {captures : String → String → Prop} (takes : TakesRest captures)
    (token : IsToken stream) (course : Course (ingest stream organization reading) exchanges outcome)
    (owned : ⟨.owner reading.device, .ok (some organization)⟩ ∈ exchanges) :
    ∃ subject payload sent,
      exchanges.filterMap publication? = [(⟨subject, payload⟩, sent)] ∧
      subject = stream ++ "." ++ reading.device ∧
      (IsSubject subject ↔ IsSubject reading.device) ∧
      (∀ steps ended provisioned reply, Course (Stream.ensure stream) steps ended →
        ⟨.create provisioned, reply⟩ ∈ steps → provisioned.subjects = [stream ++ ".>"]) ∧
      (captures (stream ++ ".>") subject ↔ "" ∉ FieldPath.split reading.device) ∧
      (IsSubject reading.device → captures (stream ++ ".>") subject) ∧
      ∀ device, device ≠ reading.device → subjectOf stream device ≠ subject := by
  obtain ⟨payload, sent, published⟩ := publication_of_owned course owned
  have captured := captures_subjectOf_iff takes token reading.device
  refine ⟨_, payload, sent, published, rfl, isSubject_subjectOf_iff token, ?_, captured,
    fun sound => captured.mpr (not_mem_split_of_isSubject sound), ?_⟩
  · intro steps ended provisioned reply provisioning created
    exact (Stream.subjects_of_course_ensure provisioning created).2
  · exact fun device other => (subjectOf_injective stream).ne other

section Example

/-- Whether tokens match a pattern, in which `*` stands for any token and a last `>` for the rest.
-/
def matchesTokens : List String → List String → Bool
  | [], [] => true
  | [">"], token :: rest => (token :: rest).all (· != "")
  | part :: pattern, token :: rest =>
      token != "" && (part == "*" || part == token) && matchesTokens pattern rest
  | _, _ => false

def capturesTokens (pattern subject : String) : Prop :=
  matchesTokens (FieldPath.split pattern) (FieldPath.split subject) = true

theorem matchesTokens_below_iff (token : IsToken stream) {tokens : List String} :
    matchesTokens [stream, ">"] tokens = true ↔
      ∃ rest, rest ≠ [] ∧ (∀ part ∈ rest, part ≠ "") ∧ tokens = stream :: rest := by
  match tokens with
  | [] => simp [matchesTokens]
  | [first] => simp [matchesTokens]
  | first :: second :: rest =>
      simp only [matchesTokens, token.literal.1, bne_iff_ne, beq_iff_eq, Bool.and_eq_true,
        Bool.or_eq_true, false_or, List.all_eq_true]
      constructor
      · rintro ⟨⟨-, rfl⟩, full⟩
        exact ⟨_, List.cons_ne_nil _ _, full, rfl⟩
      · rintro ⟨_, -, full, same⟩
        obtain ⟨rfl, rfl⟩ := List.cons.inj same
        exact ⟨⟨token.inhabited, rfl⟩, full⟩

theorem takesRest_capturesTokens : TakesRest capturesTokens := by
  intro stream subject token
  have pattern : subjectOf stream ">" = stream ++ ".>" := by
    rw [subjectOf, String.append_assoc]
    rfl
  have below : FieldPath.split (stream ++ ".>") = [stream, ">"] := by
    rw [← pattern, split_subjectOf token, show FieldPath.split ">" = [">"] by decide]
  rw [capturesTokens, below, matchesTokens_below_iff token]
  constructor
  · rintro ⟨rest, some, full, split⟩
    refine ⟨rest, some, fun part member => ⟨full part member, ?_⟩, ?_⟩
    · exact FieldPath.not_mem_of_mem_split (split ▸ List.mem_cons_of_mem _ member)
    · rw [← split, FieldPath.intercalate_split]
  · rintro ⟨rest, some, full, rfl⟩
    refine ⟨rest, some, fun part member => (full part member).1, ?_⟩
    refine FieldPath.split_intercalate (List.cons_ne_nil _ _) (List.forall_mem_cons.mpr ?_)
    exact ⟨token.whole, fun part member => (full part member).2⟩

def readingOf (device : String) : Reading :=
  { timelessReading with device }

theorem complete_readingOf {device : String} (named : device ≠ "") :
    Ingest.Complete "org-1" (readingOf device) :=
  ⟨by decide, named, rfl⟩

/-- A device whose name has two tokens is published within the stream. -/
theorem plant_published_within_stream :
    IsToken "processed_envelopes" ∧
      ∃ exchanges : List (Exchange interface), ∃ payload sent,
        Course (ingest "processed_envelopes" "org-1" (readingOf "plant.7")) exchanges (.ok ()) ∧
          exchanges.filterMap publication? =
            [(⟨"processed_envelopes.plant.7", payload⟩, sent)] ∧
          IsSubject "processed_envelopes.plant.7" ∧
          capturesTokens "processed_envelopes.>" "processed_envelopes.plant.7" := by
  have token : IsToken "processed_envelopes" := by decide
  have complete : Ingest.Complete "org-1" (readingOf "plant.7") := complete_readingOf (by decide)
  obtain ⟨exchanges, course, owned⟩ := exists_course_ingest "processed_envelopes" complete
  obtain ⟨subject, payload, sent, published, rfl, sound, -, -, captured, -⟩ :=
    published_within_stream takesRest_capturesTokens token course owned
  have named : IsSubject "plant.7" := by decide
  exact ⟨token, exchanges, payload, sent, course, published, sound.mpr named, captured named⟩

/-- Names with blanks, wildcards or empty tokens are published under subjects that are not
well-formed. -/
theorem malformed_subjects_published :
    IsToken "processed_envelopes" ∧
      (∀ device ∈ ["sensor 1", ">", "sensor..1"],
        ∃ exchanges : List (Exchange interface), ∃ payload sent,
          Course (ingest "processed_envelopes" "org-1" (readingOf device)) exchanges (.ok ()) ∧
            ⟨.owner device, .ok (some "org-1")⟩ ∈ exchanges ∧
            exchanges.filterMap publication? =
              [(⟨"processed_envelopes." ++ device, payload⟩, sent)] ∧
            ¬IsSubject ("processed_envelopes." ++ device)) ∧
      ∀ captures, TakesRest captures →
        ¬captures "processed_envelopes.>" "processed_envelopes.sensor..1" := by
  have token : IsToken "processed_envelopes" := by decide
  refine ⟨token, fun device listed => ?_, fun captures takes captured => ?_⟩
  · have malformed : ∀ device ∈ ["sensor 1", ">", "sensor..1"],
        device ≠ "" ∧ ¬IsSubject ("processed_envelopes." ++ device) := by decide
    obtain ⟨named, unsound⟩ := malformed device listed
    obtain ⟨exchanges, course, owned⟩ :=
      exists_course_ingest "processed_envelopes" (complete_readingOf named)
    obtain ⟨payload, sent, published⟩ := publication_of_owned course owned
    exact ⟨exchanges, payload, sent, course, owned, published, unsound⟩
  · exact (captures_subjectOf_iff takes token "sensor..1").mp captured (by decide)

end Example

end Gateway
end Telemetry
