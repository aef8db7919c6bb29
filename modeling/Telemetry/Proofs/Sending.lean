import Mathlib.Data.List.TakeWhile
import Telemetry.Store.Client

/-!
# What can be sent to the store

A text without question marks is sent as it is.  A request is sent at all when its URL is good and
its credentials fit into header lines, and what the statement is cannot make a URL bad: its bytes
are written in plain characters, and a long one is not part of the URL.
-/

namespace Telemetry

theorem eq_ok_of_toOption {ε α : Type} {result : Except ε α} {value : α}
    (found : result.toOption = some value) : result = .ok value := by
  cases result with
  | error fault => cases found
  | ok other => exact congrArg Except.ok (Option.some.inj found)

namespace Percent

/-- Whether a character is one byte and may stand in the query of a URI. -/
def isPlain (character : Char) : Bool :=
  Uri.isQueryCharacter character && character.toNat < 0x7F

/-- A byte of a name or a value, as a form writes it. -/
def formOf (byte : UInt8) : List Char :=
  let character := Char.ofNat byte.toNat
  if character = ' ' then ['+']
  else if character.isAlphanum ∨ character ∈ ['*', '-', '.', '_'] then [character]
  else encodeByte byte

theorem formOf_spec (byte : UInt8) :
    (formOf byte).all isPlain = true ∧ (formOf byte).length ≤ 3 := by
  have every : ∀ value < 256, (formOf (UInt8.ofNat value)).all isPlain = true ∧
      (formOf (UInt8.ofNat value)).length ≤ 3 := by
    decide +kernel
  have found := every byte.toNat byte.toNat_lt
  rwa [UInt8.ofNat_toNat] at found

theorem all_isPlain_encodeForm (text : String) : (encodeForm text).all isPlain = true := by
  have whole : encodeForm text = (textBytes text).flatMap formOf := rfl
  rw [whole, List.all_flatMap, List.all_eq_true]
  intro byte _
  exact (formOf_spec byte).1

theorem length_encodeForm_le (text : String) :
    (encodeForm text).length ≤ 3 * text.utf8ByteSize := by
  have bounded (bytes : Bytes) : (bytes.flatMap formOf).length ≤ 3 * bytes.length := by
    induction bytes with
    | nil => exact Nat.le_refl 0
    | cons byte rest ih =>
        have one := (formOf_spec byte).2
        rw [List.flatMap_cons, List.length_append, List.length_cons]
        omega
  exact bounded (textBytes text)

/-- A bound on the characters that names and values are written in. -/
def formSize : List (String × String) → Nat
  | [] => 0
  | (name, value) :: rest => 3 * (name.utf8ByteSize + value.utf8ByteSize) + 2 + formSize rest

/-- Names and values are written in plain characters, and not in too many. -/
theorem encodePairs_spec (pairs : List (String × String)) :
    (encodePairs pairs).all isPlain = true ∧ (encodePairs pairs).length ≤ formSize pairs := by
  have one (pair : String × String) :
      (encodeForm pair.1 ++ '=' :: encodeForm pair.2).all isPlain = true ∧
        (encodeForm pair.1 ++ '=' :: encodeForm pair.2).length ≤
          3 * (pair.1.utf8ByteSize + pair.2.utf8ByteSize) + 1 := by
    have name := length_encodeForm_le pair.1
    have value := length_encodeForm_le pair.2
    refine ⟨?_, ?_⟩
    · rw [List.all_append, List.all_cons, all_isPlain_encodeForm, all_isPlain_encodeForm]
      decide
    · rw [List.length_append, List.length_cons]
      omega
  rw [encodePairs]
  induction pairs with
  | nil => exact ⟨rfl, Nat.le_refl 0⟩
  | cons pair rest ih =>
      obtain ⟨plain, bounded⟩ := one pair
      cases rest with
      | nil =>
          simp only [List.map_cons, List.map_nil, List.intercalate_singleton, formSize]
          exact ⟨plain, Nat.le_trans bounded (Nat.le_succ _)⟩
      | cons next rest =>
          rw [List.map_cons] at ih
          rw [List.map_cons, List.map_cons, List.intercalate_cons_cons, formSize]
          refine ⟨?_, ?_⟩
          · rw [List.all_append, List.all_append, plain, ih.1]
            decide
          · rw [List.length_append, List.length_append, List.length_singleton]
            exact Nat.add_le_add (Nat.succ_le_succ bounded) ih.2

end Percent

namespace Uri

theorem utf8ByteSize_ofList {text : List Char} (plain : text.all Percent.isPlain = true) :
    (String.ofList text).utf8ByteSize = text.length := by
  induction text with
  | nil => rfl
  | cons character rest ih =>
      rw [List.all_cons, Bool.and_eq_true] at plain
      have small : character.utf8Size = 1 := by
        rw [Char.utf8Size_eq_one_iff, UInt32.le_iff_toNat_le]
        have below : character.toNat < 0x7F := by
          simpa [Percent.isPlain] using (Bool.and_eq_true_iff.mp plain.1).2
        exact Nat.le_of_lt below
      rw [String.ofList_cons, String.utf8ByteSize_append, String.utf8ByteSize_singleton, small,
        ih plain.2, List.length_cons, Nat.add_comm]

theorem checkPath_of_plain {query : List Char} (plain : query.all Percent.isPlain = true) :
    checkPath ('/' :: '?' :: query) = .ok () := by
  have apart : ∀ character ∈ query, (character != '#') = true := by
    intro character member
    have kept := List.all_eq_true.mp plain character member
    rw [bne_iff_ne]
    rintro rfl
    exact absurd kept (by decide)
  have whole : ('/' :: '?' :: query).takeWhile (· != '#') = '/' :: '?' :: query := by
    rw [List.takeWhile_eq_self_iff]
    simpa using apart
  have allowed : query.all isQueryCharacter = true := by
    rw [List.all_eq_true] at plain ⊢
    exact fun character member => (Bool.and_eq_true_iff.mp (plain character member)).1
  rw [checkPath, whole]
  simp [allowed]
  decide

end Uri

namespace Store

theorem pieces_append_of_plain {text : List Char} (plain : '?' ∉ text) (rest : List Char) :
    pieces (text ++ rest) = text.map Piece.character ++ pieces rest := by
  induction text with
  | nil => rfl
  | cons character text ih =>
      have mark : character ≠ '?' := fun same => plain (same ▸ List.mem_cons_self)
      rw [List.cons_append, pieces, ih fun member => plain (List.mem_cons_of_mem _ member)]
      · rfl
      · rintro other rfl
        exact absurd rfl mark
      · rintro rfl
        exact absurd rfl mark

theorem substitute_append (columns : String) (text : List Char) (rest : List Piece)
    (literals : List String) :
    substitute columns (text.map Piece.character ++ rest) literals =
      (substitute columns rest literals).map (text ++ ·) := by
  induction text with
  | nil =>
      rw [List.map_nil, List.nil_append]
      cases substitute columns rest literals <;> rfl
  | cons character text ih =>
      rw [List.map_cons, List.cons_append, substitute, ih]
      cases substitute columns rest literals <;> rfl

theorem bind_of_plain {text : String} (plain : '?' ∉ text.toList) (columns : String) :
    bind text columns [] = .ok text := by
  have parts := pieces_append_of_plain plain []
  rw [List.append_nil] at parts
  rw [bind, parts, substitute_append, pieces, List.map_nil, substitute]
  simp [Except.map]

theorem check_eq_ok {access : Access} {request : Request}
    (user : fitsHeader access.user = true) (password : fitsHeader access.password = true)
    (address : (access.urlOf request).toOption.any (·.scheme == "http") = true) :
    access.check request = .ok () := by
  rw [Access.check]
  cases found : access.urlOf request with
  | error problem => simp [found, Except.toOption] at address
  | ok url =>
      have scheme : url.scheme = "http" := by simpa [found, Except.toOption] using address
      simp [Bind.bind, Except.bind, user, password, scheme]

/-- The text that asks for a table's columns. -/
def descriptionText (table : String) : String :=
  "DESCRIBE TABLE " ++ quotedName table

theorem describe_eq_ok {access : Access} {table : String}
    (plain : '?' ∉ (descriptionText table).toList)
    (sendable : access.check ⟨descriptionText table, [("describe_include_subcolumns", "0")]⟩ =
      .ok ()) :
    describe access table = .ok (descriptionText table) := by
  rw [descriptionText] at plain sendable
  rw [describe, bind_of_plain plain]
  simp only [Except.bind, Bind.bind, sendable, descriptionText]

def localAccess : Access := ⟨"http://[::1]:8123", "default", "default", ""⟩

def localUrl : Url :=
  { scheme := "http"
    user := ""
    password := ""
    host := some (.six [0, 0, 0, 0, 0, 0, 0, 1])
    port := some 8123
    path := .segments [""]
    query := none
    fragment := none }

theorem read_localAccess : Url.read localAccess.url = .ok localUrl :=
  eq_ok_of_toOption (by decide +kernel)

theorem write_localUrl (pairs : List (String × String)) :
    (localUrl.withPairs pairs).write =
      "http://[::1]:8123/?" ++ String.ofList (Percent.encodePairs pairs) := by
  have base : "http" ++ ":" ++ localUrl.writeAuthority ++ localUrl.writePath ++ "?" =
      "http://[::1]:8123/?" := by
    decide +kernel
  have whole : (localUrl.withPairs pairs).write =
      "http" ++ ":" ++ localUrl.writeAuthority ++ localUrl.writePath ++
        ("?" ++ String.ofList (Percent.encodePairs pairs)) ++ "" := rfl
  rw [whole, String.append_empty, ← String.append_assoc, base]

theorem size_localAccess_pairs (text : String) :
    Percent.formSize (localAccess.pairs (.of text)) ≤ 40000 := by
  have sizes : "database".utf8ByteSize = 8 ∧ "default".utf8ByteSize = 7 ∧
      "default_format".utf8ByteSize = 14 ∧ "RowBinaryWithNamesAndTypes".utf8ByteSize = 26 ∧
      "query".utf8ByteSize = 5 ∧ "readonly".utf8ByteSize = 8 ∧ "compress".utf8ByteSize = 8 ∧
      "1".utf8ByteSize = 1 := by
    decide
  rw [Access.pairs, Request.of]
  by_cases short : text.utf8ByteSize ≤ statementLimit
  · rw [if_pos short]
    rw [statementLimit] at short
    simp only [localAccess, List.cons_append, List.nil_append, Percent.formSize, sizes]
    omega
  · rw [if_neg short]
    simp only [localAccess, List.cons_append, List.nil_append, Percent.formSize, sizes]
    omega

/-- Any statement can be sent to the store on this machine. -/
theorem check_localAccess (text : String) : localAccess.check (.of text) = .ok () := by
  obtain ⟨plain, bounded⟩ := Percent.encodePairs_spec (localAccess.pairs (.of text))
  have sound : Uri.check (localUrl.withPairs (localAccess.pairs (.of text))).write = .ok () := by
    have short : ¬Uri.lengthLimit <
        (localUrl.withPairs (localAccess.pairs (.of text))).write.utf8ByteSize := by
      have room := size_localAccess_pairs text
      have base : "http://[::1]:8123/?".utf8ByteSize = 19 := by decide
      rw [write_localUrl, String.utf8ByteSize_append, Uri.utf8ByteSize_ofList plain,
        Uri.lengthLimit, base]
      omega
    have characters : (localUrl.withPairs (localAccess.pairs (.of text))).write.toList =
        "http://[::1]:8123/?".toList ++ Percent.encodePairs (localAccess.pairs (.of text)) := by
      rw [write_localUrl, String.toList_append]
      exact congrArg _ String.toList_ofList
    rw [Uri.check, if_neg short, characters]
    exact Uri.checkPath_of_plain plain
  refine check_eq_ok ?_ ?_ ?_
  · simp [fitsHeader, localAccess]
  · simp [fitsHeader, localAccess]
  · rw [Access.urlOf, read_localAccess]
    simp [Bind.bind, Except.bind, sound, Except.toOption]
    rfl

theorem describe_localAccess : describe localAccess "t" = .ok (descriptionText "t") := by
  refine describe_eq_ok (by decide +kernel) (check_eq_ok ?_ ?_ ?_)
  · simp [fitsHeader, localAccess]
  · simp [fitsHeader, localAccess]
  · decide +kernel

end Store
end Telemetry
