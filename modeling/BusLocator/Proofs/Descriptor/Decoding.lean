import BusLocator.Installation.Descriptor
import BusLocator.Proofs.Json.RoundTrip
import BusLocator.Proofs.Text.Encoding
import Mathlib.Tactic.Push
/-!
# What is read from a descriptor file

A descriptor is decoded in two stages, the text as JSON and the JSON as a descriptor, and each stage
has failures of its own. So what comes out is said stage by stage: of a member, of an object, of a
text and of a file. No descriptor, a problem and a descriptor are never taken for each other, and
what a descriptor says depends on the last member with each of the two keys alone
(`load_decodes_format`).
-/

namespace BusLocator.Descriptor

variable {files : FileSystem} {file : Path} {text : String} {fields : Json.Fields}
  {d : Descriptor} {found : Json}

/-- How a member of the object gives a path, or gives none. -/
inductive Gives : Option Json → Option String → Prop
  | absent : Gives none none
  | null : Gives (some .null) none
  | string (path : String) : Gives (some (.string path)) (some path)

/-- The kind of a value, as a message names it. -/
inductive IsKind : Json → String → Prop
  | null : IsKind .null "null"
  | bool (value : Bool) : IsKind (.bool value) "a boolean"
  | number (value : Json.Number) : IsKind (.number value) "a number"
  | string (value : String) : IsKind (.string value) "a string"
  | array (items : List Json) : IsKind (.array items) "an array"

def written (binary library : String) : Json :=
  .object [("INTEGRATIONBUS_BINPATH", .string binary), ("INTEGRATIONBUS_LIBPATH", .string library)]

/-! ### Members -/

theorem stringField_eq_ok_iff {key : String} {path : Option String} :
    stringField key fields = .ok path ↔ Gives (Json.field? key fields) path := by
  rw [stringField]
  generalize Json.field? key fields = member
  constructor
  · intro h
    split at h <;> cases h
    · exact .absent
    · exact .null
    · exact .string _
  · rintro (_ | _ | path) <;> rfl

theorem ofFields_eq_ok_iff :
    ofFields fields = .ok d ↔
      Gives (Json.field? "INTEGRATIONBUS_BINPATH" fields) d.binaryPath ∧
        Gives (Json.field? "INTEGRATIONBUS_LIBPATH" fields) d.libraryPath := by
  rw [← binaryKey, ← libraryKey, ← stringField_eq_ok_iff, ← stringField_eq_ok_iff, ofFields]
  constructor
  · intro h
    obtain ⟨binary, hbinary, h⟩ := Except.bind_eq_ok_iff.1 h
    obtain ⟨library, hlibrary, h⟩ := Except.bind_eq_ok_iff.1 h
    cases h
    exact ⟨hbinary, hlibrary⟩
  · rintro ⟨hbinary, hlibrary⟩
    rw [hbinary, hlibrary]
    rfl

theorem stringField_eq_error_iff (key : String) (fields : Json.Fields) :
    (∃ mismatch, stringField key fields = .error mismatch) ↔
      ∃ value ∈ Json.field? key fields, value ≠ .null ∧ ∀ path, value ≠ .string path := by
  rw [stringField]
  rcases Json.field? key fields with _ | (_ | _ | _ | _ | _ | _) <;> simp

theorem ofFields_eq_error_iff (fields : Json.Fields) :
    (∃ mismatch, ofFields fields = .error mismatch) ↔
      ∃ key ∈ ["INTEGRATIONBUS_BINPATH", "INTEGRATIONBUS_LIBPATH"],
        ∃ value ∈ Json.field? key fields, value ≠ .null ∧ ∀ path, value ≠ .string path := by
  have hbinary := stringField_eq_error_iff binaryKey fields
  have hlibrary := stringField_eq_error_iff libraryKey fields
  simp only [List.mem_cons, List.not_mem_nil, or_false, exists_eq_or_imp, exists_eq_left]
  rw [← binaryKey, ← libraryKey, ← hbinary, ← hlibrary, ofFields]
  cases stringField binaryKey fields with
  | error mismatch => simp [bind, Except.bind]
  | ok binary =>
      cases stringField libraryKey fields <;> simp [bind, Except.bind]

/-! ### Texts -/

theorem parse_eq_ok_iff : parse text = .ok d ↔
    ∃ fields, Json.parse text = .ok (.object fields) ∧ ofFields fields = .ok d := by
  rw [parse]
  cases Json.parse text with
  | error cause => simp
  | ok found =>
      cases found with
      | object fields => simp [Except.mapError_eq_ok_iff]
      | _ => simp

theorem parse_eq_notAnObject_iff : parse text = .error (.notAnObject found) ↔
    Json.parse text = .ok found ∧ ∀ fields, found ≠ .object fields := by
  rw [parse]
  cases Json.parse text with
  | error cause => simp
  | ok value =>
      cases value with
      | object fields =>
          refine iff_of_false (by simp [Except.mapError_eq_error_iff]) ?_
          rintro ⟨hfound, hobject⟩
          exact hobject fields (Except.ok.inj hfound).symm
      | _ =>
          simp only [Except.error.injEq, Problem.notAnObject.injEq, Except.ok.injEq, iff_self_and]
          rintro rfl fields hfields
          contradiction

theorem parse_eq_invalid_iff : (∃ cause, parse text = .error (.invalid cause)) ↔
    (∀ v, Json.parse text ≠ .ok v) ∨ ∃ fields, Json.parse text = .ok (.object fields) ∧
      ∃ mismatch, ofFields fields = .error mismatch := by
  rw [parse]
  cases Json.parse text with
  | error cause => simp
  | ok value =>
      cases value with
      | object fields => simp [Except.mapError_eq_error_iff]
      | _ => simp

theorem ne_empty_of_parse (h : Json.parse text = .ok found) : text ≠ "" := by
  rintro rfl
  exact Json.parse_of_forall_isBlank (fun c hc => absurd hc (by simp)) found h

/-! ### Files -/

theorem load_of_holds (h : files.Holds file text) :
    load files file =
      if text = "" then .ok none else ((parse text).map some).mapError (⟨file, ·⟩) := by
  rw [load, FileSystem.readText_eq_ok_iff_holds.2 h]

theorem load_of_not_holds (h : ∀ text, ¬ files.Holds file text) : load files file = .ok none := by
  rw [load]
  cases hread : files.readText file with
  | error why => rfl
  | ok text => exact absurd (FileSystem.readText_eq_ok_iff_holds.1 hread) (h text)

theorem load_eq_ok_none_iff :
    load files file = .ok none ↔ ∀ text, files.Holds file text → text = "" := by
  constructor
  · intro h text hholds
    by_contra hne
    rw [load_of_holds hholds, if_neg hne, Except.mapError_eq_ok_iff, Except.map_eq_ok_iff] at h
    simp at h
  · intro h
    by_cases hholds : ∃ text, files.Holds file text
    · obtain ⟨text, hholds⟩ := hholds
      rw [load_of_holds hholds, if_pos (h text hholds)]
    · exact load_of_not_holds (not_exists.1 hholds)

theorem load_eq_iff {result : Except DescriptorFault (Option Descriptor)}
    (hresult : result ≠ .ok none) :
    load files file = result ↔ ∃ text, files.Holds file text ∧ text ≠ "" ∧
      ((parse text).map some).mapError (⟨file, ·⟩) = result := by
  constructor
  · intro h
    have hsome : ∃ text, files.Holds file text ∧ text ≠ "" := by
      by_contra hnone
      push Not at hnone
      exact hresult (h.symm.trans (load_eq_ok_none_iff.2 hnone))
    obtain ⟨text, hholds, hne⟩ := hsome
    rw [load_of_holds hholds, if_neg hne] at h
    exact ⟨text, hholds, hne, h⟩
  · rintro ⟨text, hholds, hne, h⟩
    rw [load_of_holds hholds, if_neg hne, h]

theorem load_eq_error_iff {fault : DescriptorFault} : load files file = .error fault ↔
    fault.file = file ∧
      ∃ text, files.Holds file text ∧ text ≠ "" ∧ parse text = .error fault.problem := by
  rw [load_eq_iff (by simp)]
  simp only [Except.mapError_eq_error_iff, Except.map_eq_error_iff]
  constructor
  · rintro ⟨text, hholds, hne, problem, hparse, rfl⟩
    exact ⟨rfl, text, hholds, hne, hparse⟩
  · rintro ⟨rfl, text, hholds, hne, hparse⟩
    exact ⟨text, hholds, hne, fault.problem, hparse, rfl⟩

theorem load_eq_notAnObject_iff : load files file = .error ⟨file, .notAnObject found⟩ ↔
    ∃ text, files.Holds file text ∧ Json.parse text = .ok found ∧
      ∀ fields, found ≠ .object fields := by
  rw [load_eq_error_iff]
  constructor
  · rintro ⟨-, text, hholds, -, hparse⟩
    exact ⟨text, hholds, parse_eq_notAnObject_iff.1 hparse⟩
  · rintro ⟨text, hholds, hjson, hobject⟩
    exact ⟨rfl, text, hholds, ne_empty_of_parse hjson,
      parse_eq_notAnObject_iff.2 ⟨hjson, hobject⟩⟩

theorem load_eq_invalid_iff : (∃ cause, load files file = .error ⟨file, .invalid cause⟩) ↔
    ∃ text, files.Holds file text ∧ text ≠ "" ∧
      ((∀ v, Json.parse text ≠ .ok v) ∨
        ∃ fields, Json.parse text = .ok (.object fields) ∧
          ∃ key ∈ ["INTEGRATIONBUS_BINPATH", "INTEGRATIONBUS_LIBPATH"],
            ∃ v ∈ Json.field? key fields, v ≠ .null ∧ ∀ path, v ≠ .string path) := by
  simp only [load_eq_error_iff, true_and, ← ofFields_eq_error_iff, ← parse_eq_invalid_iff]
  constructor
  · rintro ⟨cause, text, hholds, hne, hparse⟩
    exact ⟨text, hholds, hne, cause, hparse⟩
  · rintro ⟨text, hholds, hne, cause, hparse⟩
    exact ⟨cause, text, hholds, hne, hparse⟩

theorem load_eq_ok_some_iff : load files file = .ok (some d) ↔
    ∃ text fields, files.Holds file text ∧ Json.parse text = .ok (.object fields) ∧
      Gives (Json.field? "INTEGRATIONBUS_BINPATH" fields) d.binaryPath ∧
      Gives (Json.field? "INTEGRATIONBUS_LIBPATH" fields) d.libraryPath := by
  rw [load_eq_iff (by simp)]
  simp only [Except.mapError_eq_ok_iff, Except.map_eq_ok_iff, Option.some.injEq, exists_eq_right,
    parse_eq_ok_iff, ofFields_eq_ok_iff]
  constructor
  · rintro ⟨text, hholds, -, fields, h⟩
    exact ⟨text, fields, hholds, h⟩
  · rintro ⟨text, fields, hholds, hjson, h⟩
    exact ⟨text, hholds, ne_empty_of_parse hjson, fields, hjson, h⟩

theorem message_of_isKind {kind : String} (h : IsKind found kind) (file : Path) :
    (DescriptorFault.mk file (.notAnObject found)).message =
      "Installation configuration '" ++ file.display ++ "' invalid ('" ++
        "expected a JSON object, found " ++ kind ++ "')" := by
  obtain rfl : Descriptor.kind found = kind := by cases h <;> rfl
  exact congrArg (· ++ "')") String.append_assoc.symm

theorem paths?_eq_some_iff {binary library : String} : d.paths? = some (binary, library) ↔
    d = ⟨some binary, some library⟩ ∧ binary ≠ "" ∧ library ≠ "" := by
  obtain ⟨binaryPath, libraryPath⟩ := d
  cases binaryPath with
  | none => simp [paths?]
  | some b =>
      cases libraryPath with
      | none => simp [paths?]
      | some l =>
          change (if b = "" ∨ l = "" then none else some (b, l)) = _ ↔ _
          split_ifs with hempty
          · refine iff_of_false (by simp) ?_
            rintro ⟨hd, hb, hl⟩
            cases hd
            exact hempty.elim hb hl
          · simp only [Option.some.injEq, Prod.mk.injEq, Descriptor.mk.injEq, iff_self_and]
            rintro ⟨rfl, rfl⟩
            exact not_or.1 hempty

/-! ### Whole files -/

theorem load_of_members {members : List (String × List Char)} {value : List Char → Json}
    (hvalue : ∀ member ∈ members, Json.Spells 126 member.2 (value member.2))
    (hholds : files.Holds file (String.ofList (Json.objectText members))) :
    load files file = .ok (some d) ↔
      Gives ((members.reverse.lookup "INTEGRATIONBUS_BINPATH").map value) d.binaryPath ∧
        Gives ((members.reverse.lookup "INTEGRATIONBUS_LIBPATH").map value) d.libraryPath := by
  have hjson := Json.parse_objectText hvalue
  rw [load_of_holds hholds, if_neg (ne_empty_of_parse hjson), Except.mapError_eq_ok_iff,
    Except.map_eq_ok_iff]
  simp only [Option.some.injEq, exists_eq_right, parse_eq_ok_iff, hjson, Except.ok.injEq,
    Json.object.injEq, exists_eq_left', ofFields_eq_ok_iff, Json.field?_gather]

theorem load_of_written {binary library : String} (hbinary : binary ≠ "") (hlibrary : library ≠ "")
    (hholds : files.Holds file (written binary library).compact ∨
      files.Holds file (written binary library).pretty) :
    ∃ d, load files file = .ok (some d) ∧ d.paths? = some (binary, library) := by
  have hregular : Json.Regular Json.Number.IsWhole Json.depthLimit (written binary library) := by
    have hkeys : "INTEGRATIONBUS_BINPATH" < "INTEGRATIONBUS_LIBPATH" := by decide +kernel
    refine .object (by simpa [Json.Ascending] using hkeys) fun field hfield => ?_
    simp only [List.mem_cons, List.not_mem_nil, or_false] at hfield
    rcases hfield with rfl | rfl <;> exact .string _
  have htext : ∃ text, files.Holds file text ∧ Json.parse text = .ok (written binary library) := by
    rcases hholds with hholds | hholds
    · refine ⟨_, hholds, Json.parse_of_spells ?_⟩
      rw [Json.compact, String.toList_ofList]
      exact Json.spells_writeCompact hregular
    · refine ⟨_, hholds, Json.parse_of_spells ?_⟩
      rw [Json.pretty, String.toList_ofList]
      exact Json.spells_writeIndented hregular 0
  obtain ⟨text, hholds, hjson⟩ := htext
  refine ⟨⟨some binary, some library⟩, ?_, paths?_eq_some_iff.2 ⟨rfl, hbinary, hlibrary⟩⟩
  exact load_eq_ok_some_iff.2 ⟨text, _, hholds, hjson, .string binary, .string library⟩

/-- A descriptor file is absent, no object, invalid or read, by its text and nothing else. -/
theorem load_decodes_format (files : FileSystem) (file : Path) :
    (load files file = .ok none ↔ ∀ text, files.Holds file text → text = "") ∧
    (∀ found, load files file = .error ⟨file, .notAnObject found⟩ ↔
      ∃ text, files.Holds file text ∧ Json.parse text = .ok found ∧
        ∀ fields, found ≠ .object fields) ∧
    (∀ found kind, IsKind found kind →
      (DescriptorFault.mk file (.notAnObject found)).message =
        "Installation configuration '" ++ file.display ++ "' invalid ('" ++
          "expected a JSON object, found " ++ kind ++ "')") ∧
    ((∃ cause, load files file = .error ⟨file, .invalid cause⟩) ↔
      ∃ text, files.Holds file text ∧ text ≠ "" ∧
        ((∀ v, Json.parse text ≠ .ok v) ∨
          ∃ fields, Json.parse text = .ok (.object fields) ∧
            ∃ key ∈ ["INTEGRATIONBUS_BINPATH", "INTEGRATIONBUS_LIBPATH"],
              ∃ v ∈ Json.field? key fields, v ≠ .null ∧ ∀ path, v ≠ .string path)) ∧
    (∀ text, files.Holds file text → text ≠ "" → (∀ c ∈ text.toList, isBlank c = true) →
      ∃ cause, load files file = .error ⟨file, .invalid cause⟩) ∧
    (∀ fault, load files file = .error fault → fault.file = file) ∧
    (∀ d, load files file = .ok (some d) ↔
      ∃ text fields, files.Holds file text ∧ Json.parse text = .ok (.object fields) ∧
        Gives (Json.field? "INTEGRATIONBUS_BINPATH" fields) d.binaryPath ∧
        Gives (Json.field? "INTEGRATIONBUS_LIBPATH" fields) d.libraryPath) ∧
    (∀ (members : List (String × List Char)) (value : List Char → Json),
      (∀ member ∈ members, Json.Spells 126 member.2 (value member.2)) →
      files.Holds file (String.ofList (Json.objectText members)) →
      ∀ d, load files file = .ok (some d) ↔
        Gives ((members.reverse.lookup "INTEGRATIONBUS_BINPATH").map value) d.binaryPath ∧
        Gives ((members.reverse.lookup "INTEGRATIONBUS_LIBPATH").map value) d.libraryPath) ∧
    (∀ (d : Descriptor) (binary library : String), d.paths? = some (binary, library) ↔
      d = ⟨some binary, some library⟩ ∧ binary ≠ "" ∧ library ≠ "") ∧
    ∀ binary library, binary ≠ "" → library ≠ "" →
      (files.Holds file (written binary library).compact ∨
        files.Holds file (written binary library).pretty) →
      ∃ d, load files file = .ok (some d) ∧ d.paths? = some (binary, library) := by
  refine ⟨load_eq_ok_none_iff, fun found => load_eq_notAnObject_iff,
    fun found kind h => message_of_isKind h file, load_eq_invalid_iff, ?_,
    fun fault h => (load_eq_error_iff.1 h).1, fun d => load_eq_ok_some_iff,
    fun members value hvalue hholds d => load_of_members hvalue hholds,
    fun d binary library => paths?_eq_some_iff,
    fun binary library hbinary hlibrary hholds => load_of_written hbinary hlibrary hholds⟩
  intro text hholds hne hblank
  exact load_eq_invalid_iff.2 ⟨text, hholds, hne, .inl (Json.parse_of_forall_isBlank hblank)⟩

/-- The two keys among others and out of order, one of them twice and first with a number. -/
theorem load_decodes_format_repeatedKey :
    let file := Path.ofString "/bus/data/IbInstallation.json"
    let members : List (String × List Char) :=
      [("INTEGRATIONBUS_LIBPATH", Json.quote "/lib"), ("INTEGRATIONBUS_BINPATH", ['7']),
        ("Other", ['[', 'n', 'u', 'l', 'l', ']']), ("INTEGRATIONBUS_BINPATH", Json.quote "/bin")]
    let files : FileSystem := ⟨fun p =>
      if p = file then .file (Utf8.ofString (String.ofList (Json.objectText members)))
      else .absent .notFound⟩
    load files file = .ok (some ⟨some "/bin", some "/lib"⟩) := by
  intro file members files
  let value (text : List Char) : Json :=
    if text = ['7'] then .number (.integer 7)
    else if text = ['[', 'n', 'u', 'l', 'l', ']'] then .array [.null]
    else if text = Json.quote "/lib" then .string "/lib"
    else .string "/bin"
  have hvalue : ∀ member ∈ members, Json.Spells 126 member.2 (value member.2) := by
    intro member hmember
    simp only [members, List.mem_cons, List.not_mem_nil, or_false] at hmember
    rcases hmember with rfl | rfl | rfl | rfl <;> rfl
  have hholds : files.Holds file (String.ofList (Json.objectText members)) := by
    simp only [FileSystem.Holds, files, if_true]
  obtain ⟨-, -, -, -, -, -, -, hmembers, -, -⟩ := load_decodes_format files file
  refine (hmembers members value hvalue hholds _).2 ⟨?_, ?_⟩
  · exact .string "/bin"
  · exact .string "/lib"

end BusLocator.Descriptor
