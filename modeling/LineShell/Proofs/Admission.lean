/-
  LineShell/Proofs/Admission.lean
  ===============================
  **Which documents are configurations.**

  A configuration file is meant to hold a mapping or nothing.  A mapping is read by its
  fields, and a document without content gives the defaults.  But the loading asks for
  content before it asks for the kind of the document, and so more than null counts as
  no content: `Value.Void` lists the values in question, such as an empty list or the
  number zero.

  `load_admits` says which documents are rejected for their kind: all that are no
  mappings, except for these.
-/
import LineShell.Proofs.Startup

namespace LineShell

/-! ### Values without content -/

/-- A value that is no mapping and has nothing in it. -/
inductive Value.Void : Value → Prop
  | null : Void .null
  | no : Void (.bool false)
  | zero : Void (.int 0)
  | zeroFloat (negative : Bool) (exponent : Int) : Void (.float (.finite negative 0 exponent))
  | emptyText : Void (.text [])
  | noBytes : Void (.bytes [])
  | emptyList : Void (.list [])
  | emptySet : Void (.set [])

theorem Binary64.isZero_iff {x : Binary64} :
    x.isZero = true ↔ ∃ negative exponent, x = .finite negative 0 exponent := by
  cases x <;> simp [isZero]

theorem Value.isBlank_iff {v : Value} : v.isBlank = true ↔ v.Void ∨ v = .mapping [] := by
  constructor
  · intro h
    cases v with
    | null => exact Or.inl .null
    | bool b =>
      obtain rfl : b = false := by simpa [isBlank] using h
      exact Or.inl .no
    | int n =>
      obtain rfl : n = 0 := by simpa [isBlank] using h
      exact Or.inl .zero
    | float x =>
      obtain ⟨negative, exponent, rfl⟩ := Binary64.isZero_iff.mp h
      exact Or.inl (.zeroFloat negative exponent)
    | text t =>
      obtain rfl := List.isEmpty_iff.mp h
      exact Or.inl .emptyText
    | bytes content =>
      obtain rfl := List.isEmpty_iff.mp h
      exact Or.inl .noBytes
    | list items =>
      obtain rfl := List.isEmpty_iff.mp h
      exact Or.inl .emptyList
    | mapping fields =>
      obtain rfl := List.isEmpty_iff.mp h
      exact Or.inr rfl
    | set items =>
      obtain rfl := List.isEmpty_iff.mp h
      exact Or.inl .emptySet
    | date d => cases h
    | moment m => cases h
    | pair a b => cases h
    | loop kind => cases h
  · rintro (h | rfl)
    · cases h <;> rfl
    · rfl

/-! ### Loading a document -/

namespace Config

variable {homes : Homes}

theorem ofFields_nil : ofFields homes [] = .ok .default := rfl

theorem textFields_of_texts (entries : List (Text × Value)) :
    textFields (entries.map fun (t, v) => (.text t, v)) = some entries := by
  induction entries with
  | nil => rfl
  | cons entry rest ih => rw [List.map_cons, textFields, ih, Option.map_some]

theorem ofValue_void {v : Value} (h : v.Void) : ofValue homes v = .ok .default := by
  unfold ofValue
  rw [if_pos (Value.isBlank_iff.mpr (Or.inl h)), ofFields_nil]
  rfl

theorem ofValue_of_ne_mapping {v : Value} (hkind : ∀ fields, v ≠ .mapping fields)
    (hvoid : ¬ v.Void) : ofValue homes v = .error (.notMapping v.typeName) := by
  have hblank : ¬ v.isBlank = true := by
    intro h
    exact (Value.isBlank_iff.mp h).elim hvoid (hkind [])
  unfold ofValue
  rw [if_neg hblank]
  split
  · next fields => exact absurd rfl (hkind fields)
  · rfl

theorem ofFields_ne_notMapping {entries : List (Text × Value)} (typeName : String) :
    (ofFields homes entries).mapError LoadFault.config ≠ .error (.notMapping typeName) := by
  cases ofFields homes entries <;> simp [Except.mapError]

theorem ofBytes_of_document {content : List UInt8} {v : Value}
    (h : Yaml.document (.ofBytes content) = .ok v) : ofBytes homes content = ofValue homes v := by
  unfold ofBytes
  rw [h]

/-- What becomes of a document, by its value. -/
structure Admission (homes : Homes) (v : Value) (loaded : Except LoadFault Config) : Prop where
  /-- A mapping from texts is read by its fields. -/
  mapping : ∀ entries : List (Text × Value), v = .mapping (entries.map fun (t, x) => (.text t, x)) →
    loaded = (ofFields homes entries).mapError .config
  foreignKey : ∀ fields, v = .mapping fields → (∃ field ∈ fields, ∀ t, field.1 ≠ .text t) →
    loaded = .error .keyNotText
  /-- Null gives the defaults, and so does any other value without content. -/
  void : v.Void → loaded = .ok .default
  /-- All else is rejected for its kind, and nothing but that. -/
  rejected : loaded = .error (.notMapping v.typeName) ↔ (∀ fields, v ≠ .mapping fields) ∧ ¬ v.Void

theorem ofValue_admission (v : Value) : Admission homes v (ofValue homes v) := by
  constructor
  case mapping =>
    rintro entries rfl
    rw [ofValue_mapping, textFields_of_texts]
  case foreignKey =>
    rintro fields rfl hforeign
    rw [ofValue_mapping, textFields_eq_none_iff.mpr hforeign]
  case void => exact ofValue_void
  case rejected =>
    constructor
    · intro h
      constructor
      · rintro fields rfl
        rw [ofValue_mapping] at h
        split at h
        · exact ofFields_ne_notMapping _ h
        · cases h
      · intro hvoid
        cases (ofValue_void hvoid).symm.trans h
    · rintro ⟨hkind, hvoid⟩
      exact ofValue_of_ne_mapping hkind hvoid

end Config

open Config in
/-- A configuration file is judged by the value of its document alone. -/
theorem load_admits {homes : Homes} {files : Files} {name : Text} {content : List UInt8} {v : Value}
    (hreads : Reads files name content) (hdocument : Yaml.document (.ofBytes content) = .ok v) :
    Admission homes v (load homes files name) := by
  rw [load_of_reads hreads, ofBytes_of_document hdocument]
  exact ofValue_admission v

/-! ### Documents that are lists -/

/-- There is one file `f`, with this content. -/
def Files.single (content : Text) : Files :=
  ⟨[], [([Text.ofString "f"], .file content.encode)]⟩

/-- The kind of the document, and whether it has content. -/
def Yaml.kindOf (content : Text) : Option (String × Bool) :=
  (document (.ofBytes content.encode)).toOption.map fun v => (v.typeName, v.isBlank)

theorem Yaml.exists_document {content : Text} {typeName : String} {blank : Bool}
    (h : kindOf content = some (typeName, blank)) :
    ∃ v, document (.ofBytes content.encode) = .ok v ∧ v.typeName = typeName ∧ v.isBlank = blank := by
  unfold kindOf at h
  cases hdocument : document (.ofBytes content.encode) with
  | error f => simp [hdocument, Except.toOption] at h
  | ok v =>
    rw [hdocument] at h
    obtain ⟨htype, hblank⟩ := Prod.mk.inj (Option.some.inj h)
    exact ⟨v, rfl, htype, hblank⟩

open Config in
/-- The file holds a list of one directory. -/
theorem listDocument_rejected :
    let homes : Homes := ⟨Text.ofString "/", fun _ => none⟩
    let content := Text.ofString "- /bin\n"
    let name := Text.ofString "f"
    ∃ v, Reads (.single content) name content.encode ∧
      Yaml.document (.ofBytes content.encode) = .ok v ∧
      Admission homes v (load homes (.single content) name) ∧
      load homes (.single content) name = .error (.notMapping "list") := by
  intro homes content name
  have hreads : Reads (.single content) name content.encode :=
    ⟨by decide +kernel, by decide +kernel⟩
  have hkind : Yaml.kindOf content = some ("list", false) := by decide +kernel
  obtain ⟨v, hdocument, htype, hblank⟩ := Yaml.exists_document hkind
  have hadmission : Admission homes v (load homes (.single content) name) :=
    load_admits hreads hdocument
  have hmapping : ∀ fields, v ≠ .mapping fields := by
    rintro fields rfl
    simp [Value.typeName] at htype
  have hvoid : ¬ v.Void := by
    intro hvoid
    cases hblank.symm.trans (Value.isBlank_iff.mpr (Or.inl hvoid))
  have hrejected := hadmission.rejected.mpr ⟨hmapping, hvoid⟩
  exact ⟨v, hreads, hdocument, hadmission,
    hrejected.trans (congrArg (fun kind => Except.error (LoadFault.notMapping kind)) htype)⟩

open Config in
/-- The file holds a list as well, only an empty one, and it gives the defaults. -/
theorem emptyList_gives_defaults :
    let homes : Homes := ⟨Text.ofString "/", fun _ => none⟩
    let content := Text.ofString "[]\n"
    Yaml.document (.ofBytes content.encode) = .ok (.list []) ∧
      load homes (.single content) (Text.ofString "f") = .ok .default := by
  intro homes content
  have hkind : Yaml.kindOf content = some ("list", true) := by decide +kernel
  obtain ⟨v, hdocument, htype, hblank⟩ := Yaml.exists_document hkind
  have hlist : v = .list [] := by
    rcases Value.isBlank_iff.mp hblank with hvoid | rfl
    · cases hvoid with
      | emptyList => rfl
      | _ => simp [Value.typeName] at htype
    · simp [Value.typeName] at htype
  exact ⟨hdocument.trans (congrArg Except.ok hlist), by decide +kernel⟩

end LineShell
