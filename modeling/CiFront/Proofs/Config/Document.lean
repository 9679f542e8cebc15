import CiFront.Config
import CiFront.Proofs.Parameter.Document
/-!
# Documents of a configuration

A document holds no key but those of the fields, and under them texts. Its layer holds, for each field,
what stands under the key of that field.
-/

namespace CiFront.Config

/-! ### Fields -/

/-- The fields of a configuration, each with its key in a document and its variable in an environment. -/
inductive Field where
  | contextPath
  | resourceRoot
  | locale

/-- The key of a field in a document. -/
def Field.key : Field → String
  | contextPath => "context_path"
  | resourceRoot => "resource_root"
  | locale => "locale"

/-- The variable of a field in an environment. -/
def Field.variableName : Field → String
  | contextPath => "CIX_CONTEXT_PATH"
  | resourceRoot => "CIX_RESOURCE_ROOT"
  | locale => "CIX_LOCALE"

/-- A document holds no key but those of the fields, and under them texts. -/
structure IsWellFormed (document : Toml.Table) : Prop where
  keys : ∀ key ∈ document.map Prod.fst, ∃ field : Field, key = field.key
  texts : ∀ (field : Field) (value : Toml.Value), document.lookup field.key = some value →
    ∃ text, value = .text text

/-- What a layer names for a field. -/
def Layer.text? (layer : Layer) : Field → Option String
  | .contextPath => layer.contextPath
  | .resourceRoot => layer.resourceRoot
  | .locale => layer.locale

theorem Field.forall_iff {P : Field → Prop} :
    (∀ field, P field) ↔ P .contextPath ∧ P .resourceRoot ∧ P .locale := by
  constructor
  · intro h
    exact ⟨h .contextPath, h .resourceRoot, h .locale⟩
  · intro h field
    obtain ⟨hpath, hroot, hlocale⟩ := h
    cases field with
    | contextPath => exact hpath
    | resourceRoot => exact hroot
    | locale => exact hlocale

/-! ### Reading a document -/

variable {document : Toml.Table} {layer : Layer}

theorem mem_documentKeys_iff {key : String} :
    key ∈ documentKeys ↔ ∃ field : Field, key = field.key := by
  constructor
  · intro h
    simp only [documentKeys, List.mem_cons, List.not_mem_nil, or_false] at h
    obtain h | h | h := h
    · exact ⟨.contextPath, h⟩
    · exact ⟨.resourceRoot, h⟩
    · exact ⟨.locale, h⟩
  · intro h
    obtain ⟨field, hkey⟩ := h
    rw [hkey]
    cases field <;> decide

theorem documentText?_eq_some_iff {key : String} {text : Option String} :
    documentText? document key = some text ↔ document.lookup key = text.map .text := by
  unfold documentText?
  cases document.lookup key with
  | none => cases text <;> simp
  | some value =>
    cases text with
    | none => simp
    | some text => simp [Toml.Value.text?_eq_some_iff]

/-- The layer of a document holds what stands under each key. -/
theorem Layer.ofToml?_eq_some_iff :
    Layer.ofToml? document = some layer
      ↔ (∀ key ∈ document.map Prod.fst, ∃ field : Field, key = field.key)
        ∧ ∀ field : Field, document.lookup field.key = (layer.text? field).map .text := by
  have hkeys : (∀ key ∈ document.map Prod.fst, ∃ field : Field, key = field.key)
      ↔ ∀ entry ∈ document, documentKeys.contains entry.1 = true := by
    simp only [List.contains_iff_mem, mem_documentKeys_iff, List.forall_mem_map]
  have htexts : (∀ field : Field, document.lookup field.key = (layer.text? field).map .text)
      ↔ documentText? document "context_path" = some layer.contextPath
        ∧ documentText? document "resource_root" = some layer.resourceRoot
        ∧ documentText? document "locale" = some layer.locale := by
    simp only [documentText?_eq_some_iff]
    exact Field.forall_iff
  rw [htexts, hkeys, Layer.ofToml?]
  split
  · rename_i hall
    rw [List.all_eq_true] at hall
    simp only [Option.bind_eq_bind, Option.pure_def, Option.bind_eq_some_iff, Option.some.injEq]
    constructor
    · intro h
      obtain ⟨path, hpath, root, hroot, locale, hlocale, hlayer⟩ := h
      rw [← hlayer]
      exact ⟨hall, hpath, hroot, hlocale⟩
    · intro h
      obtain ⟨-, hpath, hroot, hlocale⟩ := h
      exact ⟨_, hpath, _, hroot, _, hlocale, rfl⟩
  · rename_i hall
    constructor
    · intro h
      cases h
    · intro h
      exact absurd (List.all_eq_true.mpr h.1) hall

/-- A document has a layer exactly if it is well formed. -/
theorem exists_ofToml?_eq_some_iff :
    (∃ layer, Layer.ofToml? document = some layer) ↔ IsWellFormed document := by
  simp only [Layer.ofToml?_eq_some_iff]
  constructor
  · intro h
    obtain ⟨layer, hkeys, htexts⟩ := h
    refine ⟨hkeys, ?_⟩
    intro field value hvalue
    rw [htexts, Option.map_eq_some_iff] at hvalue
    obtain ⟨text, -, htext⟩ := hvalue
    exact ⟨text, htext.symm⟩
  · intro hformed
    have htext (field : Field) :
        ∃ text : Option String, document.lookup field.key = text.map .text := by
      cases hvalue : document.lookup field.key with
      | none => exact ⟨none, rfl⟩
      | some value =>
        obtain ⟨text, rfl⟩ := hformed.texts field value hvalue
        exact ⟨some text, rfl⟩
    obtain ⟨path, hpath⟩ := htext .contextPath
    obtain ⟨root, hroot⟩ := htext .resourceRoot
    obtain ⟨locale, hlocale⟩ := htext .locale
    exact ⟨⟨path, root, locale⟩, hformed.keys, Field.forall_iff.mpr ⟨hpath, hroot, hlocale⟩⟩

theorem lookup_key_eq_some_text_iff (h : Layer.ofToml? document = some layer) {field : Field}
    {text : String} :
    document.lookup field.key = some (.text text) ↔ layer.text? field = some text := by
  rw [(Layer.ofToml?_eq_some_iff.mp h).2 field]
  simp

end CiFront.Config
