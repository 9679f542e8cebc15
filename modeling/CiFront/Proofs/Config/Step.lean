import CiFront.Proofs.Config.Document
/-!
# Steps over a configuration

A step lays a document or an environment over a configuration, and some steps fail. A step is said here by
what it names, without the configuration it is laid over: it sets what it names and leaves the rest. One
that cannot be read sets nothing, and one that fails on its locale still sets the other two fields. How
the text of a document is read into a table does not matter.
-/

namespace CiFront.Config

/-! ### What a step names -/

/-- A layer to be laid over a configuration. -/
inductive Step where
  | document (text : String)
  | environment (values : String → Option String)

/-- The value that an upper layer has, or that of the lower one where the upper one has none. -/
def Over {α : Type} (upper lower : α → Prop) (value : α) : Prop :=
  upper value ∨ (∀ other, ¬ upper other) ∧ lower value

namespace Step

/-- What a step calls the locale when it reports one that is none. -/
def localeKey : Step → String
  | document _ => Field.locale.key
  | environment _ => Field.locale.variableName

/-- Lays a step over a configuration, and says whether it failed. -/
def apply (parse? : String → Option Toml.Table) (config : Config) : Step → Except Error Unit × Config
  | document text => config.mergeDocument parse? text
  | environment values => config.mergeEnvironment values

/-- Whether a step can be read. An environment always can. -/
def IsRead (parse? : String → Option Toml.Table) : Step → Prop
  | document text => ∃ document, parse? text = some document ∧ IsWellFormed document
  | environment _ => True

/-- Whether a step can be read and names a text for a field. -/
inductive Names (parse? : String → Option Toml.Table) (field : Field) : Step → String → Prop where
  | document {text : String} {document : Toml.Table} {value : String}
    (hparse : parse? text = some document) (hformed : IsWellFormed document)
    (hlookup : document.lookup field.key = some (.text value)) :
    Names parse? field (.document text) value
  | environment {values : String → Option String} {value : String}
    (hvalue : values field.variableName = some value) :
    Names parse? field (.environment values) value

/-- Whether a step names a locale that is one. -/
def NamesLocale (parse? : String → Option Toml.Table) (step : Step) (locale : Locale) : Prop :=
  ∃ text, step.Names parse? .locale text ∧ Locale.parse text = .ok locale

/-- Why a step fails: it cannot be read, or the locale that it names is none. -/
inductive Fails (parse? : String → Option Toml.Table) (step : Step) : Error → Prop where
  | malformed (hread : ¬ step.IsRead parse?) : step.Fails parse? .malformed
  | invalidLocale {text : String} {invalid : Locale.Invalid}
    (hnames : step.Names parse? .locale text) (hparse : Locale.parse text = .error invalid) :
    step.Fails parse? (.invalidLocale step.localeKey invalid)

/-- The layer of a step, if it can be read. -/
def layer? (parse? : String → Option Toml.Table) : Step → Option Layer
  | document text => (parse? text).bind Layer.ofToml?
  | environment values => some (.ofEnvironment values)

/-! ### The layer of a step -/

variable {parse? : String → Option Toml.Table} {step : Step} {config : Config} {layer : Layer}

theorem apply_eq_overlay (h : step.layer? parse? = some layer) :
    step.apply parse? config = config.overlay step.localeKey layer := by
  cases step with
  | document text =>
    rw [layer?] at h
    rw [apply, mergeDocument, h]
    rfl
  | environment values =>
    cases h
    rfl

theorem apply_eq_malformed (h : step.layer? parse? = none) :
    step.apply parse? config = (.error .malformed, config) := by
  cases step with
  | document text =>
    rw [layer?] at h
    rw [apply, mergeDocument, h]
  | environment values => cases h

theorem isRead_iff : step.IsRead parse? ↔ ∃ layer, step.layer? parse? = some layer := by
  cases step with
  | document text =>
    simp only [IsRead, layer?, Option.bind_eq_some_iff, ← exists_ofToml?_eq_some_iff]
    constructor
    · intro h
      obtain ⟨table, hparse, layer, hlayer⟩ := h
      exact ⟨layer, table, hparse, hlayer⟩
    · intro h
      obtain ⟨layer, table, hparse, hlayer⟩ := h
      exact ⟨table, hparse, layer, hlayer⟩
  | environment values => simp [IsRead, layer?]

theorem not_isRead_iff : ¬ step.IsRead parse? ↔ step.layer? parse? = none := by
  rw [isRead_iff, ← Option.ne_none_iff_exists', not_ne_iff]

theorem names_iff {field : Field} {text : String} :
    step.Names parse? field text
      ↔ ∃ layer, step.layer? parse? = some layer ∧ layer.text? field = some text := by
  cases step with
  | document s =>
    constructor
    · intro hnames
      cases hnames with | document hparse hformed hlookup => ?_
      obtain ⟨layer, hlayer⟩ := exists_ofToml?_eq_some_iff.mpr hformed
      refine ⟨layer, ?_, (lookup_key_eq_some_text_iff hlayer).mp hlookup⟩
      rw [layer?, hparse, Option.bind_some, hlayer]
    · intro h
      obtain ⟨layer, hlayer, htext⟩ := h
      obtain ⟨table, hparse, hlayer⟩ := Option.bind_eq_some_iff.mp hlayer
      exact .document hparse (exists_ofToml?_eq_some_iff.mp ⟨layer, hlayer⟩)
        ((lookup_key_eq_some_text_iff hlayer).mpr htext)
  | environment values =>
    have hvariable : (Layer.ofEnvironment values).text? field = values field.variableName := by
      cases field <;> rfl
    constructor
    · intro hnames
      cases hnames with | environment hvalue => ?_
      exact ⟨_, rfl, hvariable.trans hvalue⟩
    · intro h
      obtain ⟨layer, hlayer, htext⟩ := h
      cases hlayer
      exact .environment (hvariable.symm.trans htext)

theorem names_iff_of_layer? (h : step.layer? parse? = some layer) {field : Field} {text : String} :
    step.Names parse? field text ↔ layer.text? field = some text := by
  rw [names_iff]
  simp [h]

theorem not_names_of_layer? (h : step.layer? parse? = none) {field : Field} {text : String} :
    ¬ step.Names parse? field text := by
  rw [names_iff]
  simp [h]

end Step

/-! ### Laying a layer -/

section

variable {config : Config} {layer : Layer} {localeKey : String}

theorem getD_eq_iff_over {α : Type} {named : Option α} {initial value : α} :
    named.getD initial = value ↔ Over (named = some ·) (· = initial) value := by
  cases named <;> simp [Over, eq_comm]

/-- The locale apart, a layer sets what it names, whether it fails or not. -/
theorem exists_overlay_eq (config : Config) (localeKey : String) (layer : Layer) :
    ∃ locale, (config.overlay localeKey layer).2 = { config.setPaths layer with locale } := by
  unfold overlay
  split
  · exact ⟨config.locale, rfl⟩
  · split
    · exact ⟨_, rfl⟩
    · exact ⟨config.locale, rfl⟩

theorem overlay_contextPath_eq_iff {path : String} :
    (config.overlay localeKey layer).2.contextPath = path
      ↔ Over (layer.contextPath = some ·) (· = config.contextPath) path := by
  obtain ⟨locale, hoverlay⟩ := exists_overlay_eq config localeKey layer
  rw [hoverlay, ← getD_eq_iff_over]
  exact Iff.rfl

theorem overlay_resourceRoot_eq_iff {root : String} :
    (config.overlay localeKey layer).2.resourceRoot = root
      ↔ Over (layer.resourceRoot = some ·) (· = config.resourceRoot) root := by
  obtain ⟨locale, hoverlay⟩ := exists_overlay_eq config localeKey layer
  rw [hoverlay, ← getD_eq_iff_over]
  exact Iff.rfl

theorem overlay_locale_eq_iff {locale : Locale} :
    (config.overlay localeKey layer).2.locale = locale
      ↔ Over (fun other => ∃ text, layer.locale = some text ∧ Locale.parse text = .ok other)
          (· = config.locale) locale := by
  unfold overlay Over
  cases layer.locale with
  | none => simp [setPaths, eq_comm]
  | some text => cases hparse : Locale.parse text <;> simp [hparse, setPaths, eq_comm]

theorem overlay_eq_error_iff {error : Error} :
    (config.overlay localeKey layer).1 = .error error
      ↔ ∃ text invalid, layer.locale = some text ∧ Locale.parse text = .error invalid
        ∧ error = .invalidLocale localeKey invalid := by
  unfold overlay
  cases layer.locale with
  | none => simp
  | some text => cases hparse : Locale.parse text <;> simp [hparse, eq_comm]

end

/-! ### Laying a step -/

namespace Step

variable {parse? : String → Option Toml.Table} {step : Step} {config : Config}

/-- What every layer does to a field, a step does with its own layer, if it has one. -/
theorem apply_eq_iff_over {α : Type} {field : Config → α} {Sets : Step → α → Prop}
    {sets : Layer → α → Prop}
    (hsets : ∀ value, Sets step value ↔ ∃ layer, step.layer? parse? = some layer ∧ sets layer value)
    (hoverlay : ∀ layer localeKey value, field (config.overlay localeKey layer).2 = value
      ↔ Over (sets layer) (· = field config) value) (value : α) :
    field (step.apply parse? config).2 = value ↔ Over (Sets step) (· = field config) value := by
  cases hlayer : step.layer? parse? with
  | none => simp [Over, apply_eq_malformed hlayer, hsets, hlayer, eq_comm]
  | some layer =>
    rw [apply_eq_overlay hlayer, hoverlay]
    simp [Over, hsets, hlayer]

theorem apply_contextPath_eq_iff {path : String} :
    (step.apply parse? config).2.contextPath = path
      ↔ Over (step.Names parse? .contextPath) (· = config.contextPath) path :=
  apply_eq_iff_over (fun _ => names_iff) (fun _ _ _ => overlay_contextPath_eq_iff) path

theorem apply_resourceRoot_eq_iff {root : String} :
    (step.apply parse? config).2.resourceRoot = root
      ↔ Over (step.Names parse? .resourceRoot) (· = config.resourceRoot) root :=
  apply_eq_iff_over (fun _ => names_iff) (fun _ _ _ => overlay_resourceRoot_eq_iff) root

theorem namesLocale_iff {locale : Locale} :
    step.NamesLocale parse? locale
      ↔ ∃ layer, step.layer? parse? = some layer
        ∧ ∃ text, layer.locale = some text ∧ Locale.parse text = .ok locale := by
  simp only [NamesLocale, names_iff]
  constructor
  · intro h
    obtain ⟨text, ⟨layer, hlayer, htext⟩, hparse⟩ := h
    exact ⟨layer, hlayer, text, htext, hparse⟩
  · intro h
    obtain ⟨layer, hlayer, text, htext, hparse⟩ := h
    exact ⟨text, ⟨layer, hlayer, htext⟩, hparse⟩

theorem apply_locale_eq_iff {locale : Locale} :
    (step.apply parse? config).2.locale = locale
      ↔ Over (step.NamesLocale parse?) (· = config.locale) locale :=
  apply_eq_iff_over (fun _ => namesLocale_iff) (fun _ _ _ => overlay_locale_eq_iff) locale

/-- A step fails exactly if it has a reason to, and reports it. -/
theorem apply_eq_error_iff {error : Error} :
    (step.apply parse? config).1 = .error error ↔ step.Fails parse? error := by
  cases hlayer : step.layer? parse? with
  | none =>
    rw [apply_eq_malformed hlayer]
    constructor
    · intro herror
      cases herror
      exact .malformed (not_isRead_iff.mpr hlayer)
    · intro hfails
      cases hfails with
      | malformed => rfl
      | invalidLocale hnames => exact absurd hnames (not_names_of_layer? hlayer)
  | some layer =>
    rw [apply_eq_overlay hlayer, overlay_eq_error_iff]
    constructor
    · intro h
      obtain ⟨text, invalid, htext, hparse, herror⟩ := h
      rw [herror]
      exact .invalidLocale ((names_iff_of_layer? hlayer).mpr htext) hparse
    · intro hfails
      cases hfails with
      | malformed hread => exact absurd (isRead_iff.mpr ⟨layer, hlayer⟩) hread
      | invalidLocale hnames hparse =>
        exact ⟨_, _, (names_iff_of_layer? hlayer).mp hnames, hparse, rfl⟩

theorem apply_eq_of_not_isRead (h : ¬ step.IsRead parse?) : (step.apply parse? config).2 = config := by
  rw [apply_eq_malformed (not_isRead_iff.mp h)]

theorem names_unique {field : Field} {a b : String} (ha : step.Names parse? field a)
    (hb : step.Names parse? field b) : a = b := by
  obtain ⟨layer, hlayer, ha⟩ := names_iff.mp ha
  rw [names_iff_of_layer? hlayer, ha] at hb
  exact Option.some.inj hb

/-- A step that fails keeps the locale. -/
theorem apply_locale_of_fails {error : Error} (h : step.Fails parse? error) :
    (step.apply parse? config).2.locale = config.locale := by
  rw [apply_locale_eq_iff]
  refine .inr ⟨?_, rfl⟩
  intro other hother
  obtain ⟨text, hnames, hparse⟩ := hother
  cases h with
  | malformed hread =>
    exact not_names_of_layer? (not_isRead_iff.mp hread) hnames
  | invalidLocale hnamed hinvalid =>
    rw [names_unique hnames hnamed, hinvalid] at hparse
    cases hparse

theorem apply_eq_ok_iff {next : Config} :
    step.apply parse? config = (.ok (), next)
      ↔ (∀ error, ¬ step.Fails parse? error) ∧ (step.apply parse? config).2 = next := by
  have herror (error : Error) :
      step.Fails parse? error ↔ (step.apply parse? config).1 = .error error :=
    apply_eq_error_iff.symm
  simp only [herror, Prod.ext_iff]
  cases (step.apply parse? config).1 <;> simp

end Step

end CiFront.Config
