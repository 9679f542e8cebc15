import CiFront.Locale
import CiFront.Log.Event
import CiFront.Message
import CiFront.Properties
import CiFront.Template
/-!
# Message bundles

A bundle holds the templates written to its tables. There is one table per locale and a root table; a key
is looked up in the tables of a locale's chain and then in the root table, and in each the template
written last counts. A properties text is written as a whole or not at all.
-/

namespace CiFront

/-- One template, written for a key into the table of a locale or into the root table. -/
structure Bundle.Write where
  table : Option Locale
  key : String
  template : String
  deriving DecidableEq

/-- The templates of a bundle, the one written last first. -/
structure Bundle where
  writes : List Bundle.Write
  deriving DecidableEq

namespace Bundle

/-- The bundle without any template. -/
def empty : Bundle := ⟨[]⟩

/-- Writes one template. -/
def insert (bundle : Bundle) (table : Option Locale) (key template : String) : Bundle :=
  ⟨⟨table, key, template⟩ :: bundle.writes⟩

/-- Writes the entries of a properties text in order. -/
def insertEntries (bundle : Bundle) (table : Option Locale) (entries : List Properties.Entry) :
    Bundle :=
  entries.foldl (fun bundle entry =>
    bundle.insert table (String.ofList entry.key) (String.ofList entry.value)) bundle

/-- Writes the entries of a properties text, and counts them. A text that is refused leaves the bundle as it
was. -/
def load (bundle : Bundle) (table : Option Locale) (text : String) :
    Except Properties.Malformed Nat × Bundle :=
  match Properties.parse text.toList with
  | .error malformed => (.error malformed, bundle)
  | .ok entries => (.ok entries.length, bundle.insertEntries table entries)

/-- The template that one table holds for a key. -/
def inTable? (bundle : Bundle) (key : String) (table : Option Locale) : Option String :=
  (bundle.writes.find? fun write => write.table == table && write.key == key).map (·.template)

/-- The tables that serve a locale, the most specific first and the root table last. -/
def tables (locale : Locale) : List (Option Locale) :=
  locale.chain.map some ++ [none]

/-- The template for a key in the first table of a locale that holds one. -/
def lookup (bundle : Bundle) (key : String) (locale : Locale) : Option String :=
  (tables locale).findSome? (bundle.inTable? key)

/-- The text of a key for a locale: its template with the arguments, or the key itself where there is no
template. -/
def format (bundle : Bundle) (key : String) (args : List String) (locale : Locale) : String :=
  match bundle.lookup key locale with
  | some template => Template.render template args
  | none => key

/-- What formatting a key reports: that it has no template, if it has none. -/
def formatEvents (bundle : Bundle) (key : String) (locale : Locale) : List Log.Event :=
  match bundle.lookup key locale with
  | some _ => []
  | none => [.noMessage key locale.tag]

/-- The text of a message for a locale. -/
def localize (bundle : Bundle) (message : Message) (locale : Locale) : String :=
  bundle.format message.key message.args locale

/-! ### The stock descriptions -/

/-- The stock descriptions in English, for the root table. -/
def stockRoot : List (String × String) :=
  [("ball.failed", "Failed"),
   ("ball.unstable", "Unstable"),
   ("ball.success", "Success"),
   ("ball.pending", "Pending"),
   ("ball.disabled", "Disabled"),
   ("ball.aborted", "Aborted"),
   ("ball.not_built", "Not built"),
   ("ball.in_progress", "In progress"),
   ("icon.folder", "Folder"),
   ("icon.health", "Build stability: \x7b0\x7d out of the last \x7b1\x7d builds failed.")]

/-- The stock descriptions in German. -/
def stockGerman : List (String × String) :=
  [("ball.failed", "Fehlgeschlagen"),
   ("ball.unstable", "Instabil"),
   ("ball.success", "Erfolgreich"),
   ("ball.pending", "Ausstehend"),
   ("ball.disabled", "Deaktiviert"),
   ("ball.aborted", "Abgebrochen"),
   ("ball.not_built", "Nicht gebaut"),
   ("ball.in_progress", "In Arbeit"),
   ("icon.folder", "Ordner"),
   ("icon.health", "Build-Stabilität: \x7b0\x7d der letzten \x7b1\x7d Builds schlugen fehl.")]

/-- The stock descriptions in French. -/
def stockFrench : List (String × String) :=
  [("ball.failed", "Échec"),
   ("ball.unstable", "Instable"),
   ("ball.success", "Succès"),
   ("ball.pending", "En attente"),
   ("ball.disabled", "Désactivé"),
   ("ball.aborted", "Annulé"),
   ("ball.not_built", "Non construit"),
   ("ball.in_progress", "En cours"),
   ("icon.folder", "Dossier")]

/-- The stock descriptions in Japanese. -/
def stockJapanese : List (String × String) :=
  [("ball.failed", "失敗"),
   ("ball.unstable", "不安定"),
   ("ball.success", "成功"),
   ("ball.pending", "保留"),
   ("ball.disabled", "無効"),
   ("ball.aborted", "中止"),
   ("ball.not_built", "未ビルド"),
   ("ball.in_progress", "実行中"),
   ("icon.folder", "フォルダ")]

/-- The tables of the stock descriptions. -/
def stock : List (Option Locale × List (String × String)) :=
  [(none, stockRoot),
   (some (.ofLanguage "de" ⟨by decide, by decide⟩), stockGerman),
   (some (.ofLanguage "fr" ⟨by decide, by decide⟩), stockFrench),
   (some (.ofLanguage "ja" ⟨by decide, by decide⟩), stockJapanese)]

/-- The bundle of the stock descriptions. -/
def builtin : Bundle :=
  stock.foldl (fun bundle (table, entries) =>
    entries.foldl (fun bundle (key, template) => bundle.insert table key template) bundle) empty

end Bundle

end CiFront
