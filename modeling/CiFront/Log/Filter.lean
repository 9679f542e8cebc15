import CiFront.Log.Event
import CiFront.Log.Pattern
import CiFront.Number.Decimal
import CiFront.Text.Alphanumeric
import CiFront.Text.Blank
/-!
# Log filters

A filter is a comma-separated list of directives. A directive is a level for every event, a module path
with `=` and a level for the events of the modules whose path starts with it, or a bare module path,
which admits all of its events. Behind the path, or in its place, brackets may narrow the directive to a
span, or with braces in them to a field. The parts of a directive are found in its text without the blanks
around it, and taken at the same places from the text with them: a blank in front spoils a level. Of the
directives that cover an event the one with the longest path decides, then one that asks for a field, then
the last one.
-/

namespace CiFront.Log

/-- What a directive asks for besides the module. -/
inductive Scope where
  | any
  /-- An event with a field of a name. -/
  | field (name : String)
  /-- What is logged in a span of work. No work is logged as a span here. -/
  | span
  deriving DecidableEq, Repr

/-- Admits the events of modules under `target` up to the rank `limit`; zero admits none. -/
structure Directive where
  target : String
  scope : Scope
  limit : Nat
  deriving DecidableEq, Repr

/-- The directives of a filter, in the order they were given. -/
abbrev Filter := List Directive

namespace Scope

/-- Whether an event is what a scope asks for. -/
def covers (event : Event) : Scope → Bool
  | any => true
  | field name => event.allFields.any (·.1 == name)
  | span => false

/-- Whether a scope yields to another one about the same modules. Of two fields the lesser name yields. -/
def yieldsTo : Scope → Scope → Bool
  | any, field _ => true
  | field name, field other => name < other
  | _, _ => false

/-- Reads a field in the braces of a scope. A field with a value is one of a span, and so is any field
behind the name of a span. -/
def ofField? (named : Bool) (s : List Char) : Option Scope :=
  match s.splitOn '=' with
  | _ :: value :: _ =>
    if Pattern.isNumber value || Pattern.isPattern value then some span else none
  | _ => some (if named then span else field (String.ofList s))

/-- Reads a scope that `s` starts with, up to its closing bracket, and yields its length as well. The
field is taken from the same place of `text`. -/
def parse? (s text : List Char) : Option (Scope × Nat) :=
  let inName (c : Char) : Bool := c ≠ ']' && c ≠ '\x7b'
  let name := s.takeWhile inName
  match s.dropWhile inName with
  | ']' :: _ => some (span, name.length + 1)
  | '\x7b' :: rest =>
    let inField := rest.takeWhile (· ≠ '\x7d')
    match inField, rest.dropWhile (· ≠ '\x7d') with
    | _ :: _, '\x7d' :: ']' :: _ => do
      let scope ← ofField? (!name.isEmpty) ((text.drop (name.length + 1)).take inField.length)
      pure (scope, name.length + inField.length + 3)
    | _, _ => none
  | _ => none

end Scope

namespace Directive

/-- Whether a directive speaks about an event. -/
def covers (directive : Directive) (event : Event) : Bool :=
  directive.target.toList.isPrefixOf event.source.toList && directive.scope.covers event

/-- Whether a directive yields to another one that covers the same event. -/
def yieldsTo (directive other : Directive) : Bool :=
  directive.target.utf8ByteSize < other.target.utf8ByteSize
    || (directive.target == other.target && directive.scope.yieldsTo other.scope)

/-- The rank that a level's name or number stands for. -/
def limit? (s : List Char) : Option Nat :=
  match (Decimal.index? s).filter (· ≤ 5), String.ofList (s.map Char.toLower) with
  | some rank, _ => some rank
  | none, "off" => some 0
  | none, "error" => some Level.error.rank
  | none, "warn" => some Level.warn.rank
  | none, "info" => some Level.info.rank
  | none, "debug" => some Level.debug.rank
  | none, "trace" => some Level.trace.rank
  | none, _ => none

/-- Whether a directive may start with a character. -/
def startsWith (c : Char) : Bool :=
  Text.isAlphanumeric c || c == '_' || c == '-' || c == ':' || c == '['

/-- Reads a directive of one word: a level, or the path of modules that are admitted in full. -/
def ofWord (s : List Char) : Directive :=
  match limit? s with
  | some limit => ⟨"", .any, limit⟩
  | none => ⟨String.ofList s, .any, Level.trace.rank⟩

/-- Reads a level; without one the modules are admitted in full. -/
def withLevel? (path : List Char) (scope : Scope) (level : List Char) : Option Directive :=
  if level.isEmpty then some ⟨String.ofList path, scope, Level.trace.rank⟩
  else (limit? level).map fun limit => ⟨String.ofList path, scope, limit⟩

/-- Reads one directive. -/
def parse? (s : List Char) : Option Directive :=
  let trimmed := Text.trim s
  let inPath (c : Char) : Bool := c ≠ '=' && c ≠ '['
  let length := (trimmed.takeWhile inPath).length
  let path := s.take length
  let text := s.drop (length + 1)
  if !trimmed.head?.any startsWith then none
  else match trimmed.dropWhile inPath with
    | '[' :: rest => do
      let (scope, length) ← Scope.parse? rest text
      match rest.drop length with
      | [] => pure ⟨String.ofList path, scope, Level.trace.rank⟩
      | '=' :: _ => withLevel? path scope (text.drop (length + 1))
      | _ => none
    | '=' :: _ => withLevel? path .any text
    | _ => some (ofWord s)

end Directive

namespace Filter

/-- The filter that admits the events of every module up to a level. -/
def upTo (level : Level) : Filter :=
  [⟨"", .any, level.rank⟩]

/-- Reads a filter; empty directives are passed over. -/
def parse? (s : String) : Option Filter :=
  ((s.toList.splitOn ',').filter (· ≠ [])).mapM Directive.parse?

/-- The directive that decides about an event: of those that cover it the last one that yields to none. -/
def deciding? (filter : Filter) (event : Event) : Option Directive :=
  (filter.filter (·.covers event)).foldl (fun best directive =>
    match best with
    | some chosen => if directive.yieldsTo chosen then some chosen else some directive
    | none => some directive) none

/-- Whether a filter lets an event through. -/
def admits (filter : Filter) (event : Event) : Bool :=
  match filter.deciding? event with
  | some directive => event.level.rank ≤ directive.limit
  | none => false

end Filter

end CiFront.Log
