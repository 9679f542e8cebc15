/-!
# Commands and switches

The program has three commands. Some switches may stand before the command and behind it, some only
before it, and each command has its own. A switch may take a value, and few may be repeated.
-/

namespace CiFront.Cli

/-- The commands. -/
inductive Command where
  | params
  | icon
  | ball
  deriving DecidableEq, Repr

/-- The switches, of all commands. -/
inductive Switch where
  | verbose
  | json
  | config
  | version
  | help
  | param
  | stdin
  | format
  | reveal
  | size
  | locale
  | noRequest
  | bundle
  | description
  | arg
  | noResolve
  deriving DecidableEq, Repr

/-- How values are printed. -/
inductive Format where
  | json
  | env
  deriving DecidableEq, Repr

namespace Command

/-- Every command. -/
def all : List Command := [params, icon, ball]

/-- The name of a command. -/
def name : Command → String
  | params => "params"
  | icon => "icon"
  | ball => "ball"

/-- Whether a text may be the operand of a command: a job file has a path. -/
def accepts (operand : String) : Command → Bool
  | params => operand ≠ ""
  | icon | ball => true

end Command

namespace Format

/-- Reads the name of a format. -/
def ofName? : String → Option Format
  | "json" => some json
  | "env" => some env
  | _ => none

end Format

namespace Switch

/-- The name of a switch, behind two hyphens. -/
def long : Switch → String
  | verbose => "verbose"
  | json => "json"
  | config => "config"
  | version => "version"
  | help => "help"
  | param => "param"
  | stdin => "stdin"
  | format => "format"
  | reveal => "reveal"
  | size => "size"
  | locale => "locale"
  | noRequest => "no-request"
  | bundle => "bundle"
  | description => "description"
  | arg => "arg"
  | noResolve => "no-resolve"

/-- The letter of a switch, behind one hyphen, if it has one. -/
def short? : Switch → Option Char
  | verbose => some 'v'
  | version => some 'V'
  | help => some 'h'
  | param => some 'p'
  | size => some 's'
  | locale => some 'l'
  | _ => none

/-- Whether a switch takes a value. -/
def takesValue : Switch → Bool
  | config | param | stdin | format | size | locale | bundle | description | arg => true
  | verbose | json | version | help | reveal | noRequest | noResolve => false

/-- Whether a switch may be repeated. -/
def mayRepeat : Switch → Bool
  | param | bundle | arg => true
  | _ => false

/-- The two parts of `NAME=VALUE`, where the name may not be empty. -/
def pair? (text : String) : Option (String × String) :=
  let name := text.toList.takeWhile (· ≠ '=')
  match text.toList.dropWhile (· ≠ '=') with
  | [] => none
  | _ :: value =>
    if name.isEmpty then none else some (String.ofList name, String.ofList value)

/-- Whether a text may be the value of a switch. -/
def accepts (value : String) : Switch → Bool
  | config => value ≠ ""
  | param | bundle => (pair? value).isSome
  | format => (Format.ofName? value).isSome
  | _ => true

/-- The switches that may stand before the command. -/
def beforeCommand : List Switch := [verbose, json, config, version, help]

/-- The switches that may stand behind any command. -/
def ofAnyCommand : List Switch := [verbose, json, config, help]

/-- The switches about icons. -/
def ofIcons : List Switch := [size, locale, noRequest, bundle]

/-- The switches that may stand behind a command. -/
def ofCommand : Command → List Switch
  | .params => ofAnyCommand ++ [param, stdin, format, reveal]
  | .icon => ofAnyCommand ++ ofIcons ++ [description, arg, noResolve]
  | .ball => ofAnyCommand ++ ofIcons

end Switch

end CiFront.Cli
