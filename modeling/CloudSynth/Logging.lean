import CloudSynth.Json.Basic
import CloudSynth.Text.Case
import CloudSynth.Text.Space

/-!
# Log settings

Levels and formats of logs, and how long logs are kept. A retention is given as a phrase, such as
`1 week` or `infinite`, of which only a fixed list is supported.
-/

namespace CloudSynth

/-- Log levels, from the quietest to the fullest. -/
inductive LogLevel
  | none
  | error
  | warn
  | info
  | debug
  | trace
  | all
  deriving DecidableEq, Repr

namespace LogLevel

/-- Every level in order. -/
def every : List LogLevel := [none, error, warn, info, debug, trace, all]

/-- The place of the level in the order. -/
def rank : LogLevel → Nat
  | none => 0
  | error => 1
  | warn => 2
  | info => 3
  | debug => 4
  | trace => 5
  | all => 6

/-- The name in settings. -/
def name : LogLevel → String
  | none => "none"
  | error => "error"
  | warn => "warn"
  | info => "info"
  | debug => "debug"
  | trace => "trace"
  | all => "all"

/-- The upper-case name. -/
def upperName : LogLevel → String
  | none => "NONE"
  | error => "ERROR"
  | warn => "WARN"
  | info => "INFO"
  | debug => "DEBUG"
  | trace => "TRACE"
  | all => "ALL"

/-- The level with the given name. -/
def ofName? (name : String) : Option LogLevel := every.find? (·.name = name)

/-- The level where nothing is said. -/
def default : LogLevel := info

end LogLevel

/-- Formats of log records. -/
inductive LogFormat
  | text
  | json
  deriving DecidableEq, Repr

namespace LogFormat

/-- The name in settings. -/
def name : LogFormat → String
  | text => "text"
  | json => "json"

/-- The upper-case name. -/
def upperName : LogFormat → String
  | text => "TEXT"
  | json => "JSON"

/-- The format with the given name. -/
def ofName? (name : String) : Option LogFormat := [text, json].find? (·.name = name)

/-- The format where nothing is said. -/
def default : LogFormat := text

end LogFormat

/-- How long logs are kept: a number of days, or forever. -/
structure LogRetention where
  days : Option Nat
  deriving DecidableEq, Repr

namespace LogRetention

/-- The supported periods and their days. -/
def periods : List (String × Nat) :=
  [("1 day", 1), ("3 days", 3), ("5 days", 5), ("1 week", 7), ("2 weeks", 14), ("1 month", 30),
   ("2 months", 60), ("3 months", 90), ("4 months", 120), ("5 months", 150), ("6 months", 180),
   ("1 year", 365), ("13 months", 400), ("18 months", 545), ("2 years", 731), ("3 years", 1096),
   ("5 years", 1827), ("6 years", 2192), ("7 years", 2557), ("8 years", 2922), ("9 years", 3288),
   ("10 years", 3653)]

/-- Logs are kept for a week. -/
def oneWeek : LogRetention := ⟨some 7⟩

/-- Logs are kept forever. -/
def infinite : LogRetention := ⟨none⟩

/-- Reads a phrase, whatever its case and the blanks around it. -/
def read? (phrase : String) : Option LogRetention :=
  let plain := String.ofList (Text.lower (Text.trim phrase.toList))
  if plain = "infinite" then some infinite
  else (periods.find? (·.1 = plain)).map fun period => ⟨some period.2⟩

/-- The failure to read a phrase. -/
def unsupported (phrase : String) : String := "unsupported log retention `" ++ phrase ++ "`"

/-- The phrase of a retention. -/
def print (retention : LogRetention) : String :=
  match retention.days with
  | none => "infinite"
  | some days =>
    match periods.find? (·.2 = days) with
    | some period => period.1
    | none => toString days ++ " days"

/-- Reads the structured form. -/
def ofJson? (value : Json) : Option LogRetention := value.asText?.bind read?

end LogRetention

end CloudSynth
