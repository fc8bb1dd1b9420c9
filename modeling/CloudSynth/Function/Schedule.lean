import CloudSynth.Text.Digits
import CloudSynth.Text.Space

/-!
# Schedules

A schedule is a phrase (`every day`), a rate (`every 5m`, `every 2h`) or the fields of a cron
expression. All of them become an expression with six fields: minute, hour, day of the month,
month, day of the week and year.
-/

namespace CloudSynth.Schedule

/-- A character that may stand in a field of a cron expression. -/
def isFieldCharacter (character : Char) : Bool :=
  character.isAlphanum || "*?/,-#".toList.contains character

/-- The phrases and their fields. -/
def phrases : List (List Char × List Char) :=
  [("every day".toList, "0 0 * * ? *".toList),
   ("every week".toList, "0 0 ? * 1 *".toList),
   ("every month".toList, "0 0 1 * ? *".toList),
   ("every year".toList, "0 0 1 1 ? *".toList)]

/-- What a rate begins with. -/
def rateStart : List Char := "every ".toList

/-- The fields of a rate: a number of minutes below an hour, or of hours below a day. -/
def rateFields? (rate : List Char) : Option (List Char) :=
  let digits := rate.takeWhile Char.isDigit
  let number := Text.naturalOfDigits digits
  if digits = [] then none
  else match rate.dropWhile Char.isDigit with
    | ['m'] =>
      if 1 ≤ number ∧ number < 60 then
        some ("*/".toList ++ Nat.toDigits 10 number ++ " * * * ? *".toList)
      else none
    | ['h'] =>
      if 1 ≤ number ∧ number < 24 then
        some ("0 */".toList ++ Nat.toDigits 10 number ++ " * * ? *".toList)
      else none
    | _ => none

/-- The fields of a cron expression; a missing year stands for every year. -/
def cronFields? (text : List Char) : Option (List Char) :=
  let fields := Text.fields text
  if fields.all fun field => field.all isFieldCharacter then
    match fields.length with
    | 5 => some ([' '].intercalate (fields ++ [['*']]))
    | 6 => some ([' '].intercalate fields)
    | _ => none
  else none

/-- The six fields of a schedule. -/
def fields? (schedule : List Char) : Option (List Char) :=
  let schedule := Text.trim schedule
  match phrases.lookup schedule with
  | some fields => some fields
  | none =>
    if rateStart.isPrefixOf schedule then rateFields? (schedule.drop rateStart.length)
    else cronFields? schedule

/-- The cron expression of a schedule. -/
def cron? (schedule : String) : Option String :=
  (fields? schedule.toList).map fun fields => "cron(" ++ String.ofList fields ++ ")"

end CloudSynth.Schedule
