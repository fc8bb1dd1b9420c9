import CloudSynth.Toml.Table
import CloudSynth.Double.Reader
import CloudSynth.Text.Space

/-!
# Reading configuration documents

A configuration document is a sequence of lines: comments, headers in brackets and assignments. A
value is a text in one of four quotings, an integer in one of four bases, another number, a date, a
truth value, a list or an inline table. A line end is a line feed, with or without a carriage return
before it; in a text over several lines it always becomes a line feed. A document with any malformed
line is refused, and so is one with values or keys that nest too deep.
-/

namespace CloudSynth.Toml

/-- A reader takes what it recognises from the front of the text. -/
abbrev Reader := StateT (List Char) Option

namespace Reader

/-- The next character, left where it is. -/
def peek : Reader (Option Char) := do return (← get).head?

/-- Takes a given text. -/
def expect (text : String) : Reader Unit := fun rest =>
  if text.toList.isPrefixOf rest then some ((), rest.drop text.length) else none

/-- The text lies ahead. -/
def ahead (text : String) : Reader Bool := do return text.toList.isPrefixOf (← get)

/-- Takes the characters as long as they satisfy the condition. -/
def takeWhile (condition : Char → Bool) : Reader (List Char) := fun rest =>
  some (rest.takeWhile condition, rest.dropWhile condition)

end Reader

/-- A control character that may stand nowhere in a line. -/
def isForbidden (character : Char) : Bool :=
  (character.toNat < 0x20 && character ≠ '\t') || character.toNat = 0x7F

/-- Takes spaces and tabs. -/
def skipBlanks : Reader Unit := do
  let _ ← Reader.takeWhile fun character => character = ' ' || character = '\t'

/-- Takes a comment, if one begins here. -/
def skipComment : Reader Unit := do
  if (← Reader.peek) = some '#' then
    let _ ← Reader.takeWhile fun character => !isForbidden character

/-- Takes the end of a line; the end of the text is one, too. -/
def endLine : Reader Unit := fun rest =>
  match rest with
  | [] => some ((), [])
  | '\n' :: rest => some ((), rest)
  | '\r' :: '\n' :: rest => some ((), rest)
  | _ => none

/-- Takes blanks, comments and line ends, as they may stand inside a list. -/
def skipLines : Nat → Reader Unit
  | 0 => pure ()
  | fuel + 1 => do
    skipBlanks
    skipComment
    match ← Reader.peek with
    | some '\n' | some '\r' => endLine; skipLines fuel
    | _ => pure ()

/-- The value of hexadecimal digits. -/
def hexNumber? (digits : List Char) : Option Nat :=
  digits.foldlM (fun value digit =>
    if digit.isDigit then some (value * 16 + (digit.toNat - '0'.toNat))
    else if 'a' ≤ digit ∧ digit ≤ 'f' then some (value * 16 + (digit.toNat - 'a'.toNat + 10))
    else if 'A' ≤ digit ∧ digit ≤ 'F' then some (value * 16 + (digit.toNat - 'A'.toNat + 10))
    else none) 0

/-- Takes an escape with `count` hexadecimal digits. -/
def readCode (count : Nat) : Reader Char := fun rest => do
  let digits := rest.take count
  if digits.length ≠ count then none
  let code ← hexNumber? digits
  if code.isValidChar then some (Char.ofNat code, rest.drop count) else none

/-- Takes the rest of an escape after its backslash. -/
def readEscape : Reader Char := do
  match ← get with
  | 'b' :: rest => set rest; return '\x08'
  | 't' :: rest => set rest; return '\t'
  | 'n' :: rest => set rest; return '\n'
  | 'f' :: rest => set rest; return '\x0c'
  | 'r' :: rest => set rest; return '\r'
  | '"' :: rest => set rest; return '"'
  | '\\' :: rest => set rest; return '\\'
  | 'u' :: rest => set rest; readCode 4
  | 'U' :: rest => set rest; readCode 8
  | _ => failure

/-- Takes the rest of a text in double quotes on one line. -/
def readBasic : Nat → List Char → Reader (List Char)
  | 0, _ => failure
  | fuel + 1, read => do
    match ← get with
    | '"' :: rest => set rest; return read.reverse
    | '\\' :: rest => set rest; readBasic fuel ((← readEscape) :: read)
    | character :: rest =>
      if isForbidden character then failure
      set rest
      readBasic fuel (character :: read)
    | [] => failure

/-- Takes the rest of a text in single quotes on one line. -/
def readLiteral : Reader (List Char) := do
  let text ← Reader.takeWhile fun character => character ≠ '\'' && !isForbidden character
  Reader.expect "'"
  return text

/-- Takes the quotes that close a text over several lines; up to two more belong to the text. -/
def closingQuotes (quote : Char) : Reader (Option (List Char)) := do
  let count := ((← get).takeWhile (· = quote)).length
  if count < 3 then return none
  else
    let inside := min (count - 3) 2
    set ((← get).drop (inside + 3))
    return some (List.replicate inside quote)

/-- The text without the blanks and line ends in front of it. -/
def dropBlankLines : List Char → List Char
  | ' ' :: rest => dropBlankLines rest
  | '\t' :: rest => dropBlankLines rest
  | '\n' :: rest => dropBlankLines rest
  | '\r' :: '\n' :: rest => dropBlankLines rest
  | rest => rest

/-- What follows a backslash at the end of a line: it joins the line with the next one that is not
blank. -/
def joinedLine? (rest : List Char) : Option (List Char) :=
  match rest.dropWhile fun character => character = ' ' || character = '\t' with
  | '\n' :: rest => some (dropBlankLines rest)
  | '\r' :: '\n' :: rest => some (dropBlankLines rest)
  | _ => none

/-- Takes the rest of a text over several lines. -/
def readLines (quote : Char) (escapes : Bool) : Nat → List Char → Reader (List Char)
  | 0, _ => failure
  | fuel + 1, read => do
    match ← closingQuotes quote with
    | some inside => return read.reverse ++ inside
    | none =>
      match ← get with
      | '\\' :: rest =>
        if escapes then
          match joinedLine? rest with
          | some rest => set rest; readLines quote escapes fuel read
          | none => set rest; readLines quote escapes fuel ((← readEscape) :: read)
        else
          set rest
          readLines quote escapes fuel ('\\' :: read)
      | '\r' :: '\n' :: rest => set rest; readLines quote escapes fuel ('\n' :: read)
      | '\n' :: rest => set rest; readLines quote escapes fuel ('\n' :: read)
      | character :: rest =>
        if isForbidden character then failure
        set rest
        readLines quote escapes fuel (character :: read)
      | [] => failure

/-- Takes the line end that may follow the opening quotes of a text over several lines. -/
def skipFirstLineEnd : Reader Unit := do
  match ← get with
  | '\n' :: rest => set rest
  | '\r' :: '\n' :: rest => set rest
  | _ => pure ()

/-- Takes a quoted text on one line. -/
def readQuoted (fuel : Nat) : Reader String := do
  if ← Reader.ahead "\"" then
    Reader.expect "\""
    return String.ofList (← readBasic fuel [])
  else
    Reader.expect "'"
    return String.ofList (← readLiteral)

/-- Takes a text in any of the four quotings. -/
def readText (fuel : Nat) : Reader String := do
  if ← Reader.ahead "\"\"\"" then
    Reader.expect "\"\"\""
    skipFirstLineEnd
    return String.ofList (← readLines '"' true fuel [])
  else if ← Reader.ahead "'''" then
    Reader.expect "'''"
    skipFirstLineEnd
    return String.ofList (← readLines '\'' false fuel [])
  else readQuoted fuel

/-- A character of a key without quotes. -/
def isBare (character : Char) : Bool :=
  character.isAlphanum || character = '_' || character = '-'

/-- Takes one part of a key. -/
def readKeyPart (fuel : Nat) : Reader String := do
  match ← Reader.peek with
  | some '"' | some '\'' => readQuoted fuel
  | _ =>
    let text ← Reader.takeWhile isBare
    if text = [] then failure
    return String.ofList text

/-- How deep values may nest, and how many parts a key may have. -/
def nestingLimit : Nat := 79

/-- Takes a key of at most so many parts, with dots between them. -/
def readKeyWithin : Nat → Reader (List String)
  | 0 => failure
  | limit + 1 => do
    skipBlanks
    let part ← readKeyPart (← get).length
    skipBlanks
    if (← Reader.peek) = some '.' then
      Reader.expect "."
      return part :: (← readKeyWithin limit)
    else return [part]

/-- Takes a key. -/
def readKey : Reader (List String) := readKeyWithin nestingLimit

/-- Digits with single underscores between them. -/
def digitsOf? (isDigit : Char → Bool) (text : List Char) : Option (List Char) :=
  let parts := Text.pieces (· = '_') text
  if parts.all fun part => part ≠ [] && part.all isDigit then some parts.flatten else none

/-- Decimal digits without a zero in front. -/
def decimalDigits? (text : List Char) : Option (List Char) := do
  let digits ← digitsOf? Char.isDigit text
  match digits with
  | '0' :: _ :: _ => none
  | digits => some digits

/-- The number of digits in a base. -/
def numberInBase (base : Nat) (digits : List Char) : Option Nat :=
  (hexNumber? digits).map fun _ =>
    digits.foldl (fun value digit =>
      value * base + ((hexNumber? [digit]).getD 0)) 0

/-- The natural number that decimal digits stand for. -/
def decimalNumber? (text : List Char) : Option Nat :=
  (decimalDigits? text).map Text.naturalOfDigits

/-- The natural number that digits of a base stand for. -/
def numberOfBase? (base : Nat) (isDigit : Char → Bool) (text : List Char) : Option Nat :=
  (digitsOf? isDigit text).bind (numberInBase base)

/-- The whole number that a word stands for: hexadecimal, octal, binary, or decimal with a sign. -/
def wholeNumber? : List Char → Option Int
  | '0' :: 'x' :: rest => numberOfBase? 16 (fun digit => (hexNumber? [digit]).isSome) rest
  | '0' :: 'o' :: rest => numberOfBase? 8 (fun digit => '0' ≤ digit && digit ≤ '7') rest
  | '0' :: 'b' :: rest => numberOfBase? 2 (fun digit => digit = '0' || digit = '1') rest
  | '-' :: rest => (decimalNumber? rest).map fun value => -(value : Int)
  | '+' :: rest => decimalNumber? rest
  | rest => decimalNumber? rest

/-- The integer a word stands for, if it is one of at most sixty-four bits. -/
def integerOf? (word : List Char) : Option Int :=
  (wholeNumber? word).filter fun value =>
    -9223372036854775808 ≤ value ∧ value ≤ 9223372036854775807

/-- A word is the name of a number that no digits stand for. -/
def isNamedNumber (word : List Char) : Bool :=
  let name := (Double.takeSign word).2
  name = "inf".toList || name = "nan".toList

/-- A word has the form of a number with a fraction or an exponent. -/
def isFractional (word : List Char) : Bool :=
  let word := (Double.takeSign word).2
  let whole := word.takeWhile fun character => character.isDigit || character = '_'
  let rest := word.drop whole.length
  let (hasFraction, fractionGood, rest) :=
    match rest with
    | '.' :: after =>
      let fraction := after.takeWhile fun character => character.isDigit || character = '_'
      (true, (digitsOf? Char.isDigit fraction).isSome, after.drop fraction.length)
    | rest => (false, true, rest)
  let (hasExponent, exponentGood) :=
    match rest with
    | [] => (false, true)
    | mark :: after =>
      (true, (mark = 'e' || mark = 'E') &&
        (digitsOf? Char.isDigit (Double.takeSign after).2).isSome)
  (decimalDigits? whole).isSome && (hasFraction || hasExponent) && fractionGood && exponentGood

/-- A word is a number that need not be whole. Digits that stand for a positive number too large for
double precision are refused; a negative one may be as large as it likes. -/
def isDecimal (word : List Char) : Bool :=
  isNamedNumber word || (isFractional word &&
    Double.read? (String.ofList (word.filter (· ≠ '_'))) ≠ some (.infinite false))

/-- The shape of a word: every digit as a zero. -/
def shape (word : List Char) : List Char :=
  word.map fun character => if character.isDigit then '0' else character

/-- A word is a time of day. -/
def isTime (word : List Char) : Bool :=
  let clock := word.take 8
  let fraction := word.drop 8
  shape clock = "00:00:00".toList &&
    Text.naturalOfDigits (clock.take 2) < 24 &&
    Text.naturalOfDigits ((clock.drop 3).take 2) < 60 &&
    Text.naturalOfDigits (clock.drop 6) ≤ 60 &&
    (match fraction with
      | [] => true
      | '.' :: digits => digits ≠ [] && digits.all Char.isDigit
      | _ => false)

/-- The days of a month. -/
def daysOfMonth (year month : Nat) : Nat :=
  if month = 2 then
    if year % 4 = 0 && (year % 100 ≠ 0 || year % 400 = 0) then 29 else 28
  else if month ∈ [4, 6, 9, 11] then 30
  else 31

/-- A word is a day of the calendar. -/
def isDay (word : List Char) : Bool :=
  let year := Text.naturalOfDigits (word.take 4)
  let month := Text.naturalOfDigits ((word.drop 5).take 2)
  let day := Text.naturalOfDigits (word.drop 8)
  shape word = "0000-00-00".toList && 1 ≤ month && month ≤ 12 &&
    1 ≤ day && day ≤ daysOfMonth year month

/-- What follows a time of day is nothing, or its distance from universal time. -/
def isOffset (word : List Char) : Bool :=
  word = [] || word = ['Z'] || word = ['z'] ||
    ((shape word = "+00:00".toList || shape word = "-00:00".toList) &&
      Text.naturalOfDigits ((word.drop 1).take 2) < 24 && Text.naturalOfDigits (word.drop 4) < 60)

/-- A word is a date, a time of day, or both with an optional offset. -/
def isDate (word : List Char) : Bool :=
  if isTime word then true
  else
    match word.drop 10 with
    | [] => isDay word
    | mark :: time =>
      let clock := time.takeWhile fun character =>
        character.isDigit || character = ':' || character = '.'
      isDay (word.take 10) && (mark = 'T' || mark = 't') && isTime clock &&
        isOffset (time.drop clock.length)

/-- Takes the characters that numbers, dates and truth values are written with. -/
def takeWord : Reader (List Char) := Reader.takeWhile fun character =>
  isBare character || character = '+' || character = '.' || character = ':'

/-- The text goes on with a blank and a time of day. -/
def timeAhead : Reader Bool := do
  match ← get with
  | ' ' :: rest => return isTime (rest.take 8)
  | _ => return false

/-- Takes a word; a date may have its time of day behind a blank. -/
def takeDateOrWord : Reader (List Char) := do
  let word ← takeWord
  if isDate word && word.length = 10 && (← timeAhead) then
    Reader.expect " "
    return word ++ 'T' :: (← takeWord)
  else return word

/-- Takes a number, a date or a truth value. -/
def readWord : Reader Json := do
  let word ← takeDateOrWord
  if word = "true".toList then return .boolean true
  else if word = "false".toList then return .boolean false
  else match integerOf? word with
    | some value => return .integer value
    | none =>
      if isDecimal word || isDate word then return .decimal (String.ofList word)
      else failure

/-- Takes the items of a list and its closing bracket. -/
def readItems (readItem : Reader Json) : Nat → Reader (List Json)
  | 0 => failure
  | fuel + 1 => do
    skipLines (← get).length
    if ← Reader.ahead "]" then
      Reader.expect "]"
      return []
    let item ← readItem
    skipLines (← get).length
    if ← Reader.ahead "," then
      Reader.expect ","
      return item :: (← readItems readItem fuel)
    else
      Reader.expect "]"
      return [item]

/-- Takes the assignments of an inline table and its closing brace. -/
def readInline (readItem : Reader Json) : Nat → Entries → Reader Entries
  | 0, _ => failure
  | fuel + 1, entries => do
    let path ← readKey
    Reader.expect "="
    skipBlanks
    let value ← readItem
    let entries ← StateT.lift (entries.assign value path)
    skipBlanks
    if ← Reader.ahead "," then
      Reader.expect ","
      readInline readItem fuel entries
    else
      Reader.expect "\x7d"
      return entries

/-- Takes a value with at most so many lists and inline tables around one another. -/
def readValueWithin : Nat → Reader Json
  | 0 => do
    match ← Reader.peek with
    | some '"' | some '\'' => return .text (← readText (← get).length)
    | _ => readWord
  | limit + 1 => do
    let fuel := (← get).length
    match ← Reader.peek with
    | some '"' | some '\'' => return .text (← readText fuel)
    | some '[' =>
      Reader.expect "["
      return .list (← readItems (readValueWithin limit) fuel)
    | some '{' =>
      Reader.expect "\x7b"
      skipBlanks
      if ← Reader.ahead "\x7d" then
        Reader.expect "\x7d"
        return .object []
      else return .object (fieldsOf (← readInline (readValueWithin limit) fuel []))
    | _ => readWord

/-- Takes a value. -/
def readValue : Reader Json := readValueWithin nestingLimit

/-- Takes one statement, if the line has one, and the rest of the line. -/
def readStatement : Reader (Option Statement) := do
  skipBlanks
  let statement ←
    match ← Reader.peek with
    | none | some '\n' | some '\r' | some '#' => pure none
    | some '[' =>
      if ← Reader.ahead "[[" then
        Reader.expect "[["
        let path ← readKey
        Reader.expect "]]"
        pure (some (.arrayHeader path))
      else
        Reader.expect "["
        let path ← readKey
        Reader.expect "]"
        pure (some (.header path))
    | some _ =>
      let path ← readKey
      Reader.expect "="
      skipBlanks
      pure (some (.assignment path (← readValue)))
  skipBlanks
  skipComment
  endLine
  return statement

/-- Reads statements until the text ends. -/
def readDocument : Nat → Document → List Char → Option Document
  | _, document, [] => some document
  | 0, _, _ => none
  | fuel + 1, document, text => do
    let (statement, rest) ← readStatement text
    let document ← match statement with
      | some statement => document.apply? statement
      | none => some document
    readDocument fuel document rest

/-- The text without the mark of byte order that may begin it. -/
def withoutMark : List Char → List Char
  | '\ufeff' :: rest => rest
  | text => text

/-- Reads a configuration document as an object. -/
def read? (text : String) : Option Json :=
  (readDocument (text.length + 1) ⟨[], []⟩ (withoutMark text.toList)).map fun document =>
    .object (fieldsOf document.entries)

end CloudSynth.Toml
