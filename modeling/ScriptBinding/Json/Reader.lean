import ScriptBinding.Json.Basic

/-!
Reading JSON texts. Every reader takes the text still to be read and gives what it read with the
rest, or the defect it met with the text from there on; the length of that text places the defect.
Nesting is bounded, and so is the length of an integer.
-/
namespace ScriptBinding.Json

inductive Defect where
  | byteOrderMark
  | noValue
  | noName
  | noColon
  | noComma
  | unterminated
  | controlCharacter
  | badEscape
  | badUnicodeEscape
  | extraText
  | tooManyDigits (count : Nat)
  | tooDeep

structure Failure where
  defect : Defect
  rest : Text

def nestingLimit : Nat := 1000

def digitLimit : Nat := 4300

def isSpace (p : CodePoint) : Bool := p = ' ' || p = '\t' || p = '\n' || p = '\r'

def dropSpace (s : Text) : Text := s.dropWhile isSpace

/-- What a string is read into before surrogate pairs are joined. -/
inductive StringPart where
  | plain (p : CodePoint)
  | unit (n : Nat)

def isHighSurrogate (unit : Nat) : Bool := 0xD800 ≤ unit && unit < 0xDC00

def isLowSurrogate (unit : Nat) : Bool := 0xDC00 ≤ unit && unit < 0xE000

/-- A high and a low surrogate that are both escaped and follow each other are one code point. -/
def joinParts : List StringPart → Text
  | [] => []
  | .plain p :: rest => p :: joinParts rest
  | .unit high :: rest =>
    match rest with
    | .unit low :: after =>
      if isHighSurrogate high && isLowSurrogate low then
        .ofNat (0x10000 + (high - 0xD800) * 0x400 + (low - 0xDC00)) :: joinParts after
      else .ofNat high :: joinParts (.unit low :: after)
    | rest => .ofNat high :: joinParts rest

/-- The number that four hexadecimal digits name; they may not end the text. -/
def escapedUnit? (a b c d : CodePoint) (rest : Text) : Option Nat :=
  match a.hexDigit?, b.hexDigit?, c.hexDigit?, d.hexDigit?, rest with
  | some a, some b, some c, some d, _ :: _ => some (((a * 16 + b) * 16 + c) * 16 + d)
  | _, _, _, _, _ => none

def shortEscape? (p : CodePoint) : Option CodePoint :=
  if p = '"' || p = '\\' || p = '/' then some p
  else if p = 'b' then some (.ofNat 0x08)
  else if p = 'f' then some (.ofNat 0x0C)
  else if p = 'n' then some '\n'
  else if p = 'r' then some '\r'
  else if p = 't' then some '\t'
  else none

/-- The parts of a string up to its closing quote. `opening` is the text from the opening quote on,
`parts` what has been read, last part first. -/
def readParts (opening : Text) (parts : List StringPart) :
    Text → Except Failure (List StringPart × Text)
  | [] => .error ⟨.unterminated, opening⟩
  | p :: rest =>
    if p = '"' then .ok (parts.reverse, rest)
    else if p.value < 0x20 then .error ⟨.controlCharacter, p :: rest⟩
    else if p = '\\' then
      match rest with
      | [] => .error ⟨.unterminated, opening⟩
      | q :: after =>
        if q = 'u' then
          match after with
          | a :: b :: c :: d :: beyond =>
            match escapedUnit? a b c d beyond with
            | some n => readParts opening (.unit n :: parts) beyond
            | none => .error ⟨.badUnicodeEscape, rest⟩
          | _ => .error ⟨.badUnicodeEscape, rest⟩
        else
          match shortEscape? q with
          | some c => readParts opening (.plain c :: parts) after
          | none => .error ⟨.badEscape, p :: rest⟩
    else readParts opening (.plain p :: parts) rest

def readString (opening : Text) : Except Failure (Text × Text) :=
  (readParts opening [] (opening.drop 1)).map fun (parts, rest) => (joinParts parts, rest)

/-- The number that decimal digits name. The halves of a long number are read on their own, which
keeps the factors of the multiplications of one size. -/
def digitsValue (digits : Text) : Nat :=
  if digits.length ≤ 32 then digits.foldl (fun n p => n * 10 + p.digit) 0
  else
    let half := digits.length / 2
    digitsValue (digits.take half) * wholePower 10 (digits.length - half : Nat) +
      digitsValue (digits.drop half)
termination_by digits.length
decreasing_by
  · rw [List.length_take]; omega
  · rw [List.length_drop]; omega

/-- Digits with a sign in front or none; `none` without a digit. -/
def signedDigits? (s : Text) : Option (Int × Text) :=
  let negative := s.beginsWith '-'
  let unsigned := if negative || s.beginsWith '+' then s.drop 1 else s
  let digits := unsigned.takeWhile CodePoint.isDigit
  let size : Int := digitsValue digits
  if digits.isEmpty then none
  else some (if negative then -size else size, unsigned.drop digits.length)

/-- The exponent after `e` or `E`. -/
def exponent? : Text → Option (Int × Text)
  | [] => none
  | mark :: s => if mark = 'e' || mark = 'E' then signedDigits? s else none

/-- The digits after a point; `none` if there are none. -/
def fraction? : Text → Option (Text × Text)
  | [] => none
  | mark :: s =>
    let digits := s.takeWhile CodePoint.isDigit
    if mark = '.' && !digits.isEmpty then some (digits, s.drop digits.length) else none

/-- The digits of a whole number: zero alone, or digits that do not start with zero. -/
def wholeDigits (s : Text) : Text :=
  if s.beginsWith '0' then s.take 1 else s.takeWhile CodePoint.isDigit

/-- The longest number that starts the text. A fraction or an exponent makes it a binary number. -/
def readNumber (s : Text) : Except Failure (Json × Text) :=
  let negative := s.beginsWith '-'
  let body := if negative then s.drop 1 else s
  let whole := wholeDigits body
  let afterWhole := body.drop whole.length
  let fraction := fraction? afterWhole
  let (digits, afterFraction) := fraction.getD ([], afterWhole)
  let exponent := exponent? afterFraction
  let (power, rest) := exponent.getD (0, afterFraction)
  if whole.isEmpty then .error ⟨.noValue, s⟩
  else if fraction.isSome || exponent.isSome then
    .ok (real (.ofDecimal negative (digitsValue (whole ++ digits)) (power - digits.length)), rest)
  else if whole.length > digitLimit then .error ⟨.tooManyDigits whole.length, s⟩
  else
    let size : Int := digitsValue whole
    .ok (int (if negative then -size else size), rest)

def words : List (Text × Json) :=
  [("null", null), ("true", bool true), ("false", bool false), ("NaN", real .nan),
   ("Infinity", real (.infinite false)), ("-Infinity", real (.infinite true))]

def readScalar (s : Text) : Except Failure (Json × Text) :=
  match words.find? fun w => s.startsWith w.1 with
  | some (word, v) => .ok (v, s.drop word.length)
  | none => readNumber s

/-- The items of an array up to its closing bracket. `fuel` bounds their number. -/
def readItems (item : Text → Except Failure (Json × Text)) :
    Nat → Text → Except Failure (List Json × Text)
  | 0, s => .error ⟨.noValue, s⟩
  | fuel + 1, s => do
    let (v, s) ← item s
    match dropSpace s with
    | [] => .error ⟨.noComma, []⟩
    | p :: rest =>
      if p = ']' then .ok ([v], rest)
      else if p = ',' then
        let (others, rest) ← readItems item fuel (dropSpace rest)
        .ok (v :: others, rest)
      else .error ⟨.noComma, p :: rest⟩

/-- The members of an object up to its closing bracket, after those of `before`. -/
def readMembers (item : Text → Except Failure (Json × Text)) :
    Nat → List (Text × Json) → Text → Except Failure (List (Text × Json) × Text)
  | 0, _, s => .error ⟨.noValue, s⟩
  | fuel + 1, before, s => do
    if !s.beginsWith '"' then .error ⟨.noName, s⟩
    let (name, s) ← readString s
    let s := dropSpace s
    if !s.beginsWith ':' then .error ⟨.noColon, s⟩
    let (v, s) ← item (dropSpace (s.drop 1))
    let members := setMember name v before
    match dropSpace s with
    | [] => .error ⟨.noComma, []⟩
    | p :: rest =>
      if p = '}' then .ok (members, rest)
      else if p = ',' then readMembers item fuel members (dropSpace rest)
      else .error ⟨.noComma, p :: rest⟩

/-- One value. `depth` bounds the nesting that is left, `fuel` the items of one array or object. -/
def readValue (fuel : Nat) (depth : Nat) (s : Text) : Except Failure (Json × Text) :=
  match s with
  | [] => .error ⟨.noValue, s⟩
  | p :: rest =>
    if p = '"' then (readString s).map fun (t, rest) => (str t, rest)
    else if p = '[' then
      match depth with
      | 0 => .error ⟨.tooDeep, s⟩
      | depth + 1 =>
        let inside := dropSpace rest
        if inside.beginsWith ']' then .ok (arr [], inside.drop 1)
        else (readItems (readValue fuel depth) fuel inside).map fun (items, rest) =>
          (arr items, rest)
    else if p = '{' then
      match depth with
      | 0 => .error ⟨.tooDeep, s⟩
      | depth + 1 =>
        let inside := dropSpace rest
        if inside.beginsWith '}' then .ok (obj [], inside.drop 1)
        else (readMembers (readValue fuel depth) fuel [] inside).map fun (members, rest) =>
          (obj members, rest)
    else readScalar s

def read (s : Text) : Except Failure Json := do
  if s.beginsWith (Char.ofNat 0xFEFF) then .error ⟨.byteOrderMark, s⟩
  let (v, rest) ← readValue s.length nestingLimit (dropSpace s)
  let rest := dropSpace rest
  if rest.isEmpty then .ok v else .error ⟨.extraText, rest⟩

def Defect.name : Defect → Text
  | byteOrderMark => "Unexpected UTF-8 BOM (decode using utf-8-sig)"
  | noValue => "Expecting value"
  | noName => "Expecting property name enclosed in double quotes"
  | noColon => "Expecting ':' delimiter"
  | noComma => "Expecting ',' delimiter"
  | unterminated => "Unterminated string starting at"
  | controlCharacter => "Invalid control character at"
  | badEscape => "Invalid \\escape"
  | badUnicodeEscape => "Invalid \\uXXXX escape"
  | extraText => "Extra data"
  | tooManyDigits count =>
    "Exceeds the limit (" ++ Text.decimal digitLimit ++
      " digits) for integer string conversion: value has " ++ Text.decimal count ++
      " digits; use sys.set_int_max_str_digits() to increase the limit"
  | tooDeep => "input nested too deeply"

/-- The place of a defect in the text it was met in: line, column and index, of which the first two
count from one. -/
def place (whole rest : Text) : Text :=
  let read := whole.take (whole.length - rest.length)
  let column := (read.reverse.takeWhile (· ≠ .scalar '\n')).length + 1
  "line " ++ Text.decimal (read.count (.scalar '\n') + 1) ++ " column " ++ Text.decimal column ++
    " (char " ++ Text.decimal read.length ++ ")"

def Failure.message (f : Failure) (whole : Text) : Text :=
  match f.defect with
  | .tooManyDigits _ | .tooDeep => f.defect.name
  | _ => f.defect.name ++ ": " ++ place whole f.rest

end ScriptBinding.Json
