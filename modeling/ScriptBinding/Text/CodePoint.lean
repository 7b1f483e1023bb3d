/-!
Code points and texts. A text is a list of code points, where a surrogate may stand alone: a
`\u` escape can name one, and it has to survive until it is written again. A text without lone
surrogates is the same thing as a list of characters.
-/
namespace ScriptBinding

/-- A Unicode code point: a character, or a surrogate counted from U+D800. -/
inductive CodePoint where
  | scalar (c : Char)
  | surrogate (offset : Fin 0x800)
deriving DecidableEq, Inhabited

namespace CodePoint

def value : CodePoint → Nat
  | scalar c => c.toNat
  | surrogate offset => 0xD800 + offset.val

/-- The code point of a number; a number above U+10FFFF names no code point and gives U+0000. -/
def ofNat (n : Nat) : CodePoint :=
  if h : 0xD800 ≤ n ∧ n < 0xE000 then surrogate ⟨n - 0xD800, by omega⟩ else scalar (Char.ofNat n)

instance : Coe Char CodePoint := ⟨scalar⟩

def isSurrogate : CodePoint → Bool
  | scalar _ => false
  | surrogate _ => true

def isCapital (p : CodePoint) : Bool := 0x41 ≤ p.value && p.value ≤ 0x5A

def isSmall (p : CodePoint) : Bool := 0x61 ≤ p.value && p.value ≤ 0x7A

def isDigit (p : CodePoint) : Bool := 0x30 ≤ p.value && p.value ≤ 0x39

def digit (p : CodePoint) : Nat := p.value - 0x30

/-- The value of a hexadecimal digit, in either case. -/
def hexDigit? (p : CodePoint) : Option Nat :=
  if p.isDigit then some p.digit
  else if 0x61 ≤ p.value && p.value ≤ 0x66 then some (p.value - 0x57)
  else if 0x41 ≤ p.value && p.value ≤ 0x46 then some (p.value - 0x37)
  else none

end CodePoint

abbrev Text := List CodePoint

namespace Text

def ofString (s : String) : Text := s.toList.map .scalar

instance : Coe String Text := ⟨ofString⟩

/-- The characters of a text that holds no surrogate. -/
def toChars? : Text → Option (List Char)
  | [] => some []
  | .scalar c :: rest => (toChars? rest).map (c :: ·)
  | .surrogate _ :: _ => none

def decimal (n : Nat) : Text := (Nat.toDigits 10 n).map .scalar

def signedDecimal : Int → Text
  | .ofNat n => decimal n
  | .negSucc n => .scalar '-' :: decimal (n + 1)

/-- Four lower-case hexadecimal digits of a number below 2^16. -/
def fourHex (n : Nat) : List Char :=
  [n / 0x1000, n / 0x100 % 0x10, n / 0x10 % 0x10, n % 0x10].map Nat.digitChar

def join (separator : Text) (parts : List Text) : Text := separator.intercalate parts

/-- `count` copies one after the other; none for a negative count. -/
def replicate (count : Int) (t : Text) : Text := (List.replicate count.toNat t).flatten

def startsWith (t start : Text) : Bool := start.isPrefixOf t

def beginsWith (t : Text) (c : Char) : Bool := t.head? = some (.scalar c)

/-- The lines of a text: the pieces between its line feeds, one more than there are line feeds. -/
def lines : Text → List Text
  | [] => [[]]
  | c :: rest =>
    if c = '\n' then [] :: lines rest
    else match lines rest with
      | [] => [[c]]
      | first :: others => (c :: first) :: others

/-- What a diagnostic stream shows: a lone surrogate as a backslash, `u` and four digits. -/
def displayed (t : Text) : List Char :=
  t.flatMap fun
    | .scalar c => [c]
    | .surrogate offset => '\\' :: 'u' :: fourHex (0xD800 + offset.val)

end Text

end ScriptBinding
