import ScriptBinding.Text.CodePoint

/-!
The messages of calls with a wrong number of arguments. A message is a format in which `%d` stands
for the number of arguments that were given. The name of the function is part of the format, so that
a percent sign in it is read as a directive: `%%` is one percent sign, and any other directive
leaves nothing to fill in for the number or is no directive at all.
-/
namespace ScriptBinding

namespace CallMessage

def opening : Text := "Failed to execute '"

/-- Between the name and the number of arguments, for a call with too few. -/
def tooFewTail (required : Int) : Text :=
  "' : " ++ Text.signedDecimal required ++ " argument required, but "

/-- Between the name and the number of arguments, for a call with too many. -/
def tooManyTail (accepted : Int) : Text :=
  "' : at most " ++ Text.signedDecimal accepted ++ " arguments accepted, but "

def closing : Text := " present."

def tooFewFormat (name : Text) (required : Int) : Text :=
  opening ++ name ++ tooFewTail required ++ "%d" ++ closing

def tooManyFormat (name : Text) (accepted : Int) : Text :=
  opening ++ name ++ tooManyTail accepted ++ "%d" ++ closing

/-- Why a format cannot be filled in. -/
inductive FormatFault where
  /-- A directive asks for a value by name. -/
  | wantsNames
  /-- More than one directive asks for the one value there is. -/
  | wantsMore
  | unknownDirective
  /-- A width or a precision has more digits than are read. -/
  | unreadableSize
  /-- A whole number is asked for with more digits than can be written. -/
  | tooPrecise
  /-- A value is to be padded beyond what can be held. -/
  | tooWide
deriving DecidableEq

inductive DirectivePlace where
  | start
  | flags
  | width
  | afterWidth
  | precision
  | precisionDigits
  | length
  | conversion
deriving DecidableEq

/-- What of a directive has been read. A width or precision that is not written counts as zero. -/
structure Directive where
  place : DirectivePlace
  width : Nat
  precision : Nat
deriving DecidableEq

def isOneOf (p : CodePoint) (s : String) : Bool := (Text.ofString s).contains p

def widthLimit : Nat := 0x7FFFFFFFFFFFFFFF

def precisionLimit : Nat := 0x7FFFFFFF

def wholeDigitLimit : Nat := precisionLimit - 3

/-- The most code points that a value is padded to. -/
def paddingLimit : Nat := 0x1000000000

def conversions : String := "diouxXeEfFgGcrsa"

def wholeConversions : String := "diouxX"

namespace Directive

/-- A directive of which only the percent sign has been read. -/
def opened : Directive := ⟨.start, 0, 0⟩

/-- The directive with one more code point, or `none` if that one ends it. -/
def next (d : Directive) (p : CodePoint) : Option Directive :=
  let wider : Directive := ⟨.width, d.width * 10 + p.digit, d.precision⟩
  let finer : Directive := ⟨.precisionDigits, d.width, d.precision * 10 + p.digit⟩
  let afterLength : Option Directive :=
    if isOneOf p "hlL" then some { d with place := .conversion } else none
  let afterWidth : Option Directive :=
    if p = '.' then some { d with place := .precision } else afterLength
  match d.place with
  | .start | .flags =>
    if isOneOf p "-+ #0" then some { d with place := .flags }
    else if p = '*' then some { d with place := .afterWidth }
    else if p.isDigit then some wider
    else afterWidth
  | .width => if p.isDigit then some wider else afterWidth
  | .afterWidth => afterWidth
  | .precision =>
    if p = '*' then some { d with place := .length }
    else if p.isDigit then some finer
    else afterLength
  | .precisionDigits => if p.isDigit then some finer else afterLength
  | .length => afterLength
  | .conversion => none

def isUnreadable (d : Directive) : Bool := d.width > widthLimit || d.precision > precisionLimit

def takesValue (d : Directive) (p : CodePoint) : Bool :=
  p = '*' && (d.place = .start || d.place = .flags || d.place = .precision)

/-- What keeps a value from being written as a conversion asks. -/
def fault? (d : Directive) (conversion : CodePoint) : Option FormatFault :=
  if !isOneOf conversion conversions then some .unknownDirective
  else if isOneOf conversion wholeConversions && d.precision > wholeDigitLimit then
    some .tooPrecise
  else if d.width > paddingLimit then some .tooWide
  else none

end Directive

/-- A name as it shows in a filled-in format. `open?` is the directive that is being read, `used`
says that a directive has taken the value that is meant for the number at the end; the format can
then not be filled in, whatever follows. -/
def shownFrom (open? : Option Directive) (used : Bool) : Text → Except FormatFault Text
  | [] => if used then .error .wantsMore else .ok []
  | p :: rest =>
    match open? with
    | none =>
      if p = '%' then shownFrom (some .opened) used rest
      else (shownFrom none used rest).map (p :: ·)
    | some d =>
      if d.place = .start && p = '%' then (shownFrom none used rest).map (p :: ·)
      else if d.place = .start && p = '(' then .error .wantsNames
      else match d.next p with
        | some longer =>
          if d.takesValue p then
            if used then .error .wantsMore else shownFrom (some longer) true rest
          else if longer.isUnreadable then .error .unreadableSize
          else shownFrom (some longer) used rest
        | none =>
          if used then .error .wantsMore
          else match d.fault? p with
            | some fault => .error fault
            | none => shownFrom none true rest

/-- A name as it shows. The quotation mark behind it ends every directive that it leaves open. -/
def shown (name : Text) : Except FormatFault Text :=
  (shownFrom none false (name ++ "'")).map List.dropLast

/-- A format filled in: what the name shows, and the number in place of `%d`. -/
def filled (name tail : Text) (count : Nat) : Except FormatFault Text :=
  (shown name).map fun name => opening ++ name ++ tail ++ Text.decimal count ++ closing

def tooFew (name : Text) (required : Int) (count : Nat) : Except FormatFault Text :=
  filled name (tooFewTail required) count

def tooMany (name : Text) (accepted : Int) (count : Nat) : Except FormatFault Text :=
  filled name (tooManyTail accepted) count

end CallMessage

end ScriptBinding
