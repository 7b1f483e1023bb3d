import ScriptBinding.Text.CodePoint
import ScriptBinding.Text.CaseTable

/-!
Upper case, lower case and the test for lower case, on whole texts. Upper case may lengthen a text
(`ß` becomes `SS`). Lower case depends on the neighbours in one place: a capital sigma that ends a
word becomes the final sigma.
-/
namespace ScriptBinding

namespace CodePoint
open LetterCase

def isLowercase (p : CodePoint) : Bool := lowercaseRuns.any (·.contains p.value)

def isUppercase (p : CodePoint) : Bool := uppercaseRuns.any (·.contains p.value)

def isTitlecase (p : CodePoint) : Bool := titlecaseRuns.any (·.contains p.value)

def isCased (p : CodePoint) : Bool := p.isLowercase || p.isUppercase || p.isTitlecase

/-- A code point that the case of a word looks through. -/
def isCaseIgnorable (p : CodePoint) : Bool := ignorableRuns.any (·.contains p.value)

private def shifted (shifts : List Shift) (p : CodePoint) : CodePoint :=
  match shifts.find? (·.contains p.value) with
  | some s => ofNat (p.value + s.offset).toNat
  | none => p

def upper (p : CodePoint) : Text :=
  match upperExpansions.lookup p.value with
  | some parts => parts.map ofNat
  | none => [shifted upperShifts p]

/-- Lower case of a code point on its own; U+0130 keeps its dot as a mark. -/
def lower (p : CodePoint) : Text :=
  if p.value = 0x130 then [ofNat 0x69, ofNat 0x307] else [shifted lowerShifts p]

end CodePoint

namespace Text

def upper (t : Text) : Text := t.flatMap CodePoint.upper

/-- A capital sigma ends a word if a cased code point stands before it and none after it, looking
through the ignorable ones. `before` is reversed. -/
def endsWord (before after : Text) : Bool :=
  let cased (t : Text) : Bool :=
    match t.dropWhile CodePoint.isCaseIgnorable with
    | p :: _ => p.isCased
    | [] => false
  cased before && !cased after

def lowerFrom (before : Text) : Text → Text
  | [] => []
  | p :: after =>
    (if p.value = 0x3A3 then [CodePoint.ofNat (if endsWord before after then 0x3C2 else 0x3C3)]
      else p.lower) ++ lowerFrom (p :: before) after

def lower (t : Text) : Text := lowerFrom [] t

/-- Some code point is lower case, and none is upper case or title case. -/
def isLowercase (t : Text) : Bool :=
  t.any CodePoint.isLowercase && t.all fun p => !p.isUppercase && !p.isTitlecase

def capitalized : Text → Text
  | [] => []
  | p :: rest => p.upper ++ rest

end Text

end ScriptBinding
