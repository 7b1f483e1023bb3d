import ScriptBinding.Text.LetterCase

/-!
From camel case to snake case, in two passes: the first parts a capitalized word from what stands
before it, the second a capital from a small letter or digit. A name that holds an underscore, or
is lower case already, is only put into lower case. One leading underscore is dropped.
-/
namespace ScriptBinding.Text

/-- Where the first pass stands: outside the words it has parted, before the capital of one, or
among the small letters of one. -/
inductive WordPlace where
  | outside
  | capital
  | inside

/-- A capital and a small letter. -/
def opensWord : Text → Bool
  | capital :: small :: _ => capital.isCapital && small.isSmall
  | _ => false

/-- First pass: an underscore before a word. The small letters of a word are read to their end
before the next word is looked for, and a line feed is never parted from what follows it. -/
def partWords : WordPlace → Text → Text
  | _, [] => []
  | .capital, p :: rest => p :: partWords .inside rest
  | place, p :: rest =>
    if place matches .inside && p.isSmall then p :: partWords .inside rest
    else if p ≠ '\n' && opensWord rest then p :: .scalar '_' :: partWords .capital rest
    else p :: partWords .outside rest

/-- Second pass: an underscore between a small letter or digit and a capital. -/
def partCapitals : Text → Text
  | [] => []
  | p :: rest =>
    if (p.isSmall || p.isDigit) && rest.head?.any CodePoint.isCapital then
      p :: .scalar '_' :: partCapitals rest
    else p :: partCapitals rest

def dropUnderscore : Text → Text
  | [] => []
  | p :: rest => if p = '_' then rest else p :: rest

def snake (name : Text) : Text :=
  let t := name.dropUnderscore
  if t.contains '_' || t.isLowercase then t.lower else (partCapitals (partWords .outside t)).lower

def screamingSnake (name : Text) : Text := name.snake.upper

end ScriptBinding.Text
