import ScriptBinding.Json.Basic
import ScriptBinding.Numeral.Shortest

/-!
JSON texts of values, in ASCII: on one line, or with one element a line and an indentation of two
spaces a level. Code points above U+FFFF are written as a pair of surrogate escapes, a lone
surrogate as one.
-/
namespace ScriptBinding

def CodePoint.escaped (p : CodePoint) : Text :=
  let unit (n : Nat) : Text := .scalar '\\' :: .scalar 'u' :: (Text.fourHex n).map .scalar
  let n := p.value
  if p = '"' then "\\\""
  else if p = '\\' then "\\\\"
  else if p = '\n' then "\\n"
  else if p = '\r' then "\\r"
  else if p = '\t' then "\\t"
  else if n = 0x0C then "\\f"
  else if n = 0x08 then "\\b"
  else if 0x20 ≤ n && n ≤ 0x7E then [p]
  else if n < 0x10000 then unit n
  else unit (0xD800 + (n - 0x10000) / 0x400) ++ unit (0xDC00 + (n - 0x10000) % 0x400)

namespace Json

def literal (t : Text) : Text := "\"" ++ t.flatMap CodePoint.escaped ++ "\""

mutual

def oneLine : Json → Text
  | null => "null"
  | bool true => "true"
  | bool false => "false"
  | int n => Text.signedDecimal n
  | real x => x.written
  | str t => literal t
  | arr items => "[" ++ Text.join ", " (oneLineItems items) ++ "]"
  | obj members => "\x7b" ++ Text.join ", " (oneLineMembers members) ++ "\x7d"

def oneLineItems : List Json → List Text
  | [] => []
  | v :: rest => v.oneLine :: oneLineItems rest

def oneLineMembers : List (Text × Json) → List Text
  | [] => []
  | (name, v) :: rest => (literal name ++ ": " ++ v.oneLine) :: oneLineMembers rest

end

def newLine (depth : Nat) : Text := .scalar '\n' :: List.replicate (2 * depth) (.scalar ' ')

def bracketed (opening closing : Text) (depth : Nat) : List Text → Text
  | [] => opening ++ closing
  | parts =>
    opening ++ newLine (depth + 1) ++ Text.join ("," ++ newLine (depth + 1)) parts ++
      newLine depth ++ closing

mutual

def indentedAt (depth : Nat) : Json → Text
  | arr items => bracketed "[" "]" depth (indentedItems (depth + 1) items)
  | obj members => bracketed "\x7b" "\x7d" depth (indentedMembers (depth + 1) members)
  | v => v.oneLine

def indentedItems (depth : Nat) : List Json → List Text
  | [] => []
  | v :: rest => v.indentedAt depth :: indentedItems depth rest

def indentedMembers (depth : Nat) : List (Text × Json) → List Text
  | [] => []
  | (name, v) :: rest => (literal name ++ ": " ++ v.indentedAt depth) :: indentedMembers depth rest

end

def indented (v : Json) : Text := v.indentedAt 0

end Json

end ScriptBinding
