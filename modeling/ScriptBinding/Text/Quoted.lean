import ScriptBinding.Text.CodePoint

/-!
The inside of a string literal: backslash, double quote, line feed, tab and carriage return are
written as a backslash and one more character, all else as it is.
-/
namespace ScriptBinding

def CodePoint.quoted (p : CodePoint) : Text :=
  if p = '\\' then "\\\\"
  else if p = '"' then "\\\""
  else if p = '\n' then "\\n"
  else if p = '\t' then "\\t"
  else if p = '\r' then "\\r"
  else [p]

def Text.quoted (t : Text) : Text := t.flatMap CodePoint.quoted

end ScriptBinding
