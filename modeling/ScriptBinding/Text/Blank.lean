import ScriptBinding.Text.CodePoint

/-!
White space: the separators of Unicode and the control characters that move the cursor or separate
records.
-/
namespace ScriptBinding

def CodePoint.isBlank (p : CodePoint) : Bool :=
  let n := p.value
  (0x09 ≤ n && n ≤ 0x0D) || (0x1C ≤ n && n ≤ 0x20) || n == 0x85 || n == 0xA0 || n == 0x1680 ||
    (0x2000 ≤ n && n ≤ 0x200A) || n == 0x2028 || n == 0x2029 || n == 0x202F || n == 0x205F ||
    n == 0x3000

def Text.isBlank (t : Text) : Bool := t.all CodePoint.isBlank

end ScriptBinding
