import ScriptBinding.Text.CodePoint

/-!
Names that can be spelled as they are in the generated code: letters, digits and underscores, not
starting with a digit, and no reserved word. One line feed at the very end is let through, and a
reserved word with a line feed behind it is not reserved.
-/
namespace ScriptBinding

namespace CodePoint

def startsName (p : CodePoint) : Bool := p.isCapital || p.isSmall || p = '_'

def continuesName (p : CodePoint) : Bool := p.startsName || p.isDigit

end CodePoint

namespace Text

/-- Keywords and alternative operator spellings of the generated language. -/
def reservedWords : List Text :=
  List.map ofString
  ["alignas", "alignof", "and", "and_eq", "asm", "auto", "bitand", "bitor", "bool", "break",
   "case", "catch", "char", "char8_t", "char16_t", "char32_t", "class", "compl", "concept",
   "const", "consteval", "constexpr", "constinit", "const_cast", "continue", "co_await",
   "co_return", "co_yield", "decltype", "default", "delete", "do", "double", "dynamic_cast",
   "else", "enum", "explicit", "export", "extern", "false", "float", "for", "friend", "goto",
   "if", "inline", "int", "long", "mutable", "namespace", "new", "noexcept", "not", "not_eq",
   "nullptr", "operator", "or", "or_eq", "private", "protected", "public", "register",
   "reinterpret_cast", "requires", "return", "short", "signed", "sizeof", "static",
   "static_assert", "static_cast", "struct", "switch", "template", "this", "thread_local",
   "throw", "true", "try", "typedef", "typeid", "typename", "union", "unsigned", "using",
   "virtual", "void", "volatile", "wchar_t", "while", "xor", "xor_eq"]

def isNameTail : Text → Bool
  | [] => true
  | p :: rest => if p.continuesName then isNameTail rest else p = '\n' && rest.isEmpty

def isName : Text → Bool
  | [] => false
  | p :: rest => p.startsName && isNameTail rest

def isIdentifier (t : Text) : Bool := t.isName && !reservedWords.contains t

end Text

end ScriptBinding
