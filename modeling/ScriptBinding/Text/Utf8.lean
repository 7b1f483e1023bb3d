import ScriptBinding.Text.CodePoint

/-!
Texts as bytes. A text with a lone surrogate has no encoding, and bytes that are not in order have
no text.
-/
namespace ScriptBinding.Text

def ofUtf8? (bytes : ByteArray) : Option Text := (String.fromUTF8? bytes).map ofString

def toUtf8? (t : Text) : Option ByteArray := t.toChars?.map fun cs => (String.ofList cs).toUTF8

def hasSurrogate (t : Text) : Bool := t.any CodePoint.isSurrogate

end ScriptBinding.Text
