import AccessAudit.Text.Unshown

/-!
# Quoted text

How a text is shown inside a message: between quotes, with quotes, backslashes and the
common controls escaped by a letter and whatever else cannot be shown by its code.
-/

namespace AccessAudit
namespace Text

/-- A character shown by its code, in small hexadecimal digits without leading zeros. -/
def codeEscape (c : Char) : List Char :=
  '\\' :: 'u' :: '\x7b' :: Nat.toDigits 16 c.toNat ++ ['\x7d']

/-- A character inside a quoted text. -/
def quotedChar (c : Char) : List Char :=
  if c = '\x00' then ['\\', '0']
  else if c = '\t' then ['\\', 't']
  else if c = '\r' then ['\\', 'r']
  else if c = '\n' then ['\\', 'n']
  else if c = '\\' then ['\\', '\\']
  else if c = '"' then ['\\', '"']
  else if isUnshown c then codeEscape c
  else [c]

/-- A text between quotes. -/
def quoted (text : String) : String :=
  String.ofList ('"' :: text.toList.flatMap quotedChar ++ ['"'])

end Text
end AccessAudit
