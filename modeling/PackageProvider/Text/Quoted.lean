import PackageProvider.Text.Shown

set_option autoImplicit false

/-! Text in double quotes, as messages quote it. -/

namespace PackageProvider.Text

/-- A character inside quotes: quotes, backslashes and the usual control characters behind
a backslash, and what cannot be shown as its code point. -/
def quoteChar (c : Char) : List Char :=
  if c = '"' then ['\\', '"']
  else if c = '\\' then ['\\', '\\']
  else if c = '\x00' then ['\\', '0']
  else if c = '\t' then ['\\', 't']
  else if c = '\n' then ['\\', 'n']
  else if c = '\r' then ['\\', 'r']
  else if isShown c then [c]
  else '\\' :: 'u' :: '\x7b' :: (Nat.toDigits 16 c.toNat ++ ['\x7d'])

def quoted (text : String) : String :=
  String.ofList ('"' :: (text.toList.flatMap quoteChar ++ ['"']))

end PackageProvider.Text
