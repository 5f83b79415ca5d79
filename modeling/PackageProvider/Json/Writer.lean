import PackageProvider.Json.Value

set_option autoImplicit false

/-! Writing JSON values without blanks, on one line. -/

namespace PackageProvider.Json

def hexDigit (value : Nat) : Char := (Nat.digitChar (value % 16))

def writeChar (c : Char) : List Char :=
  if c = '"' then ['\\', '"']
  else if c = '\\' then ['\\', '\\']
  else if c = '\x08' then ['\\', 'b']
  else if c = '\x0c' then ['\\', 'f']
  else if c = '\n' then ['\\', 'n']
  else if c = '\r' then ['\\', 'r']
  else if c = '\t' then ['\\', 't']
  else if c.toNat < 0x20 then ['\\', 'u', '0', '0', hexDigit (c.toNat / 16), hexDigit c.toNat]
  else [c]

def writeString (text : String) : List Char := '"' :: (text.toList.flatMap writeChar ++ ['"'])

mutual

def Value.write : Value → List Char
  | .null => "null".toList
  | .bool value => (if value then "true" else "false").toList
  | .number number => number.text.toList
  | .string text => writeString text
  | .array items => '[' :: writeItems items
  | .object entries => '\x7b' :: writeEntries entries

def writeItems : List Value → List Char
  | [] => [']']
  | [item] => item.write ++ [']']
  | item :: rest => item.write ++ ',' :: writeItems rest

def writeEntries : List (String × Value) → List Char
  | [] => ['\x7d']
  | [(key, value)] => writeString key ++ ':' :: (value.write ++ ['\x7d'])
  | (key, value) :: rest => writeString key ++ ':' :: (value.write ++ ',' :: writeEntries rest)

end

end PackageProvider.Json
