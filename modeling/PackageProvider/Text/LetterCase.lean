set_option autoImplicit false

/-! Lower case, as far as a search for a phrase of ASCII characters can see it.

Outside ASCII only two letters have a lower case with an ASCII character in it: the
Kelvin sign, whose lower case is `k`, and the dotted capital I, whose lower case is `i`
and a combining dot. Every other letter outside ASCII has a lower case outside ASCII,
also where that depends on its neighbours, so leaving it as it stands changes no such
search. -/

namespace PackageProvider.Text

/-- The lower case of a character; letters outside ASCII without an ASCII character in
their lower case stand for themselves. -/
def lowerChar (c : Char) : List Char :=
  if c = '\u212A' then ['k']
  else if c = '\u0130' then ['i', '\u0307']
  else [c.toLower]

def lower (text : List Char) : List Char := text.flatMap lowerChar

end PackageProvider.Text
