import PackageProvider.Json.Token

set_option autoImplicit false

/-! From tokens to a JSON value. The tokens are taken one after the other by a machine whose
stack holds the arrays and objects that are not closed yet. -/

namespace PackageProvider.Json

/-- An array or object that is not closed: what it holds so far, the items of an array
latest first, and the key that waits for its value in an object. -/
inductive Frame where
  | array (items : List Value)
  | object (entries : List (String × Value)) (key : String)
  deriving Repr, Inhabited

/-- What may come next. -/
inductive Reading where
  | value (stack : List Frame)
  | firstItem (stack : List Frame)
  | firstKey (stack : List Frame)
  | key (entries : List (String × Value)) (stack : List Frame)
  | colon (entries : List (String × Value)) (key : String) (stack : List Frame)
  | arrayNext (items : List Value) (stack : List Frame)
  | objectNext (entries : List (String × Value)) (stack : List Frame)
  | done (value : Value)
  deriving Repr, Inhabited

namespace Reading

def depthLimit : Nat := 127

def complete (found : Value) : List Frame → Reading
  | [] => done found
  | .array items :: stack => arrayNext (found :: items) stack
  | .object entries name :: stack => objectNext (insertEntry name found entries) stack

def enter (stack : List Frame) (reading : Reading) : Option Reading :=
  if stack.length < depthLimit then some reading else none

def begin (stack : List Frame) : Token → Option Reading
  | .openArray => enter stack (firstItem stack)
  | .openObject => enter stack (firstKey stack)
  | .string text => some (complete (.string text) stack)
  | .atom found => some (complete found stack)
  | .closeArray | .closeObject | .comma | .colon => none

def step (reading : Reading) (token : Token) : Option Reading :=
  match reading, token with
  | value stack, token => begin stack token
  | firstItem stack, .closeArray => some (complete (.array []) stack)
  | firstItem stack, token => begin (.array [] :: stack) token
  | firstKey stack, .closeObject => some (complete (.object []) stack)
  | firstKey stack, .string name => some (colon [] name stack)
  | key entries stack, .string name => some (colon entries name stack)
  | colon entries name stack, .colon => some (value (.object entries name :: stack))
  | arrayNext items stack, .comma => some (value (.array items :: stack))
  | arrayNext items stack, .closeArray => some (complete (.array items.reverse) stack)
  | objectNext entries stack, .comma => some (key entries stack)
  | objectNext entries stack, .closeObject => some (complete (.object entries) stack)
  | firstKey _, _ | key _ _, _ | colon _ _ _, _ => none
  | arrayNext _ _, _ | objectNext _ _, _ | done _, _ => none

end Reading

def ofTokens (tokens : List Token) : Option Value :=
  match tokens.foldlM Reading.step (.value []) with
  | some (.done value) => some value
  | _ => none

def parse (text : List Char) : Option Value := (Token.tokens text).bind ofTokens

end PackageProvider.Json
