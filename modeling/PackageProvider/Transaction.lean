import PackageProvider.Build

set_option autoImplicit false

/-! What is asked of an engine, and what it makes of it: a goal is a list of directives,
and resolving it gives a transaction. -/

namespace PackageProvider

inductive Verb where
  | install
  | remove
  | upgrade
  deriving DecidableEq, Repr, Inhabited

namespace Verb

def all : List Verb := [.install, .remove, .upgrade]

def word : Verb → String
  | .install => "install"
  | .remove => "remove"
  | .upgrade => "upgrade"

instance : ToString Verb := ⟨word⟩

end Verb

structure Directive where
  verb : Verb
  spec : String
  deriving DecidableEq, Repr, Inhabited

instance : ToString Directive := ⟨fun directive => directive.verb.word ++ " " ++ directive.spec⟩

/-- The builds that will be installed and those that will go, each in engine order. -/
structure Transaction where
  installs : List Build := []
  removals : List Build := []
  deriving DecidableEq, Repr, Inhabited

namespace Transaction

def isEmpty (transaction : Transaction) : Bool :=
  transaction.installs.isEmpty && transaction.removals.isEmpty

def size (transaction : Transaction) : Nat :=
  transaction.installs.length + transaction.removals.length

end Transaction

end PackageProvider
