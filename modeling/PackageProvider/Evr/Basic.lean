import PackageProvider.Text.Pieces

set_option autoImplicit false

/-! An EVR: the epoch, version and release that order the builds of one package. Its
text is `epoch:version-release`, where the epoch may be missing and so may the release. -/

namespace PackageProvider

structure Evr where
  epoch : UInt64
  version : List Char
  release : Option (List Char)
  deriving DecidableEq, Repr

namespace Evr

def number (digits : List Char) : Nat :=
  digits.foldl (fun value digit => value * 10 + (digit.toNat - '0'.toNat)) 0

/-- An epoch that 64 bits cannot hold counts as zero, as does an empty one. -/
def epochOf (digits : List Char) : UInt64 :=
  if number digits < UInt64.size then UInt64.ofNat (number digits) else 0

def withEpoch (epoch : UInt64) (text : List Char) : Evr :=
  match Text.cutLast? '-' text with
  | some (version, release) => ⟨epoch, version, some release⟩
  | none => ⟨epoch, text, none⟩

/-- Every text is some EVR. What stands before the first colon is an epoch if it is made
of digits alone, or of nothing; otherwise the colon belongs to the version. -/
def ofChars (text : List Char) : Evr :=
  match Text.cutFirst? ':' text with
  | some (before, after) =>
      if before.all Char.isDigit then withEpoch (epochOf before) after else withEpoch 0 text
  | none => withEpoch 0 text

def ofString (text : String) : Evr := ofChars text.toList

def versionRelease (evr : Evr) : List Char :=
  match evr.release with
  | some release => evr.version ++ '-' :: release
  | none => evr.version

def toChars (evr : Evr) : List Char :=
  if evr.epoch = 0 then evr.versionRelease
  else evr.epoch.toNat.repr.toList ++ ':' :: evr.versionRelease

instance : ToString Evr := ⟨fun evr => String.ofList evr.toChars⟩

end Evr

end PackageProvider
