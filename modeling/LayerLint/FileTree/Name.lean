import LayerLint.Path
import LayerLint.Text.Utf8

/-! The names of entries. To the file system a name is bytes, which need not be those of a text; a
scan shows every name as a text, with replacements where it has to. -/

namespace LayerLint

/-- A name as the file system has it. -/
structure RawName where
  bytes : List UInt8
  deriving DecidableEq, Repr

namespace RawName

def ofText (name : String) : RawName :=
  ⟨Text.utf8 name⟩

def shown (name : RawName) : String :=
  String.ofList (Text.charsOfBytes name.bytes)

/-- The bytes after the last dot. -/
def extension? (name : RawName) : Option (List UInt8) :=
  Path.afterLastDot? 46 name.bytes

end RawName

/-- What a scan makes of names: the text that it shows, and the extension where that is a text. -/
class Naming (ν : Type) where
  shown : ν → String
  extension? : ν → Option String

instance : Naming String where
  shown name := name
  extension? := Path.extensionOf?

instance : Naming RawName where
  shown := RawName.shown
  extension? name := name.extension?.bind Text.ofUtf8?

end LayerLint
