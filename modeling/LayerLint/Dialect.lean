import LayerLint.Text.LetterCase

/-! The source languages and how a file name tells them. -/

namespace LayerLint

inductive Dialect where
  | java
  | csharp
  deriving DecidableEq, Repr

namespace Dialect

/-- The language of a file extension, in any case of its ASCII letters. -/
def ofExtension? (extension : String) : Option Dialect :=
  match Text.lowerAscii extension with
  | "java" => some .java
  | "cs" => some .csharp
  | _ => none

end Dialect

end LayerLint
