/-!
# Files

What a path leads to: the bytes of a file, or the reason why there are none.
-/

namespace WikibaseQuery

/-- Why the content of a file cannot be had. -/
inductive FileFault where
  | absent
  /-- A directory on the path is no directory. -/
  | throughFile
  | directory
  | denied
  /-- The path, or a name in it, is longer than a file system takes. -/
  | nameTooLong
  /-- The content is not UTF-8. -/
  | notText
  deriving DecidableEq, Repr

/-- The reason in words. -/
def FileFault.message : FileFault → String
  | absent => "No such file or directory (os error 2)"
  | throughFile => "Not a directory (os error 20)"
  | directory => "Is a directory (os error 21)"
  | denied => "Permission denied (os error 13)"
  | nameTooLong => "File name too long (os error 36)"
  | notText => "stream did not contain valid UTF-8"

/-- Whether the path leads to nothing. -/
def FileFault.isNothing : FileFault → Bool
  | absent | throughFile | nameTooLong => true
  | directory | denied | notText => false

/-- What a path leads to: the bytes of a file, or the reason why there are none. -/
abbrev FileContent := Except FileFault ByteArray

/-- The text of a file. -/
def FileContent.text (content : FileContent) : Except FileFault String := do
  match String.fromUTF8? (← content) with
  | some text => return text
  | none => throw .notText

end WikibaseQuery
