namespace PatchSearch

inductive FileError where
  | notFound
  | notADirectory
  | isADirectory
  | alreadyThere
  | notEmpty
  | nameTooLong
  | tooManyLinks
  /-- What a device or a tree of files has no room for. -/
  | noSpace
  /-- A change that makes no sense, such as moving a directory into itself. -/
  | invalid
  | tooLong
  /-- What nobody may do. -/
  | forbidden
  | badDescriptor
  /-- The character with number zero ends a name and cannot stand in one. -/
  | badName
  /-- The bytes of the file are no text. -/
  | notText
deriving Repr, DecidableEq

/-- The words of the operating system for an error. -/
def FileError.message : FileError → String
  | .notFound => "No such file or directory (os error 2)"
  | .notADirectory => "Not a directory (os error 20)"
  | .isADirectory => "Is a directory (os error 21)"
  | .alreadyThere => "File exists (os error 17)"
  | .notEmpty => "Directory not empty (os error 39)"
  | .nameTooLong => "File name too long (os error 36)"
  | .tooManyLinks => "Too many levels of symbolic links (os error 40)"
  | .noSpace => "No space left on device (os error 28)"
  | .invalid => "Invalid argument (os error 22)"
  | .tooLong => "Argument list too long (os error 7)"
  | .forbidden => "Permission denied (os error 13)"
  | .badDescriptor => "Bad file descriptor (os error 9)"
  | .badName => "file name contained an unexpected NUL byte"
  | .notText => "stream did not contain valid UTF-8"

/-- A name that stands for none of the things of a sort. -/
structure UnknownName where
  sort : String
  name : String
deriving Repr, DecidableEq

def UnknownName.message (u : UnknownName) : String :=
  "unknown " ++ u.sort ++ ": " ++ u.name

inductive Cause where
  | text (s : String)
  | file (e : FileError)
  /-- A text is no JSON, or not of the expected form. -/
  | malformed
deriving Repr, DecidableEq

def Cause.message : Cause → String
  | .text s => s
  | .file e => e.message
  | .malformed => "malformed JSON text"

/-- A chain of reasons, the outermost first. -/
structure Failure where
  causes : List Cause
deriving Repr, DecidableEq

namespace Failure

def ofText (s : String) : Failure := ⟨[.text s]⟩

def ofFile (e : FileError) : Failure := ⟨[.file e]⟩

def within (f : Failure) (attempt : String) : Failure := ⟨.text attempt :: f.causes⟩

/-- All reasons on one line. -/
def message (f : Failure) : String :=
  ": ".intercalate (f.causes.map Cause.message)

end Failure

/-- A result of two steps comes from results of both. -/
theorem exists_ok_of_bind {ε α β : Type} {x : Except ε α} {f : α → Except ε β} {b : β}
    (h : x >>= f = .ok b) : ∃ a, x = .ok a ∧ f a = .ok b := by
  cases x with
  | error e => cases h
  | ok a => exact ⟨a, rfl, h⟩

theorem ok_of_mapError {ε ε' α : Type} {f : ε → ε'} {x : Except ε α} {a : α}
    (h : x.mapError f = .ok a) : x = .ok a := by
  cases x with
  | error e => cases h
  | ok b => exact congrArg Except.ok (Except.ok.inj h)

theorem ok_of_toOption {ε α : Type} {x : Except ε α} {a : α} (h : x.toOption = some a) :
    x = .ok a := by
  cases x with
  | error e => cases h
  | ok b => exact congrArg Except.ok (Option.some.inj h)

/-- A result of two steps in a world comes from results of both. -/
theorem exists_run_of_bind {ω α β : Type} {x : StateM ω α} {f : α → StateM ω β} {w w' : ω} {b : β}
    (h : (x >>= f).run w = (b, w')) : ∃ a w₁, x.run w = (a, w₁) ∧ (f a).run w₁ = (b, w') :=
  ⟨(x.run w).1, (x.run w).2, rfl, h⟩

end PatchSearch
