import VersionStamp.Path

/-! # Failures and their classes: a `Failure` is a cause inside any number of context texts. -/

namespace VersionStamp

/-- The five classes of failure. The command line turns each into an exit status. -/
inductive Category
  | usage
  | fileAccess
  | notFound
  | ambiguous
  | limitExceeded
  deriving DecidableEq, Repr

/-- Why a text cannot name a constant. -/
inductive NameProblem
  /-- The text is empty. -/
  | empty
  /-- The first character is neither an ASCII letter nor `_`. -/
  | badStart
  /-- A later character is neither an ASCII letter, a digit nor `_`. -/
  | badChar
  /-- The name is a valid identifier, but the pattern built from it passes the size limit. -/
  | patternTooLarge
  deriving DecidableEq, Repr

/-- The explanation given after the name. -/
def NameProblem.reason : NameProblem → String
  | .empty => "name is empty"
  | .badStart => "must start with an ASCII letter or underscore"
  | .badChar => "may only contain ASCII letters, digits and underscores"
  | .patternTooLarge => "Compiled regex exceeds size limit of 10485760 bytes."

/-- Failures of the rules themselves: the file's content or the requested name is at fault. -/
inductive DomainError
  /-- No declaration of the name. -/
  | notFound (name : String)
  /-- More than one declaration; `count` of them. -/
  | ambiguous (name : String) (count : Nat)
  /-- The value may not grow past `ceiling`. -/
  | limitExceeded (name : String) (value ceiling : UInt64)
  /-- The digits of the declaration denote a number of more than 64 bits. -/
  | valueOverflow (name : String) (digits : String)
  /-- The requested name is refused. -/
  | invalidName (name : String) (problem : NameProblem)
  deriving DecidableEq, Repr

/-- The text of a domain failure. -/
def DomainError.message : DomainError → String
  | .notFound name => s!"{name} not found in the file"
  | .ambiguous name count => s!"found {count} matches for {name}; expected exactly one"
  | .limitExceeded name value ceiling =>
    s!"cannot increment {name} beyond {ceiling} (current value {value})"
  | .valueOverflow name digits => s!"value of {name} ({digits}) does not fit in 64 bits"
  | .invalidName name problem => s!"invalid constant name '{name}': {problem.reason}"

/-- The class of a domain failure: an overflowing value counts as a passed limit, a refused
name as a usage error. -/
def DomainError.category : DomainError → Category
  | .notFound .. => .notFound
  | .ambiguous .. => .ambiguous
  | .limitExceeded .. => .limitExceeded
  | .valueOverflow .. => .limitExceeded
  | .invalidName .. => .usage

/-- Why an access to a file was refused. -/
inductive IoFault
  /-- A component of the path does not exist. -/
  | noEntry
  /-- A component that should be a directory is not one. -/
  | notDirectory
  /-- The path names a directory where a file was expected. -/
  | isDirectory
  /-- Resolving the path follows too many symbolic links. -/
  | linkLoop
  /-- The path, or one of its components, is longer than the system allows. -/
  | nameTooLong
  /-- The device is full. -/
  | noSpace
  /-- A store's own explanation. -/
  | refused (text : String)
  deriving DecidableEq, Repr

/-- The text of a refused access, as the operating system words it. -/
def IoFault.message : IoFault → String
  | .noEntry => "No such file or directory (os error 2)"
  | .notDirectory => "Not a directory (os error 20)"
  | .isDirectory => "Is a directory (os error 21)"
  | .linkLoop => "Too many levels of symbolic links (os error 40)"
  | .nameTooLong => "File name too long (os error 36)"
  | .noSpace => "No space left on device (os error 28)"
  | .refused text => text

/-- A refused read or write of the file at `path`. -/
inductive StoreError
  | read (path : FilePath) (fault : IoFault)
  | write (path : FilePath) (fault : IoFault)
  deriving DecidableEq, Repr

/-- The text of a refused access. -/
def StoreError.message : StoreError → String
  | .read path fault => s!"failed to access '{path}' for reading: {fault.message}"
  | .write path fault => s!"failed to access '{path}' for writing: {fault.message}"

/-- The innermost reason of a failure. -/
inductive Cause
  | domain (e : DomainError)
  | store (e : StoreError)
  /-- The command line names no file. -/
  | missingFile
  deriving DecidableEq, Repr

/-- The text of a cause. -/
def Cause.message : Cause → String
  | .domain e => e.message
  | .store e => e.message
  | .missingFile => "'bump' needs an argument of the file to be parsed"

/-- The class of a cause: every refused access is a file access failure, a missing file
argument is a usage error. -/
def Cause.category : Cause → Category
  | .domain e => e.category
  | .store _ => .fileAccess
  | .missingFile => .usage

/-- A failure as it is passed up: a cause, or a failure inside one more context text. -/
inductive Failure
  /-- A failure with a context text in front of it. -/
  | context (text : String) (source : Failure)
  /-- A cause with no context around it. -/
  | of (cause : Cause)
  deriving DecidableEq, Repr

/-- Wraps a failure in one more context, which becomes the outermost. -/
def Failure.within (context : String) (f : Failure) : Failure := .context context f

/-- The class of a failure is the class of what it wraps. -/
def Failure.category : Failure → Category
  | .context _ source => source.category
  | .of cause => cause.category

/-- A context followed by `": "` and the text of what it wraps. -/
def Failure.message : Failure → String
  | .context text source => text ++ ": " ++ source.message
  | .of cause => cause.message

/-- The context texts of a failure, the outermost first. -/
def Failure.contexts : Failure → List String
  | .context text source => text :: source.contexts
  | .of _ => []

/-- The cause inside all the contexts of a failure. -/
def Failure.cause : Failure → Cause
  | .context _ source => source.cause
  | .of cause => cause

/-- The line printed on the error stream for a failed run. -/
def Failure.errorLine (f : Failure) : String := "ERROR: " ++ f.message

end VersionStamp
