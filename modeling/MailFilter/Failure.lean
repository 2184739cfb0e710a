import MailFilter.Text.Quoted
import MailFilter.Yaml.Fault

/-!
# Failures

Everything that can stop a run. Work on one file goes on to the next after a failure of the file
system and after a document that holds no filters; all other failures end the run.
-/
namespace MailFilter

/-- What the file system refuses. -/
inductive DiskFault where
  | notFound
  | alreadyThere
  | notFolder
  | isFolder
  | nameTooLong
  deriving DecidableEq, Repr

namespace DiskFault

variable [Platform]

def code : DiskFault → Nat
  | notFound => 2
  | alreadyThere => 17
  | notFolder => 20
  | isFolder => 21
  | nameTooLong => 36

def reason : DiskFault → Text
  | notFound => "No such file or directory".toList
  | alreadyThere => "File exists".toList
  | notFolder => "Not a directory".toList
  | isFolder => "Is a directory".toList
  | nameTooLong => "File name too long".toList

def message (f : DiskFault) (path : Text) : Text :=
  "[Errno ".toList ++ Text.ofNat f.code ++ "] ".toList ++ f.reason ++ ": ".toList ++
    Text.quoted path

end DiskFault

/-- Why a document gives no filter set. -/
inductive LoadFault where
  | invalidDocument
  | notMapping (type : Text)
  deriving DecidableEq, Repr

def LoadFault.message : LoadFault → Text
  | invalidDocument => "invalid filter YAML".toList
  | notMapping type => "expected a mapping at top level, got ".toList ++ type

inductive Failure where
  | disk (fault : DiskFault) (path : Text)
  | load (fault : LoadFault)
  | document (fault : Yaml.Fault)
  | unknownCharset (name : Text)
  | notCharset
  | unusableCharset
  | unknownLevel
  | missingKey (key : Text)
  | wrongType
  | unusablePath
  | unusableStream
  | unknownHome
  | undecodable
  | unencodable
  | invalidJson
  | deepJson
  | oversizedNumber
  | deepValue
  | exit (status : Nat)
  deriving DecidableEq, Repr

namespace Failure

/-- Failures after which a batch goes on. -/
def isTolerable : Failure → Bool
  | disk _ _ => true
  | load _ => true
  | _ => false

/-- The text of a failure, for those that have one. -/
def message? [Platform] : Failure → Option Text
  | disk f path => some (f.message path)
  | load f => some f.message
  | document (.unknownWord w) => some (Text.quoted w)
  | unknownCharset name => some ("unknown encoding: ".toList ++ name)
  | missingKey key => some (Text.quoted key)
  | exit status => some (Text.ofNat status)
  | _ => none

end Failure

end MailFilter
