import MailFilter.Sieve.Quote
import MailFilter.Text.Case

/-!
# Message fields

The part of a message that a rule looks at. Parts are written in several ways, with and without a
leading mark and a final colon; a part that is not known is the name of a header.
-/
namespace MailFilter.Sieve

inductive Comparator where
  | is
  | contains
  | matching
  deriving DecidableEq, Repr

def Comparator.text : Comparator → Text
  | is => ":is".toList
  | contains => ":contains".toList
  | matching => ":matches".toList

/-- What a test reads: headers as they stand, headers that hold addresses, or the body. -/
inductive Field where
  | header (names : List Text)
  | address (names : List Text)
  | body
  deriving DecidableEq, Repr

namespace Field

def names : Field → List Text
  | header ns => ns
  | address ns => ns
  | body => []

def isBody : Field → Bool
  | body => true
  | _ => false

/-- Exact comparison looks at the address alone; other comparisons see the whole header, display
name included. -/
def testName : Field → Comparator → Text
  | address _, .is => "address".toList
  | _, _ => "header".toList

/-- The header names as a script writes them: one string, or a bracketed list. -/
def namesText (f : Field) : Text :=
  match f.names with
  | [n] => quote n
  | ns => '[' :: Text.join ", ".toList (ns.map quote) ++ [']']

def sender : Field := address ["From".toList]

def recipient : Field := address ["To".toList]

def subject : Field := header ["Subject".toList]

def anyRecipient : Field := address ["To".toList, "Cc".toList, "Bcc".toList]

def replyTo : Field := header ["Reply-To".toList]

def anyHeader : Field :=
  header ["From".toList, "To".toList, "Cc".toList, "Bcc".toList, "Subject".toList,
    "Reply-To".toList]

/-- The known parts. -/
def known : List (Text × Field) :=
  [("from".toList, sender),
    ("to".toList, recipient),
    ("subject".toList, subject),
    ("any recipient".toList, anyRecipient),
    ("any_recipient".toList, anyRecipient),
    ("anyrecipient".toList, anyRecipient),
    ("reply".toList, replyTo),
    ("reply-to".toList, replyTo),
    ("reply_to".toList, replyTo),
    ("body".toList, body),
    ("message_body".toList, body),
    ("any header".toList, anyHeader),
    ("any_header".toList, anyHeader),
    ("anyheader".toList, anyHeader),
    ("message_headers".toList, anyHeader)]

/-- The marks that may stand before the name of a part; the first that fits is taken off. -/
def marks : List Text :=
  ["$header_".toList, "$h_".toList, "header_".toList, "h_".toList, "$".toList]

def dropMark (s : Text) : Text :=
  match marks.find? (Text.startsWith s ·) with
  | some m => s.drop m.length
  | none => s

def dropColon (s : Text) : Text := if Text.endsWith s [':'] then s.dropLast else s

/-- The name of a part in lower case, without its mark and its final colon. -/
def partName (part : Text) : Text :=
  Text.trim (dropColon (dropMark (Text.lower (Text.trim part))))

/-- Each word of a header name starts with a capital. -/
def headerName (name : Text) : Text :=
  Text.join ['-'] ((Text.splitOn '-' name).map Text.capitalize)

/-- The field that a part means; an empty part means the subject. -/
def ofPart (part : Text) : Field :=
  let name := partName part
  match known.lookup name with
  | some f => f
  | none => if name.isEmpty then subject else header [headerName name]

end Field

end MailFilter.Sieve
