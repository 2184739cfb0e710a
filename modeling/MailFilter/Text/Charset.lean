import MailFilter.Text.Utf8

/-!
# Character sets

A file is decoded under the name of a character set. Which names there are, and how the bytes are
decoded, is up to the machine. Three sets are there on every machine; what they cannot decode
becomes replacement characters.

A name is compared by its ASCII letters and digits and by its dots: case is ignored and every run of
other characters counts as one underscore. In the further names of a set a dot may stand for an
underscore too.
-/
namespace MailFilter.Text

/-- How bytes become text, either all at once or as the contents of a file. A decoder may give the
bytes up. -/
structure Charset where
  decode? : List UInt8 → Option Text
  decodeFile? : List UInt8 → Option Text

namespace Charset

/-- Why there is no character set under a name: nothing has it, or something that makes no text. -/
inductive Fault where
  | unknown
  | notText
  deriving DecidableEq, Repr

/-- The sets that are always there. -/
inductive Standard where
  | utf8
  | latin1
  | ascii
  deriving DecidableEq, Repr

namespace Standard

def isNamePart (c : Char) : Bool := c.isAlphanum || c == '.'

/-- The parts of a name joined by underscores, in lower case. -/
def normalize (name : Text) : Text :=
  let parts := (splitWhere (! isNamePart ·) name).filter (! ·.isEmpty)
  join ['_'] (parts.map (·.map Char.toLower))

def all : List Standard := [utf8, latin1, ascii]

/-- The names that are taken as they are. -/
def ownNames : Standard → List String
  | utf8 => ["utf_8"]
  | latin1 => ["latin_1", "charmap"]
  | ascii => ["ascii"]

/-- The further names of a set. -/
def aliases : Standard → List String
  | utf8 => ["utf8", "u8", "utf", "utf8_ucs2", "utf8_ucs4", "cp65001"]
  | latin1 =>
    ["8859", "cp819", "csisolatin1", "ibm819", "iso8859", "iso8859_1", "iso_8859_1",
      "iso_8859_1_1987", "iso_ir_100", "l1", "latin", "latin1"]
  | ascii =>
    ["646", "ansi_x3.4_1968", "ansi_x3.4_1986", "ansi_x3_4_1968", "cp367", "csascii", "ibm367",
      "iso646_us", "iso_646.irv_1991", "iso_ir_6", "us", "us_ascii"]

/-- The name with underscores for its dots. -/
def withoutDots (name : Text) : Text := name.map fun c => if c == '.' then '_' else c

/-- A normalized name is one of the names of a set. -/
def isNamed (name : Text) (c : Standard) : Bool :=
  c.ownNames.any (·.toList == name) ||
    c.aliases.any fun a => a.toList == name || a.toList == withoutDots name

/-- The set with the given name. -/
def ofName? (name : Text) : Option Standard := all.find? (isNamed (normalize name))

def asciiChar (b : UInt8) : Char :=
  if b.toNat < 0x80 then Char.ofNat b.toNat else Utf8.replacement

/-- Decodes every byte sequence; what the set cannot mean becomes replacement characters. -/
def decode : Standard → List UInt8 → Text
  | utf8, bs => Utf8.decodeLossy bs
  | latin1, bs => bs.map fun b => Char.ofNat b.toNat
  | ascii, bs => bs.map asciiChar

def charset (c : Standard) : Charset := ⟨some ∘ c.decode, some ∘ c.decode⟩

end Standard

/-- The character set with the given name, where there are only those that are always there. -/
def standard (name : Text) : Except Fault Charset :=
  match Standard.ofName? name with
  | some c => .ok c.charset
  | none => .error .unknown

end Charset

end MailFilter.Text
