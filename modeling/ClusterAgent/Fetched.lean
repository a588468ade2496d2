import ClusterAgent.Json.Encoding
import ClusterAgent.Text.Blank

/-!
Documents that have been fetched over HTTP, and the text that they hold.
-/
namespace ClusterAgent

structure FetchedDocument where
  status : Int
  contentType : Option String := none
  body : List UInt8
  deriving Repr, DecidableEq

/-- How the bytes of a text are to be read, in the most usual ways. -/
inductive Charset
  | utf8
  /-- Every byte is the code point of its number. -/
  | latin1
  /-- Bytes past 127 stand for nothing. -/
  | ascii
  deriving Repr, DecidableEq

namespace Charset

def named : List (String × Charset) :=
  [("iso-8859-1", latin1), ("iso8859-1", latin1), ("latin-1", latin1), ("latin1", latin1),
    ("l1", latin1), ("us-ascii", ascii), ("ascii", ascii)]

/-- A name that is not known stands for UTF-8. -/
def ofName (name : String) : Charset := (named.lookup name).getD utf8

/-- The text of some bytes, with U+FFFD for what is ill-formed. -/
def decode (c : Charset) (bytes : List UInt8) : List Char :=
  match c with
  | utf8 => Utf8.decodeReplacing bytes
  | latin1 => bytes.map fun b => Char.ofNat b.toNat
  | ascii => bytes.map fun b => if b < 0x80 then Char.ofNat b.toNat else '\uFFFD'

end Charset

namespace FetchedDocument

def isSuccess (d : FetchedDocument) : Bool := 200 ≤ d.status && d.status < 300

/-- The value of a parameter of a content type, in lower case and without quotes. -/
def parameter? (contentType name : String) : Option String :=
  ((contentType.splitOn ";").drop 1).findSome? fun part =>
    match part.splitOn "=" with
    | key :: value =>
      if (Text.trim key).toLower = name then
        some (Text.trimOf '"' (Text.trim ("=".intercalate value))).toLower
      else none
    | [] => none

/-- The body as text for a reader that knows no other character sets. -/
def text (d : FetchedDocument) : String :=
  let charset := (d.contentType.bind fun t => parameter? t "charset").elim .utf8 Charset.ofName
  String.ofList (charset.decode d.body)

end FetchedDocument
end ClusterAgent
