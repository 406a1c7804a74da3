import BugArchive.Text.CodePoint
import BugArchive.Xml.Encoding

namespace BugArchive

inductive Place where
  | attribute (name : String)
  | text
deriving DecidableEq, Repr

inductive Error where
  | truncated (size : Nat) (window : Int)
  | missingSignature (window : Int)
  | closedStream
  | document (fault : Xml.Fault)
  | unknownElement (tag : String)
  | missingAttribute (tag name : String)
  | notAnInteger (tag name raw : String)
  | notADetail (tag : String)
  | notTopLevel (tag : String)
  | illegalCharacter (tag : String) (place : Place) (p : Text.CodePoint)
  | bareDetail
  | tooManyDigits
  | alreadyRegistered (tag : String)
  | noSuchFile (path : String)
  | isDirectory (path : String)
  | notDirectory (path : String)
  | pathTooLong (path : String)
  | nullInPath
  | nestedTooDeep
  | indexOverflow
  | outOfMemory
deriving DecidableEq, Repr

def maxShownName : Nat := 400

def Xml.Fault.message : Xml.Fault → String
  | .malformed => "Malformed bug collection document"
  | .unknownEncoding name => "unknown encoding: " ++ name
  | .notTextEncoding name =>
    "'" ++ String.ofList (name.toList.take maxShownName) ++
      "' is not a text encoding; use codecs.decode() to handle arbitrary codecs"
  | .multiByteEncoding => "multi-byte encodings are not supported"
  | .strictEncoding name =>
    "decoding with '" ++ name ++ "' codec failed (UnicodeError: Unsupported error handling replace)"
  | .undefinedEncoding name =>
    "decoding with '" ++ name ++ "' codec failed (UnicodeError: undefined encoding)"
  | .punycodeEncoding =>
    "'ascii' codec can't decode byte 0x80 in position 82: ordinal not in range(128)"
  | .brokenCharacter octets position =>
    let what :=
      match octets with
      | [b] => "byte 0x" ++ String.ofList (Text.hexDigits 2 b.toNat) ++ " in position " ++ toString position
      | _ =>
        "bytes in position " ++ toString position ++ "-" ++
          toString (position + octets.length - 1)
    "'utf-8' codec can't decode " ++ what ++ ": unexpected end of data"

def Place.message : Place → String
  | .attribute name => "attribute " ++ Text.quote name
  | .text => "text"

namespace Error

def indexLimit : Nat := 0x8000000000000000

def notSaved (why : String) : String :=
  "XML does not contain saved bug data: " ++ why

def inTag (tag rest : String) : String :=
  "<" ++ tag ++ "> " ++ rest

def message : Error → String
  | truncated size window =>
    notSaved ("stream ended after " ++ toString size ++ " of " ++ toString window ++ " bytes")
  | missingSignature window =>
    notSaved ("no <BugCollection> line in the first " ++ toString window ++ " bytes")
  | closedStream => "I/O operation on closed file."
  | document fault => fault.message
  | unknownElement tag => "Unknown element type: " ++ tag
  | missingAttribute tag name => inTag tag ("is missing required attribute '" ++ name ++ "'")
  | notAnInteger tag name raw =>
    inTag tag ("attribute '" ++ name ++ "' is not an integer: " ++ Text.quote raw)
  | notADetail tag => inTag tag "is not an annotation element"
  | notTopLevel tag => inTag tag "cannot appear at the top level of a bug collection"
  | illegalCharacter tag place p =>
    inTag tag (place.message ++ " contains " ++ p.quote ++ ", which XML documents cannot hold")
  | bareDetail => ""
  | tooManyDigits =>
    "Exceeds the limit (4300 digits) for integer string conversion; " ++
      "use sys.set_int_max_str_digits() to increase the limit"
  | alreadyRegistered tag => "A translator is already registered for element '" ++ tag ++ "'"
  | noSuchFile path => "[Errno 2] No such file or directory: " ++ Text.quote path
  | isDirectory path => "[Errno 21] Is a directory: " ++ Text.quote path
  | notDirectory path => "[Errno 20] Not a directory: " ++ Text.quote path
  | pathTooLong path => "[Errno 36] File name too long: " ++ Text.quote path
  | nullInPath => "embedded null byte"
  | nestedTooDeep => "maximum recursion depth exceeded"
  | indexOverflow => "cannot fit 'int' into an index-sized integer"
  | outOfMemory => ""

def isReported : Error → Bool
  | truncated .. | missingSignature .. | document .malformed | unknownElement .. => true
  | missingAttribute .. | notAnInteger .. | notADetail .. | notTopLevel .. => true
  | illegalCharacter .. | noSuchFile .. | isDirectory .. | notDirectory .. => true
  | pathTooLong .. => true
  | _ => false

end Error

end BugArchive
