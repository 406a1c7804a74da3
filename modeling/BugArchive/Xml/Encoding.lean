import BugArchive.Text.Utf8
import BugArchive.Xml.Charset
import BugArchive.Xml.Letter

namespace BugArchive.Xml

inductive Encoding where
  | utf8
  | utf16 (bigEndian : Bool)
  | latin1
  | ascii
  | single (table : Charset.Table)
deriving DecidableEq, Repr

/-- Why no element can be had from the octets of a document. A `strictEncoding` does not leave out
octets that have no character; of a `brokenCharacter` only the first octets were handed on. -/
inductive Fault where
  | malformed
  | unknownEncoding (name : String)
  | notTextEncoding (name : String)
  | multiByteEncoding
  | strictEncoding (name : String)
  | undefinedEncoding (name : String)
  | punycodeEncoding
  | brokenCharacter (octets : List UInt8) (position : Nat)
deriving DecidableEq, Repr

namespace Encoding

def unit (bigEndian : Bool) (a b : UInt8) : Nat :=
  if bigEndian then 256 * a.toNat + b.toNat else 256 * b.toNat + a.toNat

def decodeUnits (bigEndian : Bool) (acc : List Char) : List UInt8 → Option (List Char)
  | [] => some acc.reverse
  | [_] => none
  | a :: b :: bs =>
    let n := unit bigEndian a b
    if 0xD800 ≤ n ∧ n < 0xDC00 then
      match bs with
      | c :: d :: bs =>
        let m := unit bigEndian c d
        decodeUnits bigEndian (Char.ofNat (0x10000 + n % 0x400 * 0x400 + m % 0x400) :: acc) bs
      | _ => none
    else if 0xDC00 ≤ n ∧ n < 0xE000 then none
    else decodeUnits bigEndian (Char.ofNat n :: acc) bs

def latin1Char (b : UInt8) : Char :=
  Char.ofNat b.toNat

def decodeSingle (codes : Array Nat) (bs : List UInt8) : Option (List Char) :=
  bs.mapM fun b =>
    match codes[b.toNat]? with
    | some n => if n = 0xFFFD then none else some (Char.ofNat n)
    | none => none

def decode : Encoding → List UInt8 → Option (List Char)
  | .utf8, bs => Text.Utf8.decode? bs
  | .utf16 bigEndian, bs => decodeUnits bigEndian [] bs
  | .latin1, bs => some (bs.map latin1Char)
  | .ascii, bs => if bs.all (·.toNat < 0x80) then some (bs.map latin1Char) else none
  | .single table, bs => decodeSingle table.codes.toArray bs

def size : Encoding → Char → Nat
  | .utf8, c => c.utf8Size
  | .utf16 _, c => if c.toNat < 0x10000 then 2 else 4
  | _, _ => 1

def alphabet : Encoding → Alphabet
  | .utf16 _ => .extended
  | .latin1 => .extended
  | _ => .general

def isConverted : Encoding → Bool
  | .utf8 => false
  | .ascii => false
  | _ => true

def isWide : Encoding → Bool
  | .utf16 _ => true
  | _ => false

def detect : List UInt8 → Encoding × List UInt8
  | 0xFE :: 0xFF :: _ => (.utf16 true, [0xFE, 0xFF])
  | 0xFF :: 0xFE :: _ => (.utf16 false, [0xFF, 0xFE])
  | 0xEF :: 0xBB :: 0xBF :: _ => (.utf8, [0xEF, 0xBB, 0xBF])
  | 0x00 :: _ => (.utf16 true, [])
  | _ :: 0x00 :: _ => (.utf16 false, [])
  | _ => (.utf8, [])

def isOpen (b : UInt8) : Bool :=
  b = 0x00 || b = 0x3C || b = 0xEF || b = 0xFE || b = 0xFF

def detectFrom (reading : Option Nat) (bs : List UInt8) : Encoding × List UInt8 :=
  if reading = some 1 ∧ bs.head?.all (!isOpen ·) then (.utf8, []) else detect bs

def cutUnits (bigEndian : Bool) (acc : List UInt8) : List UInt8 → List UInt8 × List UInt8
  | a :: b :: bs =>
    if unit bigEndian a b = 0x3E then ((b :: a :: acc).reverse, bs)
    else cutUnits bigEndian (b :: a :: acc) bs
  | bs => (acc.reverse ++ bs, [])

def cutBracket (e : Encoding) (bs : List UInt8) : List UInt8 × List UInt8 :=
  match e with
  | .utf16 bigEndian => cutUnits bigEndian [] bs
  | _ =>
    let front := bs.takeWhile (· != 0x3E)
    let rest := bs.dropWhile (· != 0x3E)
    (front ++ rest.take 1, rest.drop 1)

def known? (detected : Encoding) (name : String) : Option Encoding :=
  let name := String.ofList (name.toList.map Char.toLower)
  if name = "utf-8" then some .utf8
  else if name = "iso-8859-1" then some .latin1
  else if name = "us-ascii" then some .ascii
  else if name = "utf-16" then some (if detected.isWide then detected else .utf16 true)
  else if name = "utf-16be" then some (.utf16 true)
  else if name = "utf-16le" then some (.utf16 false)
  else none

/-- A declared name may change one encoding of single octets to another. From pairs of octets it
may lead to single ones only by a name that not every reader knows. -/
def declared (detected : Encoding) (name : String) : Except Fault Encoding :=
  match known? detected name with
  | some e =>
    if e = detected ∨ (!e.isWide ∧ !detected.isWide) then .ok e else .error .malformed
  | none =>
    match Charset.ofName? name with
    | none => .error (.unknownEncoding name)
    | some (.single table) => .ok (.single table)
    | some .foreign => .error .malformed
    | some .multiByte => .error .multiByteEncoding
    | some .transform => .error (.notTextEncoding name)
    | some .withoutReplacement => .error (.strictEncoding name)
    | some .undefined => .error (.undefinedEncoding name)
    | some .punycode => .error .punycodeEncoding

end Encoding

end BugArchive.Xml
