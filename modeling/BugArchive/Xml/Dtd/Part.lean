import BugArchive.Text.Utf8
import BugArchive.Xml.Dtd.Stretch
import BugArchive.Xml.Encoding
/-!
Parts of literals. Literals of a document in another encoding than UTF-8 are handed on in parts. A
part that begins with an ampersand is taken for a reference, which nothing stands for.
-/
namespace BugArchive.Xml.Dtd.Part

def maxSize : Nat := 1024

def split (acc : List (List Char)) (part : List Char) (size : Nat) :
    List Char → List (List Char)
  | [] => (part.reverse :: acc).reverse
  | c :: cs =>
    if size + c.utf8Size ≤ maxSize then split acc (c :: part) (size + c.utf8Size) cs
    else split (part.reverse :: acc) [c] c.utf8Size cs

def fault? (part : List Char) : Option Fault :=
  match part, part.getLast? with
  | '&' :: _ :: _, some c =>
    let octets := Text.Utf8.encode [c]
    if octets.length = 1 then some .malformed
    else some (.brokenCharacter octets.dropLast
      ((Text.Utf8.encode part).length - octets.length - 1))
  | _, _ => none

def firstFault (stretches : List Stretch) : Option Fault :=
  stretches.findSome? fun s =>
    match s with
    | .literal cs _ => (split [] [] 0 cs).findSome? fault?
    | .markup _ => none

end BugArchive.Xml.Dtd.Part
