import BugArchive.Archive.Stream
import BugArchive.Error
import BugArchive.Log
import BugArchive.Text.Utf8
/-!
The signature of a saved archive: a line with the opening tag of its root element near the start.
Checking for it leaves a stream where it was.
-/
namespace BugArchive.Signature

def line : List Char := "<BugCollection>".toList

def window : Int := 60

def lines (acc : List Char) : List Char → List (List Char)
  | [] => [acc.reverse]
  | '\r' :: '\n' :: cs => acc.reverse :: lines [] cs
  | '\r' :: cs => acc.reverse :: lines [] cs
  | '\n' :: cs => acc.reverse :: lines [] cs
  | c :: cs => lines (c :: acc) cs

def judge (window : Int) (data : List UInt8) : Except Error Unit :=
  if (data.length : Int) < window then .error (.truncated data.length window)
  else if (lines [] (Text.Utf8.decodeLossy data)).contains line then .ok ()
  else .error (.missingSignature window)

structure Outcome where
  log : List Log.Entry
  result : Except Error Unit
  stream : Stream

/-- Only streams that can go back are checked. A window of more octets than memory can have is no
size for a reading, unless readings give less anyway. -/
def check (window : Int) (s : Stream) : Outcome :=
  if s.access = .seekable then
    if s.limit.isNone ∧ Error.indexLimit ≤ window.toNat then ⟨[], .error .indexOverflow, s⟩
    else
    let (data, after) := s.readUpTo window.toNat
    ⟨[], judge window data, after.seek s.position⟩
  else ⟨[.precheckSkipped], .ok (), s⟩

end BugArchive.Signature
