/-!
Streams of octets that are read from a position on. One reading gives at most `limit` octets, if
there is such a limit, and gives none only at the end.
-/
namespace BugArchive

inductive Access where
  | seekable
  | pipe
  | readOnly
  | closed
deriving DecidableEq, Repr

structure Stream where
  content : List UInt8
  position : Nat
  limit : Option Nat
  access : Access
deriving Repr

namespace Stream

def ofContent (content : List UInt8) : Stream :=
  ⟨content, 0, none, .seekable⟩

def remaining (s : Stream) : List UInt8 :=
  s.content.drop s.position

def seek (s : Stream) (position : Nat) : Stream :=
  { s with position := position }

def reading (s : Stream) (n : Nat) : Nat :=
  (s.limit.map (min n)).getD n

def read (s : Stream) (n : Nat) : List UInt8 × Stream :=
  let chunk := s.remaining.take (s.reading n)
  (chunk, s.seek (s.position + chunk.length))

def readUpTo (s : Stream) (n : Nat) : List UInt8 × Stream :=
  if n = 0 then ([], s)
  else
    let (chunk, s) := s.read n
    if chunk.length = 0 then ([], s)
    else
      let (more, s) := s.readUpTo (n - chunk.length)
      (chunk ++ more, s)
termination_by n
decreasing_by omega

end Stream

end BugArchive
