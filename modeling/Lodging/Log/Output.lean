import Lodging.Log.Bytes
import Lodging.Log.Conditions

/-!
# Buffered output

A file at whose end bytes are written through a buffer. Small pieces wait in the buffer until it
would overflow or is drained. A write that fails has taken some of the bytes, and these are gone
from the buffer.
-/

namespace Lodging.Log

/-- A file and the bytes that wait to be written at its end. -/
structure Output where
  file : Bytes
  unwritten : Bytes
deriving DecidableEq

namespace Output

def bufferSize : Nat := 8192

def spare (o : Output) : Nat := bufferSize - o.unwritten.length

/-- Writes out the buffer as far as the disk allows. -/
def drain (c : Conditions) (o : Output) : Output :=
  let n := c.fitting o.file.length o.unwritten.length
  ⟨o.file ++ o.unwritten.take n, o.unwritten.drop n⟩

/-- Writes one piece past the empty buffer as far as the disk allows, and says whether all of it was
taken. -/
def writeThrough (c : Conditions) (piece : Bytes) (o : Output) : Bool × Output :=
  let n := c.fitting o.file.length piece.length
  (n = piece.length, { o with file := o.file ++ piece.take n })

/-- Puts a piece into a buffer that has room for it, or writes it past the buffer if it is as large
as the whole buffer. -/
def place (c : Conditions) (piece : Bytes) (o : Output) : Bool × Output :=
  if bufferSize ≤ piece.length then o.writeThrough c piece
  else (true, { o with unwritten := o.unwritten ++ piece })

/-- Writes a piece, draining the buffer first if the piece does not fit, and says whether all of it
was taken. -/
def write (c : Conditions) (piece : Bytes) (o : Output) : Bool × Output :=
  if o.spare < piece.length then
    let drained := o.drain c
    if drained.unwritten = [] then drained.place c piece else (false, drained)
  else o.place c piece

/-- Writes several pieces, up to the first that is not taken. -/
def writeAll (c : Conditions) : List Bytes → Output → Bool × Output
  | [], o => (true, o)
  | piece :: rest, o =>
    match o.write c piece with
    | (true, o) => o.writeAll c rest
    | (false, o) => (false, o)

end Output

end Lodging.Log
