/-!
The characters that a YAML document may have.

A text is taken in blocks of bytes. A block with a character that no document may have is refused
as a whole, so what is read of such a text ends with the block before.
-/

namespace ReportRouting.Yaml

def byteOrderMark : Char :=
  '\ufeff'

def isPermitted (c : Char) : Bool :=
  let n := c.toNat
  n == 0x09 || n == 0x0A || n == 0x0D || (0x20 ≤ n && n ≤ 0x7E) || n == 0x85
    || (0xA0 ≤ n && n ≤ 0xFFFD) || 0x10000 ≤ n

/-- What can be read of a text, and whether that is all of it. -/
structure Source where
  text : List Char
  whole : Bool
  deriving DecidableEq, Repr

def blockSize : Nat :=
  16384

/-- Adds the characters of a text to the current block, in which some bytes are free, or to the
next one. The characters before are given latest first. -/
def takeBlocks (done block : List Char) (free : Nat) : List Char → Source
  | [] => ⟨(block ++ done).reverse, true⟩
  | c :: rest =>
    if c.utf8Size ≤ free then
      if isPermitted c then takeBlocks done (c :: block) (free - c.utf8Size) rest
      else ⟨done.reverse, false⟩
    else if isPermitted c then
      takeBlocks (block ++ done) [c] (blockSize - c.utf8Size) rest
    else ⟨(block ++ done).reverse, false⟩

def Source.of (s : List Char) : Source :=
  match s with
  | [] => ⟨[], true⟩
  | c :: rest =>
    if c = byteOrderMark then takeBlocks [] [] (blockSize - c.utf8Size) rest
    else takeBlocks [] [] blockSize (c :: rest)

end ReportRouting.Yaml
