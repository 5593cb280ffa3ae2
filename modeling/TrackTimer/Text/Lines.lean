import TrackTimer.Text.Utf8

/-! # Lines

A line ends with a line feed, which a carriage return may precede; what follows the last line feed
is a line of its own unless it is empty. A line is blank if it has only white space characters.
-/

namespace TrackTimer.Text

/-! ## Splitting -/

/-- The state of splitting: the finished lines, the last one first, and the bytes of the current
one, the last one first. -/
structure Splitting where
  finished : List (List UInt8) := []
  current : List UInt8 := []

namespace Splitting

def lineFeed : UInt8 := 10

def carriageReturn : UInt8 := 13

/-- Takes a carriage return off the end of a reversed line. -/
def dropReturn : List UInt8 → List UInt8
  | [] => []
  | b :: rest => if b = carriageReturn then rest else b :: rest

def step (s : Splitting) (b : UInt8) : Splitting :=
  if b = lineFeed then ⟨(dropReturn s.current).reverse :: s.finished, []⟩
  else { s with current := b :: s.current }

def lines (s : Splitting) : List (List UInt8) :=
  if s.current.isEmpty then s.finished.reverse else (s.current.reverse :: s.finished).reverse

end Splitting

/-- The lines of a file. -/
def lines (file : List UInt8) : List (List UInt8) :=
  (file.foldl Splitting.step {}).lines

/-! ## Blank lines -/

/-- The white space characters. -/
def blankCodes : List Nat :=
  [0x09, 0x0a, 0x0b, 0x0c, 0x0d, 0x20, 0x85, 0xa0, 0x1680,
   0x2000, 0x2001, 0x2002, 0x2003, 0x2004, 0x2005, 0x2006, 0x2007, 0x2008, 0x2009, 0x200a,
   0x2028, 0x2029, 0x202f, 0x205f, 0x3000]

/-- Whether a character is white space. -/
def isBlank (c : Char) : Bool := blankCodes.contains c.toNat

end TrackTimer.Text
