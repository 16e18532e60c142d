import CompileSession.Text.Octets

/-!
# The front of a database file

The first hundred octets of a file say whether it can be a database: a mark, then the size of its
pages, the versions that may read it, three octets that never change, the number of its pages and
the format of its tables. What the front lacks counts as zeros.

`frontFault` says why octets that were not written as a database are none: their front is not that
of one, or it is, but what it announces is not there. `Front.page` is all that is in a new file for
as long as what is written to it is only logged.
-/

namespace CompileSession

/-- Why the octets of a file are no database. -/
inductive FrontFault where
  | noDatabase
  | damaged
  | unknownFormat
deriving DecidableEq, Repr

/-- The text of a front fault. -/
def FrontFault.message : FrontFault → String
  | .noDatabase => "file is not a database"
  | .damaged => "database disk image is malformed"
  | .unknownFormat => "unsupported file format"

namespace Front

/-- The number of octets in a front. -/
def length : Nat := 100

/-- The octets at the beginning of every database. -/
def mark : List UInt8 := Text.encode "SQLite format 3\x00".toList

/-- The octets that never change, after those for the versions and the room kept on each page. -/
def constants : List UInt8 := [64, 32, 32]

/-- The sizes that pages may have. -/
def pageSizes : List Nat := [512, 1024, 2048, 4096, 8192, 16384, 32768, 65536]

/-- The least part of a page that must be left to the database. -/
def leastUsable : Nat := 480

/-- The newest version that may read a database, and the newest format of its tables. -/
def newest : UInt8 × UInt8 := (2, 4)

/-- The front of a file. -/
def of (values : List UInt8) : List UInt8 :=
  values.take length ++ List.replicate (length - values.length) 0

/-- A part of a front. -/
def part (front : List UInt8) (start count : Nat) : List UInt8 := (front.drop start).take count

/-- One octet of a front. -/
def octet (front : List UInt8) (position : Nat) : UInt8 := (front[position]?).getD 0

/-- The number that octets spell, the greatest first. -/
def number (values : List UInt8) : Nat := values.foldl (fun n v => 256 * n + v.toNat) 0

/-- The size of the pages. The largest is spelt as 1. -/
def pageSize (front : List UInt8) : Nat :=
  256 * (octet front 16).toNat + 65536 * (octet front 17).toNat

/-- The number of pages that a front announces, which counts only if the file was not changed since
by a program that does not keep it. -/
def announced (front : List UInt8) : Nat :=
  if part front 24 4 = part front 92 4 then number (part front 28 4) else 0

/-- The number of octets in a page of a new file. -/
def newPageSize : Nat := 4096

/-- The first page of a new file: the front, with one page and one change, by a program that puts
its own number beside them, and then a table without rows. -/
def page : List UInt8 :=
  let page := mark ++ [0x10, 0, 2, 2, 0] ++ constants ++ [0, 0, 0, 1, 0, 0, 0, 1]
    ++ List.replicate 60 0 ++ [0, 0, 0, 1, 0, 0x2e, 0x7a, 0x70, 0x0d, 0, 0, 0, 0, 0x10]
  page ++ List.replicate (newPageSize - page.length) 0

/-- The octets with which a log begins. -/
def logMark : List UInt8 := [0x37, 0x7f, 0x06, 0x82]

/-- The octets with which the index of a log begins. -/
def indexMark : List UInt8 := [0x18, 0xe2, 0x2d, 0]

end Front

open Front in
/-- Why octets that were not written as a database are none. -/
def frontFault (values : List UInt8) : FrontFault :=
  let front := Front.of values
  let size := pageSize front
  if part front 0 16 ≠ mark ∨ newest.1 < octet front 19 ∨ part front 21 3 ≠ constants
      ∨ !pageSizes.contains size then .noDatabase
  else if (values.length + size - 1) / size < announced front then .damaged
  else if size - (octet front 20).toNat < leastUsable then .noDatabase
  else if newest.2 < octet front 47 then .unknownFormat
  else .damaged

end CompileSession
