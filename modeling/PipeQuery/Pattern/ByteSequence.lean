import PipeQuery.Power

/-!
# Byte sequences

Characters are matched by the bytes that encode them, of which there are one to four. A range of
characters becomes sequences of ranges of bytes: a first byte, and further ones that hold six bits each.
-/

set_option autoImplicit false

namespace PipeQuery.Pattern

structure ByteRange where
  low : Nat
  high : Nat
deriving DecidableEq, Repr

def furtherBytes : ByteRange := ⟨0x80, 0xBF⟩

/-- The sequences for the numbers from one to another that are written by a byte, from the given one on,
and so many further bytes. What shares its first byte with numbers outside is kept apart. -/
def spread (first : Nat) : Nat → Nat → Nat → List (List ByteRange)
  | 0, low, high => [[⟨first + low, first + high⟩]]
  | count + 1, low, high =>
    let block := 64 ^ (count + 1)
    let within (index low high : Nat) : List (List ByteRange) :=
      (spread 0x80 count low high).map (⟨first + index, first + index⟩ :: ·)
    if low / block == high / block then within (low / block) (low % block) (high % block)
    else
      let startsBlock := low % block == 0
      let endsBlock := high % block == block - 1
      let lowIndex := if startsBlock then low / block else low / block + 1
      let highIndex := if endsBlock then high / block else high / block - 1
      let head := if startsBlock then [] else within (low / block) (low % block) (block - 1)
      let body :=
        if lowIndex ≤ highIndex then
          [⟨first + lowIndex, first + highIndex⟩ :: List.replicate (count + 1) furtherBytes]
        else []
      let tail := if endsBlock then [] else within (high / block) 0 (high % block)
      head ++ body ++ tail

/-- The ranges of characters that are encoded by equally many bytes, with the first byte from which they
are counted and the number of further bytes. -/
def encodings : List (Nat × Nat × Nat × Nat) :=
  [(0, 0x7F, 0, 0), (0x80, 0x7FF, 0xC0, 1), (0x800, 0xD7FF, 0xE0, 2), (0xE000, 0xFFFF, 0xE0, 2),
   (0x10000, 0x10FFFF, 0xF0, 3)]

def byteSequences (range : Nat × Nat) : List (List ByteRange) :=
  encodings.flatMap (fun (least, greatest, first, count) =>
    let low := max range.1 least
    let high := min range.2 greatest
    if low ≤ high then spread first count low high else [])

end PipeQuery.Pattern
