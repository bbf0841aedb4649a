/-!
UTF-8 by ranges. The characters of a range are the ones whose bytes lie, place by place, in the
ranges of one of a few sequences. A character of more than one byte is written in base 64, and what
is added to a digit tells whether it comes first, and then how many digits there are.
-/

namespace Rpn.Text.Utf8

/-- A range of bytes, both ends included. -/
abbrev ByteRange := Nat × Nat

/-- The numbers from `lo` to `hi` by their digits in base 64: one digit of any size, and `k` more.
Each sequence stands for all numbers with digits in its ranges. -/
def digits : Nat → Nat → Nat → List (List ByteRange)
  | 0, lo, hi => [[(lo, hi)]]
  | k + 1, lo, hi =>
    let unit := Nat.pow 64 (k + 1)
    let first := lo / unit
    let last := hi / unit
    if first = last then (digits k (lo % unit) (hi % unit)).map ((first, first) :: ·)
    else
      let (head, first) :=
        if lo % unit = 0 then ([], first)
        else ((digits k (lo % unit) (unit - 1)).map ((first, first) :: ·), first + 1)
      let (tail, last) :=
        if hi % unit = unit - 1 then ([], last + 1)
        else ((digits k 0 (hi % unit)).map ((last, last) :: ·), last)
      let whole := if first < last then [(first, last - 1) :: .replicate (k + 1) (0, 63)] else []
      head ++ whole ++ tail

/-- The code points with `k` bytes after the first one. There is a gap for the surrogates. -/
def spans : List (Nat × ByteRange × Nat) :=
  [(0, (0x00, 0x7F), 0x00), (1, (0x80, 0x7FF), 0xC0), (2, (0x800, 0xD7FF), 0xE0),
   (2, (0xE000, 0xFFFF), 0xE0), (3, (0x10000, 0x10FFFF), 0xF0)]

/-- The sequences for the code points from `lo` to `hi`. -/
def sequences (lo hi : Nat) : List (List ByteRange) :=
  spans.flatMap fun (k, (least, most), mark) =>
    if max lo least ≤ min hi most then
      (digits k (max lo least) (min hi most)).map fun ds =>
        ds.zipIdx.map fun ((a, b), i) =>
          let mark := if i = 0 then mark else 0x80
          (a + mark, b + mark)
    else []

end Rpn.Text.Utf8
