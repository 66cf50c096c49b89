import CloudInventory.Text.CodeRanges

/-!
The encoding of characters in one to four bytes. The characters of a range are encoded in a few
sequences of byte ranges: the range is cut so that within a piece every byte takes all values
between its least and its greatest one, whatever the others are.
-/
namespace CloudInventory.Pattern

/-- The byte that holds the last six bits of a number. -/
def continuation (bits : Nat) : Nat :=
  0x80 + bits % 0x40

/-- The bytes of a code point. -/
def encode (code : Nat) : List Nat :=
  if code < 0x80 then [code]
  else if code < 0x800 then [0xC0 + code / 0x40, continuation code]
  else if code < 0x10000 then
    [0xE0 + code / 0x1000, continuation (code / 0x40), continuation code]
  else
    [0xF0 + code / 0x40000, continuation (code / 0x1000), continuation (code / 0x40),
      continuation code]

/-- The code points encoded in equally many bytes, without the surrogates. -/
def encodedAlike : CodeRanges :=
  [(0, 0x7F), (0x80, 0x7FF), (0x800, 0xD7FF), (0xE000, 0xFFFF), (0x10000, CodeRanges.last)]

/-- How many code points share all bytes but the last, the last two and the last three. -/
def blockSizes : List Nat := [0x40, 0x1000, 0x40000]

/-- Cuts a range into whole blocks of the greatest possible sizes and what is left at its ends. -/
def cutBlocks (lo hi : Nat) : List Nat → CodeRanges
  | [] => [(lo, hi)]
  | size :: sizes =>
    if lo / size = hi / size then [(lo, hi)]
    else
      let first := (lo + size - 1) / size * size
      let stop := (hi + 1) / size * size
      let front := if lo < first then [(lo, first - 1)] else []
      let whole := if first < stop then cutBlocks first (stop - 1) sizes else []
      let back := if stop ≤ hi then [(stop, hi)] else []
      front ++ whole ++ back

/-- The byte sequences of a range of code points that are encoded in equally many bytes. -/
def encodeAlike (lo hi : Nat) : List (List (Nat × Nat)) :=
  let pieces := if hi < 0x80 then [(lo, hi)] else cutBlocks lo hi blockSizes
  pieces.map (fun (lo, hi) => (encode lo).zip (encode hi))

/-- The sequences of byte ranges in which the characters of a set are encoded, in increasing
order. -/
def encodeSet (set : CodeRanges) : List (List (Nat × Nat)) :=
  set.flatMap (fun (lo, hi) => encodedAlike.flatMap (fun (least, most) =>
    if max lo least ≤ min hi most then encodeAlike (max lo least) (min hi most) else []))

end CloudInventory.Pattern
