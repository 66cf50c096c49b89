import CloudInventory.Pattern.Encoding
import CloudInventory.Pattern.Memory.Part
import Std.Data.HashMap

/-!
Sets of characters. A set of ASCII characters is one state that leads on by its ranges. Of any other
set the byte sequences of its encodings are states, which sequences share: forwards those with which
they end, once all that follows them is known, and backwards those with which they begin.

Which states are shared is told from a table with a bounded number of slots. A state takes its slot
by a hash of what it leads to, and a later one with the same hash takes it over, so that an equal
state after that is built again.
-/
namespace CloudInventory.Pattern

/-- A hash of numbers: each is mixed in by an exclusive or and a multiplication. -/
def slotHash (numbers : List Nat) : UInt64 :=
  numbers.foldl (fun h n => (h ^^^ UInt64.ofNat n) * 1099511628211) 14695981039346656037

/-- Slots by number, each with the last state that took it. -/
abbrev Slots := Std.HashMap UInt64 (List Nat × Nat)

/-- A usage, and the states that can be shared. -/
structure Sharing where
  usage : Usage
  slots : Slots

/-- The state with a description: the one in its slot if it has the same, and else one that the part
adds. -/
def Sharing.state? (s : Sharing) (slotCount : UInt64) (description : List Nat) (part : Part) :
    Option (Nat × Sharing) :=
  let slot := slotHash description % slotCount
  let known := s.slots[slot]?.filter (fun (held, _) => held = description)
  match known with
  | some (_, state) => some (state, s)
  | none =>
    (part s.usage).map (fun usage =>
      (s.usage.states, ⟨usage, s.slots.insert slot (description, s.usage.states)⟩))

/-! ### Forwards -/

/-- The state from which byte sequences of at most the given length lead to a target. Sequences that
begin with the same range are one way from it. -/
def sequencesState? (target : Nat) :
    Nat → List (List (Nat × Nat)) → Sharing → Option (Nat × Sharing)
  | 0, _, s => some (target, s)
  | length + 1, sequences, s =>
    if sequences.all List.isEmpty then some (target, s)
    else do
      let ways := sequences.splitBy (fun a b => a.head? == b.head?)
      let (description, s) ← ways.foldlM (fun (description, s) way => do
        let (next, s) ← sequencesState? target length (way.map List.tail) s
        let (lo, hi) := (way.head?.bind List.head?).getD (0, 0)
        some (next :: hi :: lo :: description, s)) ([], s)
      s.state? 10000 description.reverse (Part.add 1 (ways.length * rangeMemory))

/-- A set whose encodings are read forwards. -/
def forwardPart (set : CodeRanges) : Part := fun u => do
  let target := u.states
  let u ← Part.state u
  let (_, s) ← sequencesState? target 4 (encodeSet set) ⟨u, {}⟩
  some s.usage

/-! ### Backwards -/

/-- The state that leads to a target by a byte sequence read from its end. -/
def sequenceState? (target : Nat) (sequence : List (Nat × Nat)) (s : Sharing) :
    Option (Nat × Sharing) :=
  sequence.foldlM (fun (target, s) (lo, hi) => s.state? 1000 [target, lo, hi] Part.state) (target, s)

/-- A set whose encodings are read backwards: a fork with a branch for each byte sequence. -/
def backwardPart (set : CodeRanges) : Part := fun u => do
  let target := u.states + 1
  let u ← Part.add 2 0 u
  let s ← (encodeSet set).foldlM (fun s sequence => do
    let (_, s) ← sequenceState? target sequence s
    (Part.branch s.usage).map (fun usage => ⟨usage, s.slots⟩)) (Sharing.mk u {})
  some s.usage

/-- A set, read forwards or backwards. -/
def setPart (backwards : Bool) (set : CodeRanges) : Part :=
  if set.all (fun r => r.2 < 0x80) then Part.add 2 (set.length * rangeMemory)
  else if backwards then backwardPart set
  else forwardPart set

end CloudInventory.Pattern
