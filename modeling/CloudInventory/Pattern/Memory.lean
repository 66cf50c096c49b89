import CloudInventory.Pattern.Memory.Sets
import CloudInventory.Pattern.Memory.Texts
import CloudInventory.Pattern.Simplified

/-!
The memory that the automata of an expression take, by which expressions are bounded. There are two:
one reads the bytes of a text from its beginning, the other from its end, where a match is known to
end. A counted repetition takes as many copies of what it repeats as its counts say.
-/
namespace CloudInventory.Pattern

/-- The bytes of a text whose characters come in the order in which they are read. -/
def textBytes (backwards : Bool) (codes : List Nat) : List Nat :=
  codes.flatMap (fun code => if backwards then (encode code).reverse else encode code)

mutual

/-- The part of an expression, which is reversed already if it is read backwards. Numbered groups
are kept forwards only. -/
def Simplified.part (backwards : Bool) : Simplified → Part
  | .empty | .look _ => Part.state
  | .text codes => Part.add (textBytes backwards codes).length 0
  | .one set => setPart backwards set
  | .repeat least most _ inner =>
    (inner.part backwards).repeated (inner.shortest?.any (0 < ·)) least most
  | .group inner => if backwards then inner.part backwards else (inner.part backwards).enclosed
  | .seq items => Part.sequence (Simplified.parts backwards items)
  | .either branches =>
    match Simplified.texts? branches with
    | some texts => textsPart (texts.map (textBytes backwards))
    | none => Part.alternation (Simplified.parts backwards branches)

def Simplified.parts (backwards : Bool) : List Simplified → List Part
  | [] => []
  | x :: xs => x.part backwards :: Simplified.parts backwards xs

end

/-- A whole automaton. Unless every match begins where the automaton does, it first passes over
bytes, which takes a fork and a state for any byte; the last state is that of a match. -/
def wholePart (anchored : Bool) (part : Part) : Part :=
  if anchored then Part.state >=> part.onward >=> Part.state
  else Part.fork 1 >=> Part.add 2 rangeMemory >=> part.onward >=> Part.state >=> Part.branch

/-- Whether both automata stay within the bound. The whole match is a group of the one that reads
forwards. -/
def Regex.fits (r : Regex) : Bool :=
  let forwards := r.simplified
  let backwards := forwards.reversed
  let first := wholePart (forwards.beginsWith .textStart) (forwards.part false).enclosed
  let second := wholePart (backwards.beginsWith .textEnd) (backwards.part true)
  ((first {}).bind (fun _ => second {})).isSome

end CloudInventory.Pattern
