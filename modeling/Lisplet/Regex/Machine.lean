import Lisplet.Regex.Encoding
import Lisplet.Regex.Pattern
import Std.Data.HashMap

namespace Lisplet

/-! The machines that patterns are run by, as far as the room they take up goes. A machine goes from
state to state as it reads bytes. One machine reads forward and keeps track of groups; another finds
where a match starts by reading backward. Neither may grow beyond a limit. -/

inductive Direction where
  | forward
  | backward
deriving DecidableEq, Repr

/-- A machine under construction; its states are numbered in the order in which they are added. -/
structure Machine where
  states : Nat := 0
  steps : Nat := 0
  branches : Nat := 0
deriving DecidableEq, Repr

namespace Machine

def room (machine : Machine) : Nat :=
  32 * machine.states + 8 * machine.steps + 4 * machine.branches

def limit : Nat :=
  10485760

def fits (machine : Machine) : Bool :=
  machine.room ≤ limit

def add (machine : Machine) (count : Nat) : Machine :=
  { machine with states := machine.states + count }

def addReader (machine : Machine) (steps : Nat) : Machine :=
  { machine with states := machine.states + 1, steps := machine.steps + steps }

def addFork (machine : Machine) (branches : Nat) : Machine :=
  { machine with states := machine.states + 1, branches := machine.branches + branches }

/-- Adds the same states over and over; there is no point in going on beyond the limit. -/
def addTimes (part : Machine → Machine) : Nat → Machine → Machine
  | 0, machine => machine
  | count + 1, machine => if machine.fits then addTimes part count (part machine) else machine

/-! Sets. States that read parts of a character are kept in a table with a fixed number of slots, to
be used again. A state takes the slot of an older one, which is then added again when it is needed. -/

structure Slots (α : Type) where
  count : Nat
  filled : Std.HashMap Nat (α × Nat) := {}

namespace Slots

def mix (hash : UInt64) (value : Nat) : UInt64 :=
  (hash ^^^ value.toUInt64) * 1099511628211

def slot (slots : Slots α) (values : List Nat) : Nat :=
  (values.foldl mix 14695981039346656037).toNat % slots.count

def get? [DecidableEq α] (slots : Slots α) (slot : Nat) (key : α) : Option Nat :=
  match slots.filled[slot]? with
  | some (other, state) => if other = key then some state else none
  | none => none

def insert (slots : Slots α) (slot : Nat) (key : α) (state : Nat) : Slots α :=
  { slots with filled := slots.filled.insert slot (key, state) }

/-- The number of the state for a key, with the machine and the slots after it has been added if it
was not there. -/
def find [DecidableEq α] (slots : Slots α) (values : List Nat) (key : α)
    (new : Machine → Machine) (machine : Machine) : Nat × Machine × Slots α :=
  let slot := slots.slot values
  match slots.get? slot key with
  | some state => (state, machine, slots)
  | none => (machine.states, new machine, slots.insert slot key machine.states)

end Slots

abbrev Node := List (ByteRange × Nat)

def forwardSlots : Slots Node :=
  ⟨10000, {}⟩

def nodeValues (node : Node) : List Nat :=
  node.flatMap fun (range, target) => [range.first, range.last, target]

/-- The state that reads the given sequences, none of which is longer than the fuel, and then goes on
to the last state; sequences that start alike share their first step. -/
def readForward (last : Nat) :
    Nat → List (List ByteRange) → Machine × Slots Node → Nat × Machine × Slots Node
  | 0, _, (machine, slots) => (last, machine, slots)
  | fuel + 1, sequences, (machine, slots) =>
      if sequences.any List.isEmpty then (last, machine, slots)
      else
        let groups := sequences.splitBy fun left right => left.head? = right.head?
        let (node, machine, slots) := groups.foldl
          (fun (node, machine, slots) group =>
            match group.head? with
            | some (range :: _) =>
                let (target, machine, slots) :=
                  readForward last fuel (group.map List.tail) (machine, slots)
                ((range, target) :: node, machine, slots)
            | _ => (node, machine, slots))
          ([], machine, slots)
        let node := node.reverse
        slots.find (nodeValues node) node (·.addReader node.length) machine

def backwardSlots : Slots (Nat × ByteRange) :=
  ⟨1000, {}⟩

def readBackward (sequence : List ByteRange) (state : Nat) :
    Machine × Slots (Nat × ByteRange) → Machine × Slots (Nat × ByteRange)
  | (machine, slots) =>
      (sequence.foldl
        (fun (state, machine, slots) range =>
          slots.find [state, range.first, range.last] (state, range) (·.add 1) machine)
        (state, machine, slots)).2

def addSet (direction : Direction) (set : CharSet) (machine : Machine) : Machine :=
  if set.ranges = [] then machine.add 1
  else if set.ranges.all (·.last ≤ 0x7f) then (machine.add 1).addReader set.ranges.length
  else
    let sequences := Encoding.ofSet set
    match direction with
    | .forward => (readForward machine.states 5 sequences (machine.add 1, forwardSlots)).2.1
    | .backward =>
        let built := sequences.foldl
          (fun built sequence => readBackward sequence (machine.states + 1) built)
          ((machine.addFork sequences.length).add 1, backwardSlots)
        built.1

def chunks (ends : α → Bool) : List α → List (List α)
  | [] => [[]]
  | item :: rest =>
      match ends item, chunks ends rest with
      | true, chunks => [] :: chunks
      | false, chunk :: chunks => (item :: chunk) :: chunks
      | false, [] => [[item]]

def byFirst (texts : List (List Nat)) : List (List (List Nat)) :=
  (texts.filterMap List.head?).eraseDups.map fun byte =>
    (texts.filter (·.head? = some byte)).map List.tail

/-- The states from one on where several texts are still possible, none of which is longer than the
fuel. Texts are read byte by byte, and one that ends comes before those that follow it in order. -/
def addTexts : Nat → List (List Nat) → Machine → Machine
  | 0, _, machine => machine
  | fuel + 1, texts, machine =>
      let early := (texts.takeWhile List.isEmpty).length
      let ended := (texts.filter List.isEmpty).length - (early - 1)
      let rests := (chunks List.isEmpty texts).filter (· ≠ [])
      let addRest (machine : Machine) (texts : List (List Nat)) : Machine :=
        let groups := byFirst texts
        let longer := groups.filter fun texts => texts.any (· ≠ [])
        let machine := longer.foldl (fun machine texts => addTexts fuel texts machine) machine
        machine.addReader (if groups.length = 1 then 0 else groups.length)
      (rests.foldl addRest machine).addFork (ended + rests.length)

def addWords (direction : Direction) (texts : List (List Char)) (machine : Machine) : Machine :=
  let texts := texts.map (·.flatMap Encoding.ofChar)
  let texts :=
    match direction with
    | .forward => texts
    | .backward => texts.map List.reverse
  addTexts ((texts.map List.length).foldl max 0 + 1) texts (machine.add 1)

/-- A part that is repeated; it may match the empty text if `skips` holds. -/
def addRepeated (part : Machine → Machine) (least : Nat) (most : Option Nat) (skips : Bool)
    (machine : Machine) : Machine :=
  let exactly := if least = 0 then machine.add 1 else addTimes part least machine
  match most with
  | none =>
      if 0 < least then exactly.addFork 2
      else if skips then (((part machine).addFork 2).addFork 2).add 1
      else part (machine.addFork 2)
  | some most =>
      if least = most then exactly
      else if least = 0 ∧ most = 1 then (part (machine.addFork 2)).add 1
      else addTimes (fun machine => part (machine.addFork 2)) (most - least) (exactly.add 1)

/-- What follows an alternative, which is the first one if its index is 0. Once there are two, the
choice is opened, with a state where all alternatives meet. -/
def addAlternative (index : Nat) (machine : Machine) : Machine :=
  let machine := { machine with branches := machine.branches + 1 }
  if index = 1 then machine.add 2 else machine

end Machine

namespace Pattern

/-- Adds the states for a pattern. `index` tells which alternative of a choice it is the last of, or
is 0 outside of choices. -/
def build (direction : Direction) : Pattern → Nat → Machine → Machine
  | empty, index, machine | look _, index, machine => finish index (machine.add 1)
  | literal text, index, machine => finish index (machine.add (String.ofList text).utf8ByteSize)
  | set members, index, machine => finish index (machine.addSet direction members)
  | words texts, index, machine => finish index (machine.addWords direction texts)
  | group _ body, index, machine =>
      match direction with
      | .forward => finish index ((body.build direction 0 (machine.add 1)).add 1)
      | .backward => finish index (body.build direction 0 machine)
  | times body least most _, index, machine =>
      let skips := !body.minLength.any (0 < ·)
      finish index (machine.addRepeated (body.build direction 0) least most skips)
  | seq first second, index, machine =>
      match direction with
      | .forward => finish index (second.build direction 0 (first.build direction 0 machine))
      | .backward => finish index (first.build direction 0 (second.build direction 0 machine))
  | either left right, index, machine =>
      right.build direction (index + 1)
        ((left.build direction 0 machine).addAlternative index)
where
  finish (index : Nat) (machine : Machine) : Machine :=
    if index = 0 then machine else machine.addAlternative index

def addSearch (anchored : Bool) (machine : Machine) : Machine :=
  if anchored then machine.add 1 else ((machine.addFork 2).add 1).addReader 1

/-- Each machine has a state where it stops, and the one that reads forward keeps track of the whole
match as of a group. -/
def machine (pattern : Pattern) : Direction → Machine
  | .forward =>
      let start := (addSearch pattern.startsText {}).add 1
      (pattern.build .forward 0 start).add 2
  | .backward =>
      let start := addSearch pattern.endsText {}
      (pattern.build .backward 0 start).add 1

def fits (pattern : Pattern) : Bool :=
  (pattern.machine .forward).fits && (pattern.machine .backward).fits

end Pattern

end Lisplet
