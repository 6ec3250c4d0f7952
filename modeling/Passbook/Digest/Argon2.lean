import Passbook.Digest.Block

/-!
# Argon2

A password and a salt are stretched into a tag by filling a memory of blocks several times over.
The memory has one lane for each degree of parallelism, and a pass over it goes through four
slices. Each new block is compressed from the block before it in its lane and from a reference
block. The variants differ in how a reference is chosen: by the contents of the block before, by a
sequence that does not depend on contents, or by the latter in the first half of the first pass.

A lane sees the finished slices of the other lanes and everything of its own, so the lanes of a
slice may be filled in any order.
-/
namespace Passbook.Argon2

/-- How references are chosen. -/
inductive Variant where
  | dependent
  | independent
  | hybrid
deriving DecidableEq, Repr

def Variant.number : Variant → Nat
  | .dependent => 0
  | .independent => 1
  | .hybrid => 2

/-- The later version adds a new block to the block it replaces, the earlier one overwrites it. -/
inductive Version where
  | overwriting
  | adding
deriving DecidableEq, Repr

def Version.number : Version → Nat
  | .overwriting => 16
  | .adding => 19

/-- What a digest costs: kibibytes of memory, passes over it, and lanes. -/
structure Cost where
  memory : Nat
  passes : Nat
  lanes : Nat
deriving DecidableEq, Repr

/-- The four bytes of a number, least significant first. -/
def numberBytes (n : Nat) : List UInt8 :=
  [UInt8.ofNat n, UInt8.ofNat (n / 256), UInt8.ofNat (n / 65536), UInt8.ofNat (n / 16777216)]

/-- A digest chain longer than 64 bytes: half of each digest is kept until the rest fits. -/
def stretchTail : Nat → Nat → List UInt8 → List UInt8
  | 0, size, input => Blake2b.digest size input
  | count + 1, size, input =>
      let next := Blake2b.digest 64 input
      next.take 32 ++ stretchTail count (size - 32) next

/-- A digest of any length. -/
def stretch (size : Nat) (input : List UInt8) : List UInt8 :=
  let input := numberBytes size ++ input
  if size ≤ 64 then Blake2b.digest size input
  else
    let rounds := (size + 31) / 32 - 2
    stretchTail rounds size input

/-- The sizes that the cost leads to. -/
structure Layout where
  lanes : Nat
  passes : Nat
  /-- blocks of one lane in one slice -/
  segment : Nat
deriving Repr

def Layout.laneLength (l : Layout) : Nat := 4 * l.segment

def Layout.total (l : Layout) : Nat := l.lanes * l.laneLength

def Cost.layout (cost : Cost) : Layout :=
  { lanes := cost.lanes
    passes := cost.passes
    segment := max cost.memory (8 * cost.lanes) / (4 * cost.lanes) }

/-- The place of the block being filled. -/
structure Place where
  pass : Nat
  slice : Nat
  lane : Nat
  index : Nat

/-- The 128 choices that are made without looking at the memory. -/
def independentChoices (variant : Variant) (layout : Layout) (place : Place) : Block :=
  let counter := place.index / 128 + 1
  let input := Block.ofWords fun i =>
    match i with
    | 0 => UInt64.ofNat place.pass
    | 1 => UInt64.ofNat place.lane
    | 2 => UInt64.ofNat place.slice
    | 3 => UInt64.ofNat layout.total
    | 4 => UInt64.ofNat layout.passes
    | 5 => UInt64.ofNat variant.number
    | 6 => UInt64.ofNat counter
    | _ => 0
  Block.zero.compress (Block.zero.compress input)

/-- Whether the choice at a place is made without looking at the memory. -/
def choosesIndependently (variant : Variant) (pass slice : Nat) : Bool :=
  match variant with
  | .dependent => false
  | .independent => true
  | .hybrid => pass == 0 && slice < 2

/-- The block that `choice` refers to from `place`. Its upper half selects the lane, its lower half
a block of that lane, with recent blocks being likelier. -/
def reference (layout : Layout) (place : Place) (choice : UInt64) : Nat :=
  let lower := (choice &&& 0xffffffff).toNat
  let upper := (choice >>> 32).toNat
  let lane := if place.pass = 0 ∧ place.slice = 0 then place.lane else upper % layout.lanes
  let same := lane == place.lane
  let finished := if place.pass = 0 then place.slice * layout.segment
    else layout.laneLength - layout.segment
  let area :=
    if same then finished + place.index - 1
    else if place.index = 0 then finished - 1 else finished
  let x := lower * lower / 0x100000000
  let back := area * x / 0x100000000
  let relative := area - 1 - back
  let start := if place.pass = 0 ∨ place.slice = 3 then 0 else (place.slice + 1) * layout.segment
  lane * layout.laneLength + (start + relative) % layout.laneLength

/-- Fills `count` further blocks of a segment from `place` on. `choices` holds the independent
choices of the running group of 128 blocks. -/
def fillSegment (variant : Variant) (version : Version) (layout : Layout) :
    Nat → Place → Block → Array Block → Array Block
  | 0, _, _, memory => memory
  | count + 1, place, choices, memory =>
      let base := place.lane * layout.laneLength
      let column := place.slice * layout.segment + place.index
      let previous := if column = 0 then base + layout.laneLength - 1 else base + column - 1
      let independent := choosesIndependently variant place.pass place.slice
      let choices :=
        if independent && (place.index % 128 == 0 || (place.pass == 0 && place.slice == 0 && place.index == 2)) then
          independentChoices variant layout place
        else choices
      let before := memory.getD previous Block.zero
      let choice := if independent then choices.word (place.index % 128) else before.word 0
      let chosen := memory.getD (reference layout place choice) Block.zero
      let fresh := before.compress chosen
      let target := base + column
      let fresh :=
        if place.pass = 0 ∨ version = .overwriting then fresh
        else fresh.xor (memory.getD target Block.zero)
      fillSegment variant version layout count { place with index := place.index + 1 } choices
        (memory.setIfInBounds target fresh)

/-- Fills all slices of all passes. The first two blocks of each lane are there from the start. -/
def fill (variant : Variant) (version : Version) (layout : Layout) (memory : Array Block) :
    Array Block :=
  (List.range layout.passes).foldl (fun memory pass =>
    (List.range 4).foldl (fun memory slice =>
      (List.range layout.lanes).foldl (fun memory lane =>
        let first := if pass = 0 ∧ slice = 0 then 2 else 0
        fillSegment variant version layout (layout.segment - first)
          { pass := pass, slice := slice, lane := lane, index := first } Block.zero memory)
        memory) memory) memory

/-- The digest of everything that the tag depends on. -/
def seed (variant : Variant) (version : Version) (cost : Cost) (size : Nat)
    (password salt extra : List UInt8) : List UInt8 :=
  let counted (bytes : List UInt8) := numberBytes bytes.length ++ bytes
  Blake2b.digest 64 <|
    numberBytes cost.lanes ++ numberBytes size ++ numberBytes cost.memory ++
      numberBytes cost.passes ++ numberBytes version.number ++ numberBytes variant.number ++
      counted password ++ counted salt ++ counted [] ++ counted extra

def start (layout : Layout) (seed : List UInt8) : Array Block :=
  (List.range layout.lanes).foldl (fun memory lane =>
    let block (i : Nat) : Block :=
      Block.ofBytes (stretch 1024 (seed ++ numberBytes i ++ numberBytes lane))
    let base := lane * layout.laneLength
    (memory.setIfInBounds base (block 0)).setIfInBounds (base + 1) (block 1))
    (Array.replicate layout.total Block.zero)

/-- The tag of `size` bytes. -/
def tag (variant : Variant) (version : Version) (cost : Cost) (size : Nat)
    (password salt extra : List UInt8) : List UInt8 :=
  let layout := cost.layout
  let memory := fill variant version layout
    (start layout (seed variant version cost size password salt extra))
  let last := (List.range layout.lanes).foldl (fun block lane =>
    block.xor (memory.getD (lane * layout.laneLength + layout.laneLength - 1) Block.zero)) Block.zero
  stretch size last.bytes

end Passbook.Argon2
