import Overlay.Pattern.Shape

/-!
The size of the automata of a pattern: one that reads texts forward and keeps
what groups capture, and one that reads them backward. They read bytes, every
repetition is written out in them, and a pattern for which one of them is too
large is refused.
-/

namespace Overlay.Pattern

inductive Direction
  | forward
  | backward
  deriving DecidableEq

/-- Bytes of a state. -/
def stateSize : Nat := 32

/-- Bytes of one way out of a state that has several. -/
def edgeSize : Nat := 4

/-- Bytes of one range of bytes in a state that has several. -/
def rangeSize : Nat := 8

/-- A state with two ways out. -/
def forkSize : Nat := stateSize + 2 * edgeSize

/-! The bytes of characters. -/

/-- A sequence of ranges of bytes. -/
abbrev ByteSequence := List (Nat × Nat)

/-- The sequences of ranges of the last bytes of characters, each in 64, for
the numbers from `low` to `high`. There are `more` bytes and the one whose
values begin with `lead`. -/
def byteSequencesFrom (lead : Nat) : (more low high : Nat) → List ByteSequence
  | 0, low, high => [[(lead + low, lead + high)]]
  | more + 1, low, high =>
    let size := 64 <<< (6 * more)
    let a := low / size
    let b := high / size
    let within (digit low high : Nat) :=
      (byteSequencesFrom 0x80 more low high).map ((lead + digit, lead + digit) :: ·)
    if a = b then within a (low % size) (high % size)
    else
      let whole := low % size = 0
      let wholeEnd := high % size = size - 1
      let first := if whole then a else a + 1
      let last := if wholeEnd then b + 1 else b
      (if whole then [] else within a (low % size) (size - 1)) ++
        (if first < last then
          [(lead + first, lead + last - 1) :: List.replicate (more + 1) (0x80, 0xBF)] else []) ++
        (if wholeEnd then [] else within b 0 (high % size))

/-- Ranges of characters with texts of one length. Each stands with what the
first byte adds to its share of the number and with the number of other
bytes. -/
def lengthClasses : List (Nat × Nat × Nat × Nat) :=
  [(0, 0, 0, 0x7F), (0xC0, 1, 0x80, 0x7FF), (0xE0, 2, 0x800, 0xD7FF), (0xE0, 2, 0xE000, 0xFFFF),
    (0xF0, 3, 0x10000, 0x10FFFF)]

/-- The byte sequences of a range of characters. -/
def byteSequences (r : Nat × Nat) : List ByteSequence :=
  lengthClasses.flatMap fun (lead, more, low, high) =>
    if r.2 < low ∨ high < r.1 then []
    else byteSequencesFrom lead more (max r.1 low) (min r.2 high)

/-- The bytes of a character. -/
def bytesOf (point : Nat) : List Nat := (byteSequences (point, point)).flatten.map Prod.fst

/-! Sets. -/

/-- How many ranges two sequences have in common at their beginning. -/
def sharedLength : ByteSequence → ByteSequence → Nat
  | a :: as, b :: bs => if a = b then sharedLength as bs + 1 else 0
  | _, _ => 0

/-- The number of edges of the tree of a list of sequences in order. -/
def treeEdges : List ByteSequence → Nat
  | [] => 0
  | [s] => s.length
  | s :: u :: rest => s.length - sharedLength s u + treeEdges (u :: rest)

/-- A state that reads a byte: ranges, each with the number of the state after
it. The state at the end has the number 0. -/
abbrev ByteState := List ((Nat × Nat) × Nat)

/-- The number of a state among those that exist, with the state added if it
is new. -/
def intern (s : ByteState) (states : List ByteState) : Nat × List ByteState :=
  match states.findIdx? (· == s) with
  | some i => (i + 1, states)
  | none => (states.length + 1, states ++ [s])

/-- The states for sequences in order that are not longer than `length`.
States that read the same are one. -/
def sharedStates (states : List ByteState) : (length : Nat) → List ByteSequence →
    Nat × List ByteState
  | 0, _ => (0, states)
  | length + 1, sequences =>
    if sequences.all List.isEmpty then (0, states)
    else
      let groups := sequences.splitBy fun s u => s.head? == u.head?
      let (read, states) := groups.foldl (fun (read, states) group =>
        let (next, states) := sharedStates states length (group.map List.tail)
        (read ++ (group.head?.bind List.head?).toList.map (·, next), states)) ([], states)
      intern read states

/-- The size of a set. Backward every edge of the tree of its sequences is a
state. Sets of characters with one byte need no more than one state. -/
def setWeight (d : Direction) (set : Ranges) : Nat :=
  if set.below 0x80 then 2 * stateSize + rangeSize * set.length
  else
    let sequences := set.flatMap byteSequences
    match d with
    | .forward =>
      let states := (sharedStates [] 4 sequences).2
      stateSize * (states.length + 1) + rangeSize * states.flatten.length
    | .backward =>
      2 * stateSize + stateSize * treeEdges sequences + edgeSize * sequences.length

/-! Choices between literals are trees. -/

/-- The literals before, between and after those that have ended. Where a tree
has no branches yet, an end is noted once. -/
def chunks (literals : List (List Nat)) : List (List (List Nat)) :=
  let open' := literals.dropWhile List.isEmpty
  let chunks := open'.foldr (fun l chunks =>
    match l, chunks with
    | [], chunks => [] :: chunks
    | l, chunk :: chunks => (l :: chunk) :: chunks
    | l, [] => [[l]]) [[]]
  if open'.length < literals.length then [] :: chunks else chunks

/-- The size of the tree of literals that are not longer than `length`: a state
for each chunk and one that chooses between the chunks and the ends. -/
def treeWeight : (length : Nat) → List (List Nat) → Nat
  | 0, _ => 0
  | length + 1, literals =>
    if literals.all List.isEmpty then 0
    else
      let chunks := chunks literals
      let chunkWeight (chunk : List (List Nat)) :=
        let heads := (chunk.filterMap List.head?).eraseDups
        let below (b : Nat) :=
          treeWeight length ((chunk.filter (·.head? == some b)).map List.tail)
        let stem := stateSize + if heads.length = 1 then 0 else rangeSize * heads.length
        heads.foldl (fun weight b => weight + below b) stem
      let full := chunks.filter (!·.isEmpty)
      let root := stateSize + edgeSize * (full.length + chunks.length - 1)
      full.foldl (fun weight chunk => weight + chunkWeight chunk) root

namespace Shape

mutual

/-- How many bytes the shortest match has, if anything matches. -/
def leastLength? : Shape → Option Nat
  | empty | look _ => some 0
  | literal points => some (points.flatMap bytesOf).length
  | set ranges => ranges.head?.map fun r => (bytesOf r.1).length
  | capture s => s.leastLength?
  | .repeat s least _ _ => s.leastLength?.map (· * least)
  | concat parts => leastSum? parts
  | choice branches => leastOf? branches

def leastSum? : List Shape → Option Nat
  | [] => some 0
  | s :: ss => do some ((← s.leastLength?) + (← leastSum? ss))

def leastOf? : List Shape → Option Nat
  | [] => none
  | [s] => s.leastLength?
  | s :: ss => do some (min (← s.leastLength?) (← leastOf? ss))

end

/-- Whether every match of a shape takes something. -/
def consumes (s : Shape) : Bool := s.leastLength?.any (0 < ·)

/-- The size of a repetition of what has the size `w`. -/
def repeatWeight (w : Nat) (consumes : Bool) : (least : Nat) → (most : Option Nat) → Nat
  | 0, none => w + if consumes then forkSize else 2 * forkSize + stateSize
  | least, none => least * w + forkSize
  | 0, some 1 => w + forkSize + stateSize
  | least, some most =>
    if least = most then least * w
    else (if least = 0 then stateSize else least * w) + stateSize + (most - least) * (w + forkSize)

/-- The size of a choice between literals. -/
def literalsWeight (d : Direction) (literals : List (List Nat)) : Nat :=
  let bytes := literals.map fun points =>
    let bytes := points.flatMap bytesOf
    if d = .backward then bytes.reverse else bytes
  stateSize + treeWeight ((bytes.map List.length).foldl max 0 + 1) bytes

mutual

/-- The size of the states for a shape. -/
def weight (d : Direction) : Shape → Nat
  | empty | look _ => stateSize
  | literal points => stateSize * (points.flatMap bytesOf).length
  | set ranges => setWeight d ranges
  | capture s => s.weight d + if d = .forward then 2 * stateSize else 0
  | .repeat s least most _ => repeatWeight (s.weight d) s.consumes least most
  | concat parts => weights d parts
  | choice branches =>
    match branches.mapM points? with
    | some literals => literalsWeight d literals
    | none => weights d branches + 2 * stateSize + edgeSize * branches.length

def weights (d : Direction) : List Shape → Nat
  | [] => 0
  | s :: ss => s.weight d + weights d ss

end

/-- What an automaton has besides the states of its pattern: a loop over what
precedes a match, the end of the match, and its place if that is kept. -/
def frameWeight (d : Direction) : Nat :=
  forkSize + 2 * stateSize + rangeSize + stateSize + if d = .forward then 2 * stateSize else 0

/-- The greatest size of an automaton: ten megabytes. -/
def weightLimit : Nat := 10 * 1024 * 1024

def fits (s : Shape) (d : Direction) : Bool := s.weight d + frameWeight d ≤ weightLimit

/-- How many literals are searched for without an automaton of their own. -/
def manyLiterals : Nat := 3000

/-- Whether a shape is a choice between so many literals that they are searched
for by themselves. -/
def isLiteralTable : Shape → Bool
  | choice branches => manyLiterals ≤ branches.length && branches.all (·.points?.isSome)
  | _ => false

/-- Whether a pattern is not too large. -/
def isAffordable (s : Shape) : Bool := s.isLiteralTable || (s.fits .forward && s.fits .backward)

end Shape

end Overlay.Pattern
