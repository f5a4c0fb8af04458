/-!
# ChainApi.Text.Similar

How alike two words are, which tells what a misspelled one was meant to be.  The
longest block that both share counts, then the longest ones on either side of it,
and so on; words are alike if these blocks make up three fifths of them.

* `shared` — the number of characters in common blocks;
* `closest` — the words that are most like a given one.
-/

namespace ChainApi.Text.Similar

/-- The length of what two words start with in common. -/
def commonStart : List Char → List Char → Nat
  | a :: as, b :: bs => if a = b then commonStart as bs + 1 else 0
  | _, _ => 0

/-- A block that two words share: where it starts in each of them, and its length. -/
structure Block where
  inFirst : Nat
  inSecond : Nat
  size : Nat
  deriving DecidableEq, Repr

/-- All blocks that two words share, those that start early in the first word first. -/
def blocks (as bs : List Char) : List Block :=
  (List.range as.length).flatMap fun i =>
    (List.range bs.length).map fun j => ⟨i, j, commonStart (as.drop i) (bs.drop j)⟩

/-- The longest block that two words share, and of several the first. -/
def longest (as bs : List Char) : Block :=
  (blocks as bs).foldl (fun best b => if best.size < b.size then b else best) ⟨0, 0, 0⟩

/-- The number of characters in common blocks.  The fuel bounds the number of blocks
inside each other. -/
def shared : Nat → List Char → List Char → Nat
  | 0, _, _ => 0
  | fuel + 1, as, bs =>
    let b := longest as bs
    if b.size = 0 then 0
    else
      b.size + shared fuel (as.take b.inFirst) (bs.take b.inSecond) +
        shared fuel (as.drop (b.inFirst + b.size)) (bs.drop (b.inSecond + b.size))

/-- A word compared with another one. -/
structure Match where
  word : String
  /-- The number of characters in common blocks. -/
  shared : Nat
  /-- The length of both words. -/
  total : Nat
  deriving DecidableEq, Repr

/-- Compare a word with a given one. -/
def compare (given word : String) : Match :=
  let as := word.toList
  let bs := given.toList
  ⟨word, shared as.length as bs, as.length + bs.length⟩

/-- Are the words alike? -/
def Match.isClose (m : Match) : Bool := 3 * m.total ≤ 10 * m.shared

/-- Is a match at least as good as another one?  Between equal ones the later word in
the order of characters is better. -/
def Match.isBetter (m n : Match) : Bool :=
  n.shared * m.total < m.shared * n.total ||
    (n.shared * m.total == m.shared * n.total && n.word ≤ m.word)

/-- The words that are alike to a given one, at most three of them, in the order of
characters.  A word is not like one that is more than three times as long. -/
def closest (given : String) (words : List String) : List String :=
  let candidates := words.filter fun w => given.length ≤ 3 * w.length
  let matched := (candidates.map (compare given)).filter Match.isClose
  let best := (matched.mergeSort Match.isBetter).take 3
  (best.map Match.word).mergeSort fun a b => decide (a ≤ b)

end ChainApi.Text.Similar
