import Copyedit.Spelling.Distance

/-!
# Tries

A trie holds words by their characters, each with its number. The children of a node are a chain: every
node knows the first of the nodes below it and the next one beside it. `Trie.within` finds the words
near a given one, carrying the distance row of the path and leaving out what lies below a path whose
row is past the bound everywhere.
-/

namespace Copyedit.Spelling

/-- A chain of nodes, each with its character, the number of the word that ends there, what lies below
and what lies beside. -/
inductive Trie where
  /-- No node. -/
  | leaf
  /-- A node, its children and its later siblings. -/
  | node (c : Char) (entry : Option Nat) (below beside : Trie)
  deriving Repr, Inhabited

namespace Trie

/-- The chain that holds one word. -/
def single (number : Nat) : Text → Trie
  | [] => leaf
  | [c] => node c (some number) leaf leaf
  | c :: rest => node c none (single number rest) leaf

/-- Adds a word with its number. The empty word is not added. -/
def insert : Trie → Text → Nat → Trie
  | leaf, w, number => single number w
  | node d entry below beside, [], _ => node d entry below beside
  | node d entry below beside, c :: rest, number =>
    if c = d then
      if rest.isEmpty then node d (some number) below beside
      else node d entry (below.insert rest number) beside
    else node d entry below (beside.insert (c :: rest) number)

/-- The number of a word. -/
def find? : Trie → Text → Option Nat
  | leaf, _ => none
  | node _ _ _ _, [] => none
  | node d entry below beside, c :: rest =>
    if c = d then (if rest.isEmpty then entry else below.find? rest)
    else beside.find? (c :: rest)

/-- The trie of words numbered in order. -/
def ofWords (words : List Text) : Trie :=
  words.zipIdx.foldl (fun t w => t.insert w.1 w.2) leaf

/-- A word that was found, with its distance and its number. -/
structure Hit where
  /-- The distance to the word looked up. -/
  distance : Nat
  /-- The number of the word. -/
  number : Nat
  /-- The word. -/
  word : Text
  deriving DecidableEq, Repr

/-- The words within `bound` of `word`. `row` is the row of the path so far, and `path` the path in
reverse. -/
def within (word : Text) (bound : Nat) (row : List Nat) (path : Text) : Trie → List Hit
  | leaf => []
  | node c entry below beside =>
    let here := nextRow word c row
    (match entry with
      | some number =>
        if lastOf here ≤ bound then [⟨lastOf here, number, (c :: path).reverse⟩] else []
      | none => []) ++
    (if leastOf here ≤ bound then below.within word bound here (c :: path) else []) ++
    beside.within word bound row path

/-- Nearer words first, then by number. -/
def Hit.le (a b : Hit) : Bool :=
  a.distance < b.distance || (a.distance == b.distance && a.number ≤ b.number)

/-- The words within `bound` of `word`, nearer ones first, then by number. -/
def lookup (t : Trie) (word : Text) (bound : Nat) : List Text :=
  ((t.within word bound (firstRow word) []).mergeSort Hit.le).map (·.word)

end Trie

end Copyedit.Spelling
