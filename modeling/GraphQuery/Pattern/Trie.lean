/-!
# Tries of words

A `Trie` holds words over bytes in the order in which they were added. A word that ends at an inner node separates what
was added there before it from what is added after it, so that earlier words keep their precedence.
-/

namespace GraphQuery

/-- A node of a trie: the edges before each word that ends at the node, and the edges after the last of them. The
edges of a part are in the order of their bytes. -/
inductive Trie where
  | node (closed : List (List (Nat × Trie))) (last : List (Nat × Trie))
deriving Inhabited

namespace Trie

/-- No words. -/
def empty : Trie := node [] []

/-- Whether no edge leaves the node. -/
def isLeaf : Trie → Bool
  | node closed last => closed.all List.isEmpty && last.isEmpty

/-- Replaces the child under a byte, or adds one. -/
def update (change : Trie → Trie) (byte : Nat) : List (Nat × Trie) → List (Nat × Trie)
  | [] => [(byte, change empty)]
  | (b, child) :: rest =>
    if byte < b then (byte, change empty) :: (b, child) :: rest
    else if byte = b then (b, change child) :: rest
    else (b, child) :: update change byte rest

/-- Adds a word. -/
def add : (word : List Nat) → Trie → Trie
  | [], node closed last =>
    if (node closed last).isLeaf && !closed.isEmpty then node closed last else node (closed ++ [last]) []
  | byte :: word, node closed last => node closed (update (add word) byte last)

/-- The trie of several words. -/
def ofWords (words : List (List Nat)) : Trie := words.foldl (fun trie word => trie.add word) empty

end Trie

end GraphQuery
