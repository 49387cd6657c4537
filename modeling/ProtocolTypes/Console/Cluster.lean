import ProtocolTypes.Console.Cell

/-!
# Clusters

A cluster is what a screen shows in one place: a character with the marks on it, or
several characters that are joined to one picture.  Lines are cut between clusters.
-/

namespace ProtocolTypes

/-- Characters that are shown in one place, and the cells that they take. -/
structure Cluster where
  characters : List Char
  cells : Nat
  deriving DecidableEq, Repr

namespace Cluster

/-- A cluster with more characters at its end. -/
def extend (cluster : Cluster) (characters : List Char) (cells : Nat) : Cluster :=
  { characters := cluster.characters ++ characters, cells := cluster.cells + cells }

/-- The clusters of a text that goes on behind a cluster, in which a selector may change
a character. -/
def behind (cluster : Cluster) (before : Option Char) : List Char → List Cluster
  | [] => [cluster]
  | [character] =>
    if character = Cell.joiner then [cluster.extend [character] 0]
    else if character = Cell.selector then
      [cluster.extend [character] (Cell.selectedMore before)]
    else if Cell.width character = 0 then [cluster.extend [character] 0]
    else [cluster, { characters := [character], cells := Cell.width character }]
  | character :: next :: rest =>
    if character = Cell.joiner then behind (cluster.extend [character, next] 0) before rest
    else if character = Cell.selector then
      behind (cluster.extend [character] (Cell.selectedMore before))
        (if Cell.selectedMore before = 0 then before else none) (next :: rest)
    else if Cell.width character = 0 then
      behind (cluster.extend [character] 0) before (next :: rest)
    else
      cluster ::
        behind { characters := [character], cells := Cell.width character }
          (some character) (next :: rest)

/-- The clusters of a text. -/
def ofText : List Char → List Cluster
  | [] => []
  | character :: rest =>
    behind { characters := [character], cells := Cell.width character }
      (Cell.changeable none character) rest

/-- The characters of clusters one after the other. -/
def text (clusters : List Cluster) : List Char :=
  clusters.flatMap characters

/-- What is gathered behind a cluster reads as the cluster and the characters left. -/
theorem text_behind
    (cluster : Cluster)
    (before : Option Char)
    (characters : List Char) :
    text (behind cluster before characters) = cluster.characters ++ characters := by
  fun_induction behind cluster before characters <;> simp_all [text, extend]

/-- Clustering loses no characters and adds none. -/
theorem text_ofText (characters : List Char) : text (ofText characters) = characters := by
  cases characters with
  | nil => rfl
  | cons character rest => simp [ofText, text_behind]

/-- The beginning of clusters that fits into the cells; where half of one would be left, a
space takes its place. -/
def fit : Nat → List Cluster → List Char
  | _, [] => []
  | cells, cluster :: rest =>
    if cluster.cells ≤ cells then cluster.characters ++ fit (cells - cluster.cells) rest
    else if cells = 0 then []
    else [' ']

end Cluster

namespace Cell

/-- The text, cut to the cells if it takes more of them. -/
def fit (cells : Nat) (text : List Char) : List Char :=
  if count text ≤ cells then text else Cluster.fit cells (Cluster.ofText text)

/-- What is no wider than the cells stays as it is. -/
theorem fit_of_count_le
    (cells : Nat)
    (text : List Char)
    (enough : count text ≤ cells) :
    fit cells text = text := by
  simp [fit, enough]

end Cell
end ProtocolTypes
