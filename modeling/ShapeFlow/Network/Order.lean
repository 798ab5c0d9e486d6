import ShapeFlow.Network.Basic

/-!
The order in which producers come before their consumers. A depth-first search lists every layer
before the layers it feeds, and a second pass over the list finds the layer that a cycle runs
through.
-/

namespace ShapeFlow.Network

/-- The pairs of a feeding and a fed layer, each pair once, in the order of the connections. -/
def links (network : Network) : List (LayerId × LayerId) :=
  (network.connections.map fun connection =>
    (connection.source.layer, connection.target.layer)).eraseDups

def successors (links : List (LayerId × LayerId)) (id : LayerId) : List LayerId :=
  (links.filter (·.1 == id)).map Prod.snd

def predecessors (links : List (LayerId × LayerId)) (id : LayerId) : List LayerId :=
  (links.filter (·.2 == id)).map Prod.fst

/-- A depth-first search: the layers still to be visited, those seen, and those left behind with the
last one first. -/
structure Search where
  stack : List LayerId
  discovered : List LayerId
  finished : List LayerId

namespace Search

/-- Visits the layer on top of the stack. The first visit puts the unseen layers that it feeds on
top, the next one leaves it behind; a layer that feeds itself stops the search. -/
def visit (links : List (LayerId × LayerId)) (top : LayerId) (rest : List LayerId)
    (search : Search) : Except LayerId Search :=
  if top ∈ search.discovered then
    .ok { search with
      stack := rest
      finished := if top ∈ search.finished then search.finished else top :: search.finished }
  else if top ∈ successors links top then .error top
  else
    let discovered := top :: search.discovered
    let unseen := (successors links top).filter fun id => !discovered.contains id
    .ok { search with stack := unseen ++ top :: rest, discovered := discovered }

def run (links : List (LayerId × LayerId)) : Nat → Search → Except LayerId Search
  | 0, search => .ok search
  | fuel + 1, search =>
    match search.stack with
    | [] => .ok search
    | top :: rest => visit links top rest search >>= run links fuel

/-- Visits a layer and all it leads to, unless it has been seen. Every layer is discovered once and
every entry of the stack, one per link and one for the start, is removed once. -/
def start (links : List (LayerId × LayerId)) (count : Nat) (search : Search) (id : LayerId) :
    Except LayerId Search :=
  if id ∈ search.discovered then .ok search
  else run links (count + links.length + 1) { search with stack := [id] }

end Search

/-- Checks that all feeding layers of a listed layer stand before it; the first link into a layer
whose start does not is blamed. -/
def checkOrder (links : List (LayerId × LayerId)) (before : List LayerId) :
    List LayerId → Except LayerId Unit
  | [] => .ok ()
  | id :: rest =>
    match (predecessors links id).find? fun other => !(id :: before).contains other with
    | some other => .error other
    | none => checkOrder links (id :: before) rest

def sortLinks (links : List (LayerId × LayerId)) (count : Nat) : Except LayerId (List LayerId) := do
  let search ← (List.range count).foldlM (Search.start links count) ⟨[], [], []⟩
  checkOrder links [] search.finished
  .ok search.finished

def topologicalOrder (network : Network) : Except NetworkError (List LayerId) :=
  match sortLinks network.links network.layers.length with
  | .ok order => .ok order
  | .error id => .error (.cycle (network.nameOf id))

end ShapeFlow.Network
