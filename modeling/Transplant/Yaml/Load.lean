import Transplant.Yaml.Merge
import Transplant.Yaml.Value

/-!
# From nodes to data

The value of a document. A node has one value wherever it is a part. A scalar is read when it is met; the
parts of a collection are read behind all collections that were met before it, so of several faults
the one nearest the root counts. Keys of a mapping are scalars, and a later entry replaces an
earlier one with the same key.
-/

namespace Transplant.Yaml

/-- The value of a node: the data of a scalar, or a collection by its number. -/
inductive Part where
  | data (d : Data)
  | node (id : NodeId)
deriving Inhabited

/-- The parts of a collection. -/
inductive Collection where
  | list (items : List Part)
  | pairs (items : List (Part × Part))
  | set (items : List Data)
  | map (entries : List (Data × Part))
deriving Inhabited

namespace Collection

/-- Puts an entry into a mapping: at the place of its key, or at the end. -/
def putEntry (entries : List (Data × Part)) (e : Data × Part) : List (Data × Part) :=
  if entries.any fun x => x.1.same e.1 then
    entries.map fun x => if x.1.same e.1 then (x.1, e.2) else x
  else entries ++ [e]

/-- The mapping of some entries, of which the last with a key counts. -/
def ofEntries (entries : List (Data × Part)) : Collection :=
  .map (entries.foldl putEntry [])

end Collection

/-- The state of building a value: the nodes, the values that are known, the collections that wait for
their parts, the last first, and those that have them. -/
structure Building where
  graph : Graph
  known : List (NodeId × Part) := []
  waiting : List NodeId := []
  collections : List (NodeId × Collection) := []

/-- A step of building a value. -/
abbrev Build := StateT Building (Except Fault)

namespace Build

/-! ## Single nodes -/

/-- The node with a number. -/
def node (id : NodeId) : Build Node :=
  return (← get).graph.node id

/-- The entries of a mapping behind its merge keys. -/
def entries (id : NodeId) : Build (List (NodeId × NodeId)) := do
  let b ← get
  let (es, graph) ← (Graph.mergedEntries id).run b.graph
  set { b with graph := graph }
  return es

/-- The text of a scalar; a mapping stands for the value of its first entry whose key is `=`. One that
stands for itself is met again within as many steps as there are nodes. -/
def content (g : Graph) : (fuel : Nat) → NodeId → Except Fault Scalar
  | 0, _ => .error (.scalar .endless)
  | fuel + 1, id =>
    let n := g.node id
    match n.content with
    | .scalar s => .ok s
    | .sequence _ => Graph.refuse n "a scalar node"
    | .mapping es =>
      match es.find? fun e => (g.node e.1).tag == .default with
      | some (_, v) => content g fuel v
      | none => Graph.refuse n "a scalar node"

/-- The data of a node whose type is one of scalars. -/
def scalar (g : Graph) (id : NodeId) : Except Fault Data := do
  let n := g.node id
  let read := content g (g.size + 1) id
  match n.tag, n.content with
  | .merge, _ | .default, _ | .unknown _, _ => .error (.found (.unknownTag n.tag.fullName) n.mark none)
  | .timestamp, .mapping _ => read.bind fun _ => .error (.scalar .entries)
  | tag, _ => scalarValue tag (← read) n.mark

/-- The value of a node. A collection that is met for the first time waits for its parts. -/
def part (id : NodeId) : Build Part := do
  let b ← get
  match b.known.find? (·.1 == id) with
  | some (_, p) => return p
  | none =>
    if (b.graph.node id).tag.isCollection then
      set { b with known := (id, .node id) :: b.known, waiting := id :: b.waiting }
      return .node id
    else
      let d ← scalar b.graph id
      set { b with known := (id, .data d) :: b.known }
      return .data d

/-! ## Collections -/

/-- The parts of mappings with a single entry each, inside what starts at a mark. -/
def pairs (subject : String) (start : Mark) (items : List NodeId) : Build Collection :=
  .pairs <$> items.mapM fun item => do
    let n ← node item
    match n.content with
    | .mapping [(k, v)] => return (← part k, ← part v)
    | .mapping es =>
      throw (.found (.expected "a single mapping item" (.items es.length)) n.mark
        (some (.during .constructing subject, some start)))
    | _ => Graph.refuse n "a mapping of length 1" (some (subject, start))

/-- The entries of a mapping. A key is no collection. -/
def mapping (id : NodeId) : Build (List (Data × Part)) := do
  let n ← node id
  match n.content with
  | .mapping _ => (← entries id).mapM fun (k, v) => do
    match ← part k with
    | .data key => return (key, ← part v)
    | .node _ =>
      throw (.found .unusableKey (← node k).mark (some (.during .constructing "a mapping", some n.mark)))
  | _ => Graph.refuse n "a mapping node"

/-- The parts of a collection. -/
def collection (id : NodeId) : Build Collection := do
  let n ← node id
  match n.tag, n.content with
  | .orderedMap, .sequence items => pairs "an ordered map" n.mark items
  | .orderedMap, _ => Graph.refuse n "a sequence" (some ("an ordered map", n.mark))
  | .pairs, .sequence items => pairs "pairs" n.mark items
  | .pairs, _ => Graph.refuse n "a sequence" (some ("pairs", n.mark))
  | .sequence, .sequence items => .list <$> items.mapM part
  | .sequence, _ => Graph.refuse n "a sequence node"
  | .set, _ =>
    match Collection.ofEntries (← mapping id) with
    | .map es => return .set (es.map (·.1))
    | c => return c
  | _, _ => Collection.ofEntries <$> mapping id

/-- Reads the parts of the collections that wait, and of those that are met on the way. Each node waits
once, so their number is enough fuel. -/
def finish : (fuel : Nat) → Build Unit
  | 0 => return
  | fuel + 1 => do
    let b ← get
    if b.waiting.isEmpty then return
    else
      set { b with waiting := [] }
      for id in b.waiting.reverse do
        let c ← collection id
        modify fun b => { b with collections := (id, c) :: b.collections }
      finish fuel

end Build

/-! ## Data -/

namespace Building

/-- The parts of a collection. -/
def collection (b : Building) (id : NodeId) : Collection :=
  ((b.collections.find? (·.1 == id)).map (·.2)).getD default

/-- Whether a collection is a mapping. -/
def isMap (b : Building) (id : NodeId) : Bool :=
  match b.collection id with
  | .map _ => true
  | _ => false

/-- The data of a part inside some collections, and those of them that it holds again. A way into
collections ends where one comes again, so the number of nodes is enough fuel. -/
def dataOf (b : Building) : (fuel : Nat) → (within : List NodeId) → Part → Data × List NodeId
  | _, _, .data d => (d, [])
  | 0, _, .node _ => (.null, [])
  | fuel + 1, within, .node id =>
    if within.contains id then (.again id (b.isMap id), [id])
    else
      let read := dataOf b fuel (id :: within)
      let (d, held) : Data × List NodeId := match b.collection id with
        | .list items =>
          let parts := items.map read
          (.list (parts.map (·.1)), parts.flatMap (·.2))
        | .pairs items =>
          let parts := items.map fun (x, y) => (read x, read y)
          (.list (parts.map fun (x, y) => .pair x.1 y.1), parts.flatMap fun (x, y) => x.2 ++ y.2)
        | .set items => (.set items, [])
        | .map es =>
          let parts := es.map fun (k, v) => (k, read v)
          (.map (parts.map fun (k, v) => (k, v.1)), parts.flatMap (·.2.2))
      if held.isEmpty then (d, []) else (.knot id d, held.filter (· != id))

end Building

/-- The data of the node of a graph. -/
def dataOfGraph (graph : Graph) (root : NodeId) : Except Fault Data := do
  let steps := graph.size + 1
  let build : Build Part := do
    let p ← Build.part root
    Build.finish steps
    return p
  let (p, b) ← build.run { graph := graph }
  return (b.dataOf steps [] p).1

/-- The value of a document, null for an empty one. -/
def load (source : Source) : Except Fault Data := do
  match ← Graph.ofSource? source with
  | (none, _) => return .null
  | (some root, graph) => dataOfGraph graph root

end Transplant.Yaml
