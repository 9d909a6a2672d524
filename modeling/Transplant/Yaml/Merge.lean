import Transplant.Yaml.Reader

/-!
# Merged mappings

A key `<<` brings the entries of another mapping, or of several, into its own one, in front of those that
are there; of several the first counts most. A key `=` of a mapping whose merge keys were taken is a
text like others.
-/

namespace Transplant.Yaml.Graph

/-- A change of a graph that may fail. -/
abbrev Change := StateT Graph (Except Fault)

/-- The fault of a node in the place of something else, inside something that starts at a mark. -/
def refuse {α : Type} (n : Node) (wanted : String) (context : Option (String × Mark) := none) : Except Fault α :=
  .error (.found (.expected wanted (.node n.content.kind)) n.mark
    (context.map fun (subject, start) => (.during .constructing subject, some start)))

/-- The entries that the value of a merge key brings into a mapping that starts at a mark. The mappings
named there have their own merge keys taken first. -/
def broughtBy (take : NodeId → Change Unit) (start : Mark) (source : NodeId) : Change (List (NodeId × NodeId)) := do
  let n := (← get).node source
  match n.content with
  | .mapping _ =>
    take source
    return (← get).entries source
  | .sequence items =>
    let groups ← items.mapM fun item => do
      let n := (← get).node item
      match n.content with
      | .mapping _ =>
        take item
        return (← get).entries item
      | _ => refuse n "a mapping for merging" (some ("a mapping", start))
    return groups.reverse.flatten
  | .scalar _ => refuse n "a mapping or list of mappings for merging" (some ("a mapping", start))

/-- Takes the merge keys out of the entries of a mapping from one of them on, and gives what they bring.
Where a mapping merges itself, all of them have been taken when it comes back. -/
def takeKeys (take : NodeId → Change Unit) (id : NodeId) (start : Mark) :
    (before after : List (NodeId × NodeId)) → Change (List (NodeId × NodeId))
  | _, [] => return []
  | before, (k, v) :: after => do
    match ((← get).node k).tag with
    | .merge =>
      modify fun g => g.setContent id (.mapping (before ++ after))
      let brought ← broughtBy take start v
      if (← get).entries id == before ++ after then
        return brought ++ (← takeKeys take id start before after)
      else return brought
    | .default =>
      modify fun g => g.setTag k .text
      takeKeys take id start (before ++ [(k, v)]) after
    | _ => takeKeys take id start (before ++ [(k, v)]) after

/-- Takes the merge keys of a mapping. Each of them is taken once, so their number is enough fuel. -/
def takeMerges : (fuel : Nat) → NodeId → Change Unit
  | 0, _ => return
  | fuel + 1, id => do
    let g ← get
    let brought ← takeKeys (takeMerges fuel) id (g.node id).mark [] (g.entries id)
    if !brought.isEmpty then
      modify fun g => g.setContent id (.mapping (brought ++ g.entries id))

/-- The number of entries of all mappings. -/
def entryCount (g : Graph) : Nat :=
  g.nodes.foldl (fun n node => match node.content with
    | .mapping es => n + es.length
    | _ => n) 0

/-- The entries of a mapping behind its merge keys. -/
def mergedEntries (id : NodeId) : Change (List (NodeId × NodeId)) := do
  takeMerges ((← get).entryCount + 1) id
  return (← get).entries id

end Transplant.Yaml.Graph
