import Transplant.Data.Basic

/-!
# Unset entries

A mapping built from optional sources has null for what no source supplies. Pruning drops exactly
those entries, at every depth of nested mappings, and keeps all else in place.
-/

namespace Transplant.Data

mutual

/-- A value without the null entries of its mappings, nested ones included. -/
def prune : Data → Data
  | .map entries => .map (pruneEntries entries)
  | d => d

/-- The entries of a mapping that are not null, each pruned. -/
def pruneEntries : List (Data × Data) → List (Data × Data)
  | [] => []
  | (k, v) :: rest =>
    match v with
    | .null => pruneEntries rest
    | v => (k, prune v) :: pruneEntries rest

end

end Transplant.Data
