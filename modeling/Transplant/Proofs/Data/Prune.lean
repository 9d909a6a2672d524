import Transplant.Data.Prune

/-!
# What pruning keeps

A field of a pruned mapping is the field that was there, pruned itself, unless it was null.

All of a value is told by its places (`Data.places`): the paths of keys that lead somewhere through mappings, and
what stands at their ends. Pruning takes away the places of nulls and no others (`places_prune`).

Main statement: `prune_exactly_unset`.
-/

namespace Transplant.Data

/-- What stays of a value in a pruned mapping. -/
def kept? : Data → Option Data
  | .null => none
  | d => some d.prune

theorem kept?_elim {α : Type} {make : α → Data} (hkept : ∀ a, kept? (make a) = some (make a)) (o : Option α) :
    kept? (o.elim .null make) = o.map make := by
  cases o with
  | none => rfl
  | some a => exact hkept a

theorem kept?_ofText? (s : Option String) : kept? (.ofText? s) = s.map .text :=
  kept?_elim (fun _ => rfl) s

theorem pruneEntries_cons (k v : Data) (rest : List (Data × Data)) :
    pruneEntries ((k, v) :: rest) = (v.kept?.map (k, ·)).toList ++ pruneEntries rest := by
  cases v <;> rfl

theorem lookup_text_cons (k : String) (v : Data) (rest : List (Data × Data)) (key : String) :
    lookup ((.text k, v) :: rest) key = if k = key then some v else lookup rest key := by
  by_cases h : k = key <;> simp [lookup, h]

theorem lookup_pruneEntries (fields : List (String × Data)) (hkeys : (fields.map (·.1)).Nodup) (key : String) :
    lookup (pruneEntries (fields.map fun (k, v) => (.text k, v))) key = (fields.lookup key).bind kept? := by
  induction fields with
  | nil => rfl
  | cons first rest ih =>
    obtain ⟨k, v⟩ := first
    obtain ⟨hfresh, hrest⟩ := List.nodup_cons.1 hkeys
    rw [List.map_cons, pruneEntries_cons]
    by_cases heq : key = k
    · subst heq
      have hnone : rest.lookup key = none := by
        refine List.lookup_eq_none_iff.2 fun p hp => ?_
        have hne : p.1 ≠ key := fun h => hfresh (h ▸ List.mem_map.2 ⟨p, hp, rfl⟩)
        simpa using hne.symm
      cases hv : v.kept? with
      | none => simp [ih hrest, hnone, hv]
      | some d => simp [lookup_text_cons, hv]
    · have hne : (key == k) = false := by simpa using heq
      rw [List.lookup_cons, hne]
      cases hv : v.kept? with
      | none => simp [ih hrest]
      | some d => simp [lookup_text_cons, Ne.symm heq, ih hrest]

/-! ## Places -/

mutual

/-- The places of a value, the outer ones first: the keys that lead there through mappings, and what stands there. -/
def places : Data → List (List Data × Data)
  | .map entries => ([], .map entries) :: placesIn entries
  | d => [([], d)]

/-- The places of some entries, each of which starts with its key. -/
def placesIn : List (Data × Data) → List (List Data × Data)
  | [] => []
  | (k, v) :: rest => (places v).map (Prod.map (k :: ·) id) ++ placesIn rest

end

def isNull : Data → Bool
  | .null => true
  | _ => false

def isMapping : Data → Bool
  | .map _ => true
  | _ => false

/-- The places at which no mapping stands. -/
def leaves (d : Data) : List (List Data × Data) :=
  d.places.filter (!·.2.isMapping)

theorem isNull_prune (d : Data) : d.prune.isNull = d.isNull := by
  cases d <;> rfl

theorem isMapping_prune (d : Data) : d.prune.isMapping = d.isMapping := by
  cases d <;> rfl

theorem prune_of_not_isMapping {d : Data} (h : d.isMapping = false) : d.prune = d := by
  cases d with
  | map entries => cases h
  | _ => rfl

theorem kept?_eq (d : Data) : d.kept? = if d.isNull then none else some d.prune := by
  cases d <;> rfl

theorem filter_places_of_isNull {d : Data} (h : d.isNull = true) : d.places.filter (!·.2.isNull) = [] := by
  cases d with
  | null => rfl
  | _ => cases h

mutual

/-- **Pruning takes away the places of nulls**, and prunes what stands at the others. -/
theorem places_prune : ∀ {d : Data}, d.isNull = false →
    d.prune.places = (d.places.filter (!·.2.isNull)).map (Prod.map id prune)
  | .map entries, _ => by
    rw [places, List.filter_cons_of_pos rfl, List.map_cons, ← placesIn_pruneEntries entries]
    rfl
  | .bool _, _ | .int _, _ | .real _, _ | .text _, _ | .halves _, _ | .bytes _, _ | .date _, _ | .timestamp _, _
  | .list _, _ | .pair _ _, _ | .set _, _ | .knot _ _, _ | .again _ _, _ => rfl

theorem placesIn_pruneEntries : ∀ entries : List (Data × Data),
    placesIn (pruneEntries entries) = ((placesIn entries).filter (!·.2.isNull)).map (Prod.map id prune)
  | [] => rfl
  | (k, v) :: rest => by
    have hrest := placesIn_pruneEntries rest
    -- a key in front of a path changes neither what stands there nor what becomes of it
    have hunder : ((places v).map (Prod.map (k :: ·) id)).filter (!·.2.isNull) =
        ((places v).filter (!·.2.isNull)).map (Prod.map (k :: ·) id) := List.filter_map
    rw [placesIn, List.filter_append, List.map_append, ← hrest, hunder, pruneEntries_cons, kept?_eq]
    cases hnull : v.isNull with
    | true =>
      rw [filter_places_of_isNull hnull]
      rfl
    | false =>
      have hplaces := places_prune hnull
      rw [List.map_map]
      change (places v.prune).map _ ++ _ = _
      rw [hplaces, List.map_map]
      rfl

end

mutual

theorem prune_prune : ∀ d : Data, d.prune.prune = d.prune
  | .map entries => congrArg Data.map (pruneEntries_pruneEntries entries)
  | .null | .bool _ | .int _ | .real _ | .text _ | .halves _ | .bytes _ | .date _ | .timestamp _ | .list _ | .pair _ _
  | .set _ | .knot _ _ | .again _ _ => rfl

theorem pruneEntries_pruneEntries : ∀ entries : List (Data × Data),
    pruneEntries (pruneEntries entries) = pruneEntries entries
  | [] => rfl
  | (k, v) :: rest => by
    have hrest := pruneEntries_pruneEntries rest
    rw [pruneEntries_cons, kept?_eq]
    cases hnull : v.isNull with
    | true => exact hrest
    | false =>
      have hv := prune_prune v
      change pruneEntries ((k, v.prune) :: pruneEntries rest) = (k, v.prune) :: pruneEntries rest
      rw [pruneEntries_cons, kept?_eq, isNull_prune, hnull, hrest, hv]
      rfl

end

theorem leaves_prune {d : Data} (h : d.isNull = false) : d.prune.leaves = d.leaves.filter (!·.2.isNull) := by
  have hmapping : (fun place : List Data × Data => !place.2.isMapping) ∘ Prod.map id prune = (!·.2.isMapping) :=
    funext fun place => congrArg (!·) (isMapping_prune place.2)
  have hsame : ∀ place ∈ d.leaves.filter (!·.2.isNull), Prod.map id prune place = id place := fun place hplace => by
    have hleaf : place.2.isMapping = false := by simpa using (List.mem_filter.1 (List.mem_filter.1 hplace).1).2
    exact Prod.ext rfl (prune_of_not_isMapping hleaf)
  have hswap : (d.places.filter (!·.2.isNull)).filter (!·.2.isMapping) = d.leaves.filter (!·.2.isNull) := by
    rw [leaves, List.filter_filter, List.filter_filter]
    exact List.filter_congr fun place _ => Bool.and_comm _ _
  rw [leaves, places_prune h, List.filter_map, hmapping, hswap, List.map_congr_left hsame, List.map_id]

theorem pruneEntries_eq_nil_iff {entries : List (Data × Data)} :
    pruneEntries entries = [] ↔ ∀ e ∈ entries, e.2.isNull = true := by
  induction entries with
  | nil => simp [pruneEntries]
  | cons e rest ih =>
    obtain ⟨k, v⟩ := e
    rw [pruneEntries_cons, kept?_eq]
    cases hnull : v.isNull <;> simp [ih, hnull]

/-- **Pruning drops exactly what is unset.** In a pruned mapping no null stands under a key at any depth; the leaves are
those that were there, but for the nulls, in their order and under their keys; no path of keys is new and only those
to nulls are gone. Every mapping inside is still there, as an empty one where all of its entries were null. To prune
again changes nothing. -/
theorem prune_exactly_unset (entries : List (Data × Data)) :
    let d : Data := .map entries
    (∀ place ∈ d.prune.places, place.2.isNull = false) ∧
    d.prune.leaves = d.leaves.filter (!·.2.isNull) ∧
    d.prune.places.map Prod.fst = (d.places.filter (!·.2.isNull)).map Prod.fst ∧
    (∀ path inner, (path, Data.map inner) ∈ d.places →
      (path, Data.map (pruneEntries inner)) ∈ d.prune.places ∧
      (pruneEntries inner = [] ↔ ∀ e ∈ inner, e.2.isNull = true)) ∧
    d.prune.prune = d.prune := by
  intro d
  have hplaces : d.prune.places = (d.places.filter (!·.2.isNull)).map (Prod.map id prune) := places_prune rfl
  refine ⟨fun place hplace => ?_, leaves_prune rfl, ?_, fun path inner hinner => ?_, prune_prune d⟩
  · rw [hplaces] at hplace
    obtain ⟨before, hbefore, rfl⟩ := List.mem_map.1 hplace
    have hkept : before.2.isNull = false := by simpa using (List.mem_filter.1 hbefore).2
    exact (isNull_prune before.2).trans hkept
  · rw [hplaces, List.map_map]
    rfl
  · refine ⟨?_, pruneEntries_eq_nil_iff⟩
    rw [hplaces]
    exact List.mem_map.2 ⟨_, List.mem_filter.2 ⟨hinner, rfl⟩, rfl⟩

/-- Values that count as empty stay, a null in a list does too, and so does a mapping of which nothing is left. -/
theorem prune_exactly_unset_falsy :
    let strip : Data := .map [(.text "strip", .null)]
    let d : Data := .map [ (.text "verbose", .bool false), (.text "mode", .null), (.text "diff", strip)
                         , (.text "paths", .list [.null]), (.text "file", .text "") ]
    d.prune.leaves = [ ([.text "verbose"], .bool false), ([.text "paths"], .list [.null]), ([.text "file"], .text "") ] ∧
    ([.text "diff"], Data.map []) ∈ d.prune.places ∧ d.prune.prune = d.prune := by
  intro strip d
  obtain ⟨-, hleaves, -, hmappings, hagain⟩ := prune_exactly_unset
    [ (.text "verbose", .bool false), (.text "mode", .null), (.text "diff", strip)
    , (.text "paths", .list [.null]), (.text "file", .text "") ]
  have hstrip : ([Data.text "diff"], strip) ∈ d.places := by
    simp [d, strip, places, placesIn]
  exact ⟨hleaves, (hmappings _ _ hstrip).1, hagain⟩

end Transplant.Data
