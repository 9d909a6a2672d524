import Transplant.Proofs.Tree.Comparison

/-!
# Ceilings

A process is started with a list of directories into which the tool may not climb when it looks for a repository. The
tool reads the list as absolute directories between colons (`ceilings`) and looks in the directory of the process and
in those above it, up to the nearest ceiling (`searched`). So it stays in that directory if and only if the directory
above it is on the list (`searched_eq_singleton_iff`).

The list that a process gets is the text of the parent of its directory as written. That is the directory above only
where the path does not end in `..` (`Path.collapse_parent_iff`), and it is read back as that one directory only where no
name in it has a colon (`ceilings_text`, `not_mem_ceilings`).

Main statements: `search_confined_iff`, and `search_climbs`.
-/

namespace Transplant.Tree

namespace Path

variable {p : Path} {names : List (List Char)} {name : List Char} {c : Char}

/-! ## Texts of paths -/

theorem not_mem_text (h : ∀ name ∈ p.names, ':' ∉ name) : ':' ∉ p.text.toList := by
  intro hmem
  rw [text, String.toList_ofList] at hmem
  rcases List.mem_append.1 hmem with hmem | hmem
  · split at hmem <;> simp at hmem
  · rcases Text.mem_joinWith hmem with hcolon | ⟨name, hname, hcolon⟩
    · cases hcolon
    · exact h name hname hcolon

theorem components_joinWith (h : ∀ name ∈ names, IsName name) : components (Text.joinWith '/' names) = names := by
  cases names with
  | nil => rfl
  | cons name rest =>
    have hslash : ∀ piece ∈ name :: rest, '/' ∉ piece := fun piece hpiece => (h piece hpiece).2.2
    rw [components, Text.splitOn_eq, Text.joinWith_eq, List.splitOn_intercalate '/' hslash (List.cons_ne_nil _ _),
      List.filter_eq_self]
    intro piece hpiece
    obtain ⟨hne, hdot, -⟩ := h piece hpiece
    simp [hne, hdot]

theorem takeWhile_joinWith (h : ∀ name ∈ names, IsName name) :
    (Text.joinWith '/' names).takeWhile (· == '/') = [] := by
  cases names with
  | nil => rfl
  | cons name rest =>
    obtain ⟨hne, -, hslash⟩ := h name List.mem_cons_self
    obtain ⟨c, cs, rfl⟩ := List.exists_cons_of_ne_nil hne
    have hc : ¬ (c == '/') = true := fun heq => hslash (by simp [beq_iff_eq.1 heq])
    cases rest <;> exact List.takeWhile_cons_of_neg hc

theorem names_ofText (s : String) : (ofText s).names = components s.toList := by
  unfold ofText resolve
  dsimp only
  split
  · rfl
  · exact List.nil_append _

/-- **The text of a path is read as that path.** -/
theorem ofText_text (h : p.IsPlain) : ofText p.text = p := by
  obtain ⟨doubleRoot, names⟩ := p
  have hslashes : (Text.joinWith '/' names).takeWhile (· == '/') = [] := takeWhile_joinWith h
  have hnames : components (Text.joinWith '/' names) = names := components_joinWith h
  have hroot : root? ((if doubleRoot then ['/', '/'] else ['/']) ++ Text.joinWith '/' names) = some doubleRoot := by
    cases doubleRoot <;> simp [root?, List.takeWhile_cons_of_pos, hslashes]
  have hbelow : components ((if doubleRoot then ['/', '/'] else ['/']) ++ Text.joinWith '/' names) = names := by
    refine Eq.trans ?_ hnames
    cases doubleRoot <;> rfl
  unfold ofText resolve text
  rw [String.toList_ofList]
  dsimp only
  rw [hroot, hbelow]

/-! ## The directory above -/

theorem mem_of_mem_collapseOnto {above : List (List Char)} (h : name ∈ collapseOnto above names) :
    name ∈ above ∨ name ∈ names := by
  induction names generalizing above with
  | nil => exact .inl (List.mem_reverse.1 h)
  | cons first rest ih =>
    rw [collapseOnto] at h
    split at h
    · exact (ih h).imp List.mem_of_mem_tail (List.mem_cons_of_mem _)
    · rcases ih h with h | h
      · rcases List.mem_cons.1 h with rfl | h
        · exact .inr List.mem_cons_self
        · exact .inl h
      · exact .inr (List.mem_cons_of_mem _ h)

theorem mem_of_mem_collapse (h : name ∈ p.collapse.names) : name ∈ p.names :=
  (mem_of_mem_collapseOnto h).resolve_left List.not_mem_nil

theorem isPlain_parent (h : p.IsPlain) : p.parent.IsPlain :=
  fun name hname => h name (List.dropLast_subset _ hname)

/-- **The parent as written is the directory above** unless the path ends in `..`; then it is so only below the root. -/
theorem collapse_parent_iff :
    p.parent.collapse = p.collapse.parent ↔ p.names.getLast? ≠ some up ∨ p.parent.collapse.names = [] := by
  by_cases hroot : p.names = []
  · simp [parent, collapse, hroot, collapseOnto]
  obtain ⟨base, name, rfl⟩ : ∃ base name, p = child base name := ⟨p.parent, _, (child_parent hroot).symm⟩
  rw [parent_child, names_child, List.getLast?_concat]
  by_cases hname : name = up
  · subst hname
    rw [collapse_child_up]
    refine ⟨fun habove => .inr ?_, ?_⟩
    · -- a directory that is two levels above itself is the root
      have hlength := congrArg (List.length ∘ Path.names) habove
      simp only [Function.comp_apply, parent, List.length_dropLast] at hlength
      exact List.length_eq_zero_iff.1 (by omega)
    · rintro (hlast | hbase)
      · exact absurd rfl hlast
      · generalize base.collapse = root at hbase ⊢
        obtain ⟨doubleRoot, names⟩ := root
        obtain rfl : names = [] := hbase
        rfl
  · rw [collapse_child_name hname, parent_child]
    simp [hname]

end Path

/-! ## Looking for a repository -/

/-- The directories on a list of ceilings: the absolute ones of its parts between colons. -/
def ceilings (value : String) : List Path :=
  ((Text.splitOn ':' value.toList).filter (·.head? == some '/')).map fun cs => (Path.ofText (String.ofList cs)).collapse

/-- Looks in a directory, given from its last name up, and in those above it, but not in a ceiling. -/
def searchUpward (ceilings : List Path) (doubleRoot : Bool) : List (List Char) → List Path
  | [] => [⟨doubleRoot, []⟩]
  | name :: above =>
    ⟨doubleRoot, (name :: above).reverse⟩ ::
      if ⟨doubleRoot, above.reverse⟩ ∈ ceilings then [] else searchUpward ceilings doubleRoot above

/-- The directories in which the tool looks for a repository when it starts in one. -/
def searched (ceilings : List Path) (p : Path) : List Path :=
  searchUpward ceilings p.doubleRoot p.names.reverse

section

variable {p : Path} {value : String} {above : List Path}

theorem searched_eq (above : List Path) (p : Path) :
    searched above p = p :: if p.names = [] ∨ p.parent ∈ above then [] else searched above p.parent := by
  obtain ⟨doubleRoot, names⟩ := p
  rcases List.eq_nil_or_concat names with rfl | ⟨names, name, rfl⟩
  · simp [searched, searchUpward]
  · simp [searched, searchUpward, Path.parent]

/-- **The tool stays in a directory** if it is the root, or the directory above it is a ceiling. -/
theorem searched_eq_singleton_iff : searched above p = [p] ↔ p.names = [] ∨ p.parent ∈ above := by
  rw [searched_eq, List.cons_inj_right]
  split
  · simpa
  · rename_i hclimbs
    rw [searched_eq]
    simpa using hclimbs

theorem parent_mem_searched (h : ¬ (p.names = [] ∨ p.parent ∈ above)) : p.parent ∈ searched above p := by
  rw [searched_eq, if_neg h, searched_eq]
  simp

theorem ceilings_text (hplain : p.IsPlain) (hcolon : ∀ name ∈ p.names, ':' ∉ name) :
    ceilings p.text = [p.collapse] := by
  have habsolute : p.text.toList.head? = some '/' := by
    rw [Path.text, String.toList_ofList]
    split <;> rfl
  rw [ceilings, Text.splitOn_eq, List.splitOn_eq_singleton (Path.not_mem_text hcolon),
    List.filter_cons_of_pos (by simp [habsolute]), List.filter_nil, List.map_singleton, String.ofList_toList,
    Path.ofText_text hplain]

/-- No directory with a colon in its path can be on a list. -/
theorem not_mem_ceilings (hcolon : ∃ name ∈ p.names, ':' ∈ name) : p ∉ ceilings value := by
  intro hmem
  obtain ⟨name, hname, hc⟩ := hcolon
  obtain ⟨part, hpart, rfl⟩ := List.mem_map.1 hmem
  have hunparted : ':' ∉ part := Text.not_mem_of_mem_splitOn (List.mem_filter.1 hpart).1
  have hread := Path.mem_of_mem_collapse hname
  have hcomponent : name ∈ Path.components part := by
    rw [Path.names_ofText, String.toList_ofList] at hread
    exact hread
  exact hunparted (Text.of_mem_piece (List.mem_filter.1 hcomponent).1 hc).1

/-- Where colons stand only in names that are taken back, a part of the list can still be the right directory. -/
example : (⟨false, ["d".toList]⟩ : Path) ∈ ceilings "/c:/../d" ∧ ⟨false, ["d".toList]⟩ ∉ ceilings "/c:c/../d" := by
  decide

end

/-! ## Processes -/

/-- The ceilings of a process, as the tool finds them in its environment. -/
def Request.ceilings (r : Request) : List Path :=
  Tree.ceilings ((r.environment.lookup "GIT_CEILING_DIRECTORIES").getD "")

/-- Whether some comparison or replay from a working directory asks for a process. -/
inductive Asked (s : Settings.Diff) (cwd : Path) (r : Request) : Prop where
  | compared (git : Starter) (left right : String) (verbose : Bool)
      (h : r ∈ (diff s cwd git left right verbose).requests)
  | replayed (git : Starter) (target : String) (contents : Bytes) (o : PatchOptions)
      (h : r ∈ (patch s cwd git target contents o).requests)

section

variable {s : Settings.Diff} {cwd : Path} {r : Request}

/-- A comparison starts in the parent of a path and a replay in one. The ceiling of both is the parent as written. -/
theorem Asked.placed (h : Asked s cwd r) :
    r.ceiling = r.directory.parent ∧
    ∃ given, r.directory = Path.resolve cwd given ∨ r.directory = (Path.resolve cwd given).parent := by
  cases h with
  | compared git left right verbose h =>
    by_cases hparent : (Path.resolve cwd left).parent = (Path.resolve cwd right).parent
    · rw [diff_of_parent_eq s cwd git left right verbose hparent, List.mem_singleton] at h
      subst h
      exact ⟨rfl, left, .inr rfl⟩
    · rw [diff_of_parent_ne s cwd git left right verbose hparent] at h
      cases h
  | replayed git target contents o h =>
    obtain ⟨command, -, rfl⟩ := replayRequest_eq_ok (mem_requests_patch.1 h).2
    exact ⟨rfl, target, .inl rfl⟩

theorem Asked.isPlain (h : Asked s cwd r) (hcwd : cwd.IsPlain) : r.directory.IsPlain := by
  obtain ⟨-, given, hgiven | hgiven⟩ := h.placed
  · exact hgiven ▸ Path.isPlain_resolve hcwd given
  · exact hgiven ▸ Path.isPlain_parent (Path.isPlain_resolve hcwd given)

theorem Asked.ceilings_eq (h : Asked s cwd r) : r.ceilings = ceilings r.directory.parent.text := by
  rw [← h.placed.1]
  rfl

end

/-- **When the enclosing directories are out of reach** of a process. Its directory, with every `..` taken back, has the
directory above it among its ceilings if and only if the path of the directory does not end in `..`, or does so right
below the root; this where no name in front of the last one has a colon. Where the directory above has a colon in its
path it never is a ceiling. With the ceiling the tool looks in its directory only, and without it in the one above
too. -/
theorem search_confined_iff {s : Settings.Diff} {cwd : Path} (hcwd : cwd.IsPlain) {r : Request} (hasked : Asked s cwd r) :
    let directory := r.directory.collapse
    ((∀ name ∈ r.directory.parent.names, ':' ∉ name) →
      (directory.parent ∈ r.ceilings ↔
        r.directory.names.getLast? ≠ some Path.up ∨ r.directory.parent.collapse.names = [])) ∧
    ((∃ name ∈ directory.parent.names, ':' ∈ name) → directory.parent ∉ r.ceilings) ∧
    (searched r.ceilings directory = [directory] ↔ directory.names = [] ∨ directory.parent ∈ r.ceilings) ∧
    (searched r.ceilings directory ≠ [directory] → directory.parent ∈ searched r.ceilings directory) := by
  intro directory
  refine ⟨fun hcolon => ?_, not_mem_ceilings, searched_eq_singleton_iff, fun hclimbs => ?_⟩
  · have hplain : r.directory.parent.IsPlain := Path.isPlain_parent (hasked.isPlain hcwd)
    rw [hasked.ceilings_eq, ceilings_text hplain hcolon, List.mem_singleton, eq_comm]
    exact Path.collapse_parent_iff
  · exact parent_mem_searched fun hstays => hclimbs (searched_eq_singleton_iff.2 hstays)

/-- A target whose path goes up on the way. -/
theorem search_confined_iff_detour :
    let cwd : Path := ⟨false, ["work".toList]⟩
    ∀ r ∈ (patch {} cwd (fun _ => .timedOut) "a/../t" [120] {}).requests,
      (searched r.ceilings r.directory.collapse).map Path.text = ["/work/t"] := by
  intro cwd r hr
  have hasked : Asked {} cwd r := .replayed _ _ _ _ hr
  obtain ⟨hceiling, -, hsearched, -⟩ := search_confined_iff (by decide : cwd.IsPlain) hasked
  have hdirectory : r.directory = Path.resolve cwd "a/../t" := by
    obtain ⟨command, -, rfl⟩ := replayRequest_eq_ok (mem_requests_patch.1 hr).2
    rfl
  rw [hdirectory] at hceiling hsearched ⊢
  rw [hsearched.2 (.inr ((hceiling (by decide)).2 (.inl (by decide))))]
  decide

/-- **The tool climbs into the enclosing directory** where the path of a target ends in `..`, and where a name in it has a
colon: in the first case the ceiling lies below the directory, in the second one beside it. -/
theorem search_climbs :
    let reach (target : String) : List (List String × List String) :=
      (patch {} ⟨false, ["work".toList]⟩ (fun _ => .completed 0 [] []) target [120] {}).requests.map fun r =>
        (r.ceilings.map Path.text, (searched r.ceilings r.directory.collapse).map Path.text)
    reach "a/b/.." = [(["/work/a/b"], ["/work/a", "/work", "/"])] ∧
    reach "a:b/c" = [(["/work/a"], ["/work/a:b/c", "/work/a:b", "/work", "/"])] := by
  decide +kernel

end Transplant.Tree
