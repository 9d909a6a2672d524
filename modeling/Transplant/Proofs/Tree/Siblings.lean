import Transplant.Proofs.Tree.Start

/-!
# Sibling directories

A comparison looks at the parents of the two paths as they are written: a last `..` counts as a name, and the
root is its own parent. Whether the directories are siblings is decided by the paths in which every `..` is
taken back.

Main statements: `siblings_iff_of_parent_eq` says which pairs with one parent as written are siblings, and
`diff_refuses_strangers` that a pair of directories that are not siblings is refused before any process starts,
unless the parents as written are the same and one of the paths is the root or ends in `..`.
-/

namespace Transplant.Tree

namespace Path

/-! ## Taking back -/

/-- The name of the directory above. -/
abbrev up : List Char := ['.', '.']

theorem collapseOnto_append_name {name : List Char} (hname : name ≠ up) (above names : List (List Char)) :
    collapseOnto above (names ++ [name]) = collapseOnto above names ++ [name] := by
  induction names generalizing above with
  | nil => simp [collapseOnto, hname]
  | cons first rest ih =>
    simp only [List.cons_append, collapseOnto]
    split <;> exact ih _

theorem collapseOnto_append_up (above names : List (List Char)) :
    collapseOnto above (names ++ [up]) = (collapseOnto above names).dropLast := by
  induction names generalizing above with
  | nil => simp [collapseOnto]
  | cons first rest ih =>
    simp only [List.cons_append, collapseOnto]
    split <;> exact ih _

@[simp]
theorem names_child (p : Path) (name : List Char) : (p.child name).names = p.names ++ [name] :=
  rfl

@[simp]
theorem parent_child (p : Path) (name : List Char) : (p.child name).parent = p := by
  simp [child, parent]

theorem child_parent {p : Path} (hp : p.names ≠ []) : p.parent.child (p.names.getLast hp) = p := by
  obtain ⟨doubleRoot, names⟩ := p
  simp only [parent, child, List.dropLast_concat_getLast hp]

theorem collapse_child_name {name : List Char} (hname : name ≠ up) (p : Path) :
    (p.child name).collapse = p.collapse.child name := by
  simp only [collapse, child, collapseOnto_append_name hname]

theorem collapse_child_up (p : Path) : (p.child up).collapse = p.collapse.parent := by
  simp only [collapse, child, parent, collapseOnto_append_up]

/-- Whether a path ends in the name of a directory: the root has none, and a last `..` takes one back. -/
def IsNamed (p : Path) : Prop :=
  p.names ≠ [] ∧ p.names.getLast? ≠ some up

instance (p : Path) : Decidable p.IsNamed :=
  inferInstanceAs (Decidable (_ ∧ _))

theorem isNamed_child_iff {p : Path} {name : List Char} : (p.child name).IsNamed ↔ name ≠ up := by
  simp [IsNamed]

theorem not_isNamed_root {p : Path} (hp : p.names = []) : ¬ p.IsNamed :=
  fun h => h.1 hp

/-! ## Siblings -/

/-- Whether two paths lead to directories with the same immediate parent. The root has no parent. -/
def Siblings (p q : Path) : Prop :=
  p.collapse.names ≠ [] ∧ q.collapse.names ≠ [] ∧ p.collapse.parent = q.collapse.parent

instance (p q : Path) : Decidable (p.Siblings q) :=
  inferInstanceAs (Decidable (_ ∧ _ ∧ _))

theorem Siblings.symm {p q : Path} (h : p.Siblings q) : q.Siblings p :=
  ⟨h.2.1, h.1, h.2.2.symm⟩

theorem siblings_self_iff {p : Path} : p.Siblings p ↔ p.collapse.names ≠ [] :=
  ⟨fun h => h.1, fun h => ⟨h, h, rfl⟩⟩

theorem not_siblings_root {p q : Path} (hp : p.names = []) : ¬ p.Siblings q := by
  intro h
  exact h.1 (by simp [collapse, hp, collapseOnto])

theorem siblings_child_names {name name' : List Char} (hname : name ≠ up) (hname' : name' ≠ up) (p : Path) :
    (p.child name).Siblings (p.child name') := by
  rw [Siblings, collapse_child_name hname, collapse_child_name hname']
  simp

/-- A directory is no sibling of one below it. -/
theorem not_siblings_child_up {name : List Char} (hname : name ≠ up) (p : Path) :
    ¬ (p.child up).Siblings (p.child name) := by
  intro h
  rw [Siblings, collapse_child_up, collapse_child_name hname, parent_child] at h
  obtain ⟨hroot, -, hparent⟩ := h
  have hlength := congrArg (List.length ∘ Path.names) hparent
  simp only [Function.comp_apply, parent, List.length_dropLast] at hlength
  have hempty : p.collapse.names = [] := List.length_eq_zero_iff.mp (by omega)
  exact hroot (by simp [parent, hempty])

/-- Two different paths one name down from one directory are siblings where both end in a name. -/
theorem siblings_child_iff {name name' : List Char} (hnames : name ≠ name') (p : Path) :
    (p.child name).Siblings (p.child name') ↔ name ≠ up ∧ name' ≠ up := by
  constructor
  · intro h
    refine ⟨?_, ?_⟩
    · rintro rfl
      exact not_siblings_child_up hnames.symm p h
    · rintro rfl
      exact not_siblings_child_up hnames p h.symm
  · rintro ⟨hname, hname'⟩
    exact siblings_child_names hname hname' p

/-- **Which pairs with one parent as written are siblings**: two paths that both end in a name, and a path and
itself where it does not lead to the root. -/
theorem siblings_iff_of_parent_eq {p q : Path} (h : p.parent = q.parent) :
    p.Siblings q ↔ (p.IsNamed ∧ q.IsNamed) ∨ (p = q ∧ p.collapse.names ≠ []) := by
  by_cases hp : p.names = []
  · have hroot : p.collapse.names = [] := by simp [collapse, hp, collapseOnto]
    simp [not_siblings_root hp, not_isNamed_root hp, hroot]
  by_cases hq : q.names = []
  · have hnot : ¬ p.Siblings q := fun hsib => not_siblings_root hq hsib.symm
    have hne : p ≠ q := fun heq => hp (heq ▸ hq)
    simp [hnot, not_isNamed_root hq, hne]
  -- both paths go one name down from the same directory
  obtain ⟨base, name, name', rfl, rfl⟩ : ∃ base name name', p = child base name ∧ q = child base name' :=
    ⟨p.parent, _, _, (child_parent hp).symm, (h ▸ child_parent hq).symm⟩
  by_cases hnames : name = name'
  · subst hnames
    rw [siblings_self_iff, isNamed_child_iff]
    refine ⟨fun hbelow => .inr ⟨rfl, hbelow⟩, ?_⟩
    rintro (⟨hname, -⟩ | ⟨-, hbelow⟩)
    · simp [collapse_child_name hname]
    · exact hbelow
  · have hne : base.child name ≠ base.child name' := fun heq => hnames (by simpa [child] using heq)
    rw [siblings_child_iff hnames, isNamed_child_iff, isNamed_child_iff]
    simp [hne]

end Path

/-! ## Comparisons -/

section

variable (s : Settings.Diff) (cwd : Path) (git : Starter) (left right : String) (verbose : Bool)

theorem diff_of_parent_eq (h : (Path.resolve cwd left).parent = (Path.resolve cwd right).parent) :
    (diff s cwd git left right verbose).requests =
      [compareRequest s (Path.resolve cwd left) (Path.resolve cwd right)] := by
  rw [diff_eq_start h, requests_start]

theorem diff_of_parent_ne (h : (Path.resolve cwd left).parent ≠ (Path.resolve cwd right).parent) :
    diff s cwd git left right verbose = refuse (.notSiblings left right) := by
  simp only [diff, if_neg h]

end

/-- **Directories that are not siblings are refused before any process starts**, unless their parents as written
are the same and one of the paths is the root or ends in `..`. All pairs with one parent as written are compared,
and a path of that kind is a sibling only of itself, and only where it does not lead to the root. -/
theorem diff_refuses_strangers (s : Settings.Diff) (cwd : Path) (git : Starter) (left right : String)
    (verbose : Bool) :
    let l := Path.resolve cwd left
    let r := Path.resolve cwd right
    let compared := diff s cwd git left right verbose
    let overlooked := l.parent = r.parent ∧ ¬ (l.IsNamed ∧ r.IsNamed)
    (¬ l.Siblings r → ¬ overlooked →
      ∃ why, compared = { outcome := .error why, requests := [], records := [] } ∧ why.kind = .value ∧
        why.message = "Paths '" ++ left ++ "' and '" ++ right ++ "' must be sibling directories.") ∧
    (l.parent = r.parent → compared.requests = [compareRequest s l r]) ∧
    (overlooked → (¬ l.Siblings r ↔ (l = r → l.collapse.names = []))) := by
  intro l r compared overlooked
  refine ⟨?_, diff_of_parent_eq s cwd git left right verbose, ?_⟩
  · intro hsib hover
    have hparent : l.parent ≠ r.parent := by
      intro heq
      have hnamed : l.IsNamed ∧ r.IsNamed := Decidable.not_not.mp fun hnot => hover ⟨heq, hnot⟩
      exact hsib ((Path.siblings_iff_of_parent_eq heq).mpr (.inl hnamed))
    exact ⟨.notSiblings left right, diff_of_parent_ne s cwd git left right verbose hparent, rfl, rfl⟩
  · rintro ⟨hparent, hnamed⟩
    rw [Path.siblings_iff_of_parent_eq hparent]
    simp [hnamed]

/-- A directory below the other one is refused, but the root is compared with a directory below it. -/
theorem diff_refuses_child :
    let root : Path := ⟨false, []⟩
    let git : Starter := fun _ => .completed 0 [] []
    (∃ why, diff {} root git "/a" "/a/foo" false = { outcome := .error why } ∧
      why.message = "Paths '/a' and '/a/foo' must be sibling directories.") ∧
    (diff {} root git "/" "/foo" false).requests.map (·.directory.text) = ["/"] ∧
    ¬ (Path.resolve root "/").Siblings (Path.resolve root "/foo") := by
  intro root git
  obtain ⟨why, hrefused, -, hmessage⟩ :=
    (diff_refuses_strangers {} root git "/a" "/a/foo" false).1 (by decide) (by decide)
  obtain ⟨-, hcompared, hsib⟩ := diff_refuses_strangers {} root git "/" "/foo" false
  refine ⟨⟨why, hrefused, hmessage⟩, ?_, (hsib (by decide)).mpr (by decide)⟩
  rw [hcompared (by decide)]
  decide

/-- **A directory is compared with one two levels below it** where its path ends in `..`: the tool is asked for the
difference of the names `..` and `b` in the directory `/a`. -/
theorem diff_compares_root_with_grandchild :
    let root : Path := ⟨false, []⟩
    let l := Path.resolve root "/a/.."
    let r := Path.resolve root "/a/b"
    let compared := diff {} root (fun _ => .completed 0 [] []) "/a/.." "/a/b" false
    ¬ l.Siblings r ∧ compared.outcome = .ok [] ∧
      compared.requests.map (fun request => (request.directory.text, request.command.drop 9)) =
        [("/a", ["--", "..", "b"])] := by
  refine ⟨by decide, rfl, by decide⟩

end Transplant.Tree
