import Transplant.Schema.Checked

/-!
# What a failed check tells

A combined check runs all its parts, so its problems are theirs, one part after the other, whatever the values are.
If there are none, the check passes with the value that the parts make up.
-/

namespace Transplant.Schema

variable {α β γ δ ε ζ : Type}

/-- A check that ends with some problems, or passes with a value if there are none. -/
def Checked.Gathers (problems : List Problem) (a : α) (x : Checked α) : Prop :=
  x = if problems.isEmpty then .ok a else .error problems

namespace Checked.Gathers

variable {ps qs rs ts us : List Problem} {a : α} {b : β} {c : γ} {d : δ} {e : ε}
variable {x : Checked α} {y : Checked β} {z : Checked γ} {w : Checked δ} {v : Checked ε}

theorem ok (a : α) : Gathers [] a (.ok a) := rfl

theorem congr {a' : α} (h : Gathers ps a x) (hproblems : ps = qs) (hvalue : a = a') : Gathers qs a' x := by
  rwa [← hproblems, ← hvalue]

theorem map (h : Gathers ps a x) (f : α → β) : Gathers ps (f a) (x.map f) := by
  subst h
  unfold Gathers
  split <;> rfl

theorem seq {f : α → β} {g : Checked (α → β)} (hg : Gathers ps f g) (hx : Gathers qs a x) :
    Gathers (ps ++ qs) (f a) (Checked.seq g x) := by
  subst hg hx
  unfold Gathers
  cases ps <;> cases qs <;> simp [Checked.seq]

theorem map2 (hx : Gathers ps a x) (hy : Gathers qs b y) (f : α → β → γ) :
    Gathers (ps ++ qs) (f a b) (Checked.map2 f x y) :=
  (hx.map f).seq hy

theorem map3 (hx : Gathers ps a x) (hy : Gathers qs b y) (hz : Gathers rs c z) (f : α → β → γ → δ) :
    Gathers (ps ++ qs ++ rs) (f a b c) (Checked.map3 f x y z) :=
  (hx.map2 hy f).seq hz

theorem map4 (hx : Gathers ps a x) (hy : Gathers qs b y) (hz : Gathers rs c z) (hw : Gathers ts d w)
    (f : α → β → γ → δ → ε) : Gathers (ps ++ qs ++ rs ++ ts) (f a b c d) (Checked.map4 f x y z w) :=
  (hx.map3 hy hz f).seq hw

theorem map5 (hx : Gathers ps a x) (hy : Gathers qs b y) (hz : Gathers rs c z) (hw : Gathers ts d w)
    (hv : Gathers us e v) (f : α → β → γ → δ → ε → ζ) :
    Gathers (ps ++ qs ++ rs ++ ts ++ us) (f a b c d e) (Checked.map5 f x y z w v) :=
  (hx.map4 hy hz hw f).seq hv

theorem orRefuse (input : Data) (why : Refusal) (o : Option α) (default : α) :
    Gathers (if o.isSome then none else some ⟨[], .refused why, input⟩ : Option Problem).toList (o.getD default)
      (Checked.orRefuse input why o) := by
  cases o <;> rfl

theorem under (h : Gathers ps a x) (step : Step) : Gathers (ps.map (·.under step)) a (Checked.under step x) := by
  subst h
  unfold Gathers
  cases ps <;> rfl

theorem report (h : Gathers ps a x) (model : Model) :
    report model x = if ps.isEmpty then .ok a else .error ⟨model, ps⟩ := by
  subst h
  unfold Schema.report
  split <;> rfl

end Checked.Gathers

section

variable {σ : Type} {entries : List (Data × Data)} {name : String} {supplied : Option σ} {make : σ → Data}
variable (default : α) (read : Data → Checked α)

theorem gathers_absent (hlookup : Data.lookup entries name = none) :
    Checked.Gathers [] default (field entries name (some default) read) := by
  rw [field, hlookup]
  exact .ok default

/-- A field that is left out has no problem, and the problem of one that is supplied is that of its value. -/
theorem gathers_field {problem? : σ → Option Problem} {value : σ → α}
    (hlookup : Data.lookup entries name = supplied.map make)
    (hread : ∀ s, (read (make s)).Gathers (problem? s).toList (value s)) :
    Checked.Gathers ((supplied.bind problem?).map (·.under (.field name))).toList (supplied.elim default value)
      (field entries name (some default) read) := by
  cases supplied with
  | none => exact gathers_absent default read hlookup
  | some s =>
    have hunder := (hread s).under (.field name)
    rw [field, hlookup]
    cases hproblem : problem? s <;> simpa [hproblem] using hunder

theorem gathers_plain {value : σ → α} (hlookup : Data.lookup entries name = supplied.map make)
    (hread : ∀ s, read (make s) = .ok (value s)) :
    Checked.Gathers [] (supplied.elim default value) (field entries name (some default) read) := by
  have hnone : ∀ s, (read (make s)).Gathers (none : Option Problem).toList (value s) := hread
  have h := gathers_field default read hlookup hnone
  simpa using h

/-- A text that is understood as something else, or refused. -/
theorem gathers_text {o : Option String} {why : String → Refusal} {read? : String → Option α}
    (hlookup : Data.lookup entries name = o.map .text)
    (hread : ∀ s, read (.text s) = Checked.orRefuse (.text s) (why s) (read? s)) :
    Checked.Gathers
      (o.bind fun s => if (read? s).isSome then none else some ⟨[.field name], .refused (why s), .text s⟩).toList
      ((o.bind read?).getD default) (field entries name (some default) read) := by
  cases o with
  | none => exact gathers_absent default read hlookup
  | some s =>
    have h := (Checked.Gathers.orRefuse (.text s) (why s) (read? s) default).under (.field name)
    rw [field, hlookup]
    change Checked.Gathers _ _ (Checked.under (.field name) (read (.text s)))
    rw [hread]
    cases hs : read? s <;> simpa [hs, Problem.under] using h

end

end Transplant.Schema
