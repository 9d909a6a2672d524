import Transplant.Proofs.Text.Trim
import Transplant.Tree.Conflict

/-!
# Reports of conflicts

Which lines report a place (`Located`) or only a file (`Named`), told without the way in which they are read, and
that the line that counts among some is the first of its form (`First`).

The digits of a place have no colon. So the last colon of a line parts the path from them, whatever the path holds,
and a line gives one place at most (`splitLocation_eq_some_iff`).
-/

namespace Transplant.Tree

namespace Conflict

open Text (isDigit)

variable {words : String} {line rest path digits : List Char}

/-! ## Words around a text -/

theorem afterWords_eq_some_iff : afterWords words line = some rest ↔ line = words.toList ++ rest := by
  unfold afterWords
  split
  · rename_i hstart
    obtain ⟨more, rfl⟩ := List.isPrefixOf_iff_prefix.1 hstart
    rw [List.drop_left, Option.some.injEq, List.append_cancel_left_eq]
  · rename_i hstart
    refine iff_of_false (by simp) ?_
    rintro rfl
    exact hstart (List.isPrefixOf_iff_prefix.2 (List.prefix_append _ _))

theorem beforeWords_eq_some_iff : beforeWords words line = some rest ↔ line = rest ++ words.toList := by
  unfold beforeWords
  split
  · rename_i hend
    obtain ⟨more, rfl⟩ := List.isSuffixOf_iff_suffix.1 hend
    rw [List.length_append, Nat.add_sub_cancel, List.take_left, Option.some.injEq, List.append_cancel_right_eq]
  · rename_i hend
    refine iff_of_false (by simp) ?_
    rintro rfl
    exact hend (List.isSuffixOf_iff_suffix.2 (List.suffix_append _ _))

theorem nonEmpty_eq_some_iff : nonEmpty line = some rest ↔ line = rest ∧ rest ≠ [] := by
  cases line with
  | nil => simp [nonEmpty]
  | cons c cs =>
    rw [nonEmpty, if_neg (by simp), Option.some.injEq]
    exact ⟨fun h => ⟨h, h ▸ List.cons_ne_nil c cs⟩, And.left⟩

/-! ## Places -/

/-- A path and the digits of a line number, parted by a colon. -/
structure Place (text path digits : List Char) : Prop where
  split : text = path ++ ':' :: digits
  path_ne_nil : path ≠ []
  digits_ne_nil : digits ≠ []
  digits_are : ∀ d ∈ digits, isDigit d = true

theorem ne_colon_of_isDigit {d : Char} (hd : isDigit d = true) : (d != ':') = true := by
  rw [bne_iff_ne]
  rintro rfl
  exact absurd hd (by decide)

/-- What stands around the last colon of a text. -/
theorem split_at_last_colon {text front : List Char} {c : Char}
    (h : text.reverse.dropWhile (· != ':') = c :: front) :
    text = front.reverse ++ ':' :: (text.reverse.takeWhile (· != ':')).reverse := by
  have hhead : (text.reverse.dropWhile (· != ':')).head? = some c := by rw [h, List.head?_cons]
  have hc := Text.head_dropWhile hhead
  obtain rfl : c = ':' := by simpa using hc
  have hreverse : text.reverse = text.reverse.takeWhile (· != ':') ++ ':' :: front := by
    rw [← h, List.takeWhile_append_dropWhile]
  calc text = text.reverse.reverse := (List.reverse_reverse text).symm
    _ = (text.reverse.takeWhile (· != ':') ++ ':' :: front).reverse := congrArg List.reverse hreverse
    _ = front.reverse ++ ':' :: (text.reverse.takeWhile (· != ':')).reverse := by
      rw [List.reverse_append, List.reverse_cons, List.append_assoc, List.singleton_append]

/-- Digits have no colon, so that the last colon is the one in front of them, whatever the path holds. -/
theorem splitLocation_eq_some_iff {text : List Char} :
    splitLocation text = some (path, digits) ↔ Place text path digits := by
  unfold splitLocation
  dsimp only
  constructor
  · intro h
    split at h
    · rename_i colon front hdrop
      split at h
      · cases h
      · rename_i hok
        obtain ⟨rfl, rfl⟩ := Prod.mk.inj (Option.some.inj h)
        simp only [Bool.not_eq_true, Bool.or_eq_false_iff, Bool.not_eq_false', List.isEmpty_eq_false_iff,
          List.all_eq_true] at hok
        obtain ⟨⟨hpath, hdigits⟩, hare⟩ := hok
        exact ⟨split_at_last_colon hdrop, by simpa using hpath, hdigits, hare⟩
    · cases h
  · rintro ⟨rfl, hpath, hdigits, hare⟩
    have hcolon : ∀ d ∈ digits.reverse, (d != ':') = true := fun d hd =>
      ne_colon_of_isDigit (hare d (List.mem_reverse.1 hd))
    have hreverse : (path ++ ':' :: digits).reverse = digits.reverse ++ ':' :: path.reverse := by simp
    rw [hreverse, List.takeWhile_append_of_pos hcolon, List.dropWhile_append_of_pos hcolon,
      List.takeWhile_cons_of_neg (by simp), List.dropWhile_cons_of_neg (by simp), List.append_nil,
      List.reverse_reverse]
    dsimp only
    rw [if_neg, List.reverse_reverse]
    simpa [hpath, hdigits] using hare

/-! ## Reports -/

/-- A line that reports a hunk that failed, with its path and the digits of its line number. -/
def Located (line : List Char) (place : List Char × List Char) : Prop :=
  ∃ text, line = "error: patch failed: ".toList ++ text ∧ Place text place.1 place.2

/-- A line that reports a file that does not apply, with its path. -/
def Named (line path : List Char) : Prop :=
  path ≠ [] ∧
    ∃ words ∈ ["patch does not apply", "already exists in working directory", "No such file or directory"],
      line = "error: ".toList ++ path ++ ": ".toList ++ words.toList

theorem located?_eq_some_iff {place : List Char × List Char} : located? line = some place ↔ Located line place := by
  obtain ⟨path, digits⟩ := place
  simp only [located?, Option.bind_eq_some_iff, afterWords_eq_some_iff, splitLocation_eq_some_iff, Located]

theorem Located.unique {place place' : List Char × List Char} (h : Located line place) (h' : Located line place') :
    place = place' :=
  Option.some.inj ((located?_eq_some_iff.2 h).symm.trans (located?_eq_some_iff.2 h'))

/-- The report of a place is read as that place, whatever the path holds. -/
theorem located_report {path : String} (hpath : path ≠ "") (hne : digits ≠ [])
    (hdigits : ∀ d ∈ digits, isDigit d = true) :
    Located ("error: patch failed: " ++ path ++ ":" ++ String.ofList digits).toList (path.toList, digits) := by
  refine ⟨path.toList ++ ':' :: digits, ?_, rfl, ?_, hne, hdigits⟩
  · simp [String.toList_append]
  · simpa using hpath

theorem unbroken_report {path : String} (hpath : '\n' ∉ path.toList) (hdigits : ∀ d ∈ digits, isDigit d = true) :
    '\n' ∉ ("error: patch failed: " ++ path ++ ":" ++ String.ofList digits).toList := by
  have hunbroken : '\n' ∉ digits := fun hmem => absurd (hdigits _ hmem) (by decide)
  simp [String.toList_append, hpath, hunbroken]

/-- No complaint is the end of another, so that a line closes with one of them at most. -/
theorem complaint_unique {words words' : String} (hwords : words ∈ complaints) (hwords' : words' ∈ complaints)
    (h : rest ++ words.toList = path ++ words'.toList) : words = words' := by
  have hall : ∀ w ∈ complaints, ∀ w' ∈ complaints, w.toList <:+ w'.toList → w = w' := by decide
  have hend : words.toList <:+ path ++ words'.toList := h ▸ List.suffix_append _ _
  have hend' : words'.toList <:+ path ++ words'.toList := List.suffix_append _ _
  rcases Nat.le_total words.toList.length words'.toList.length with hle | hle
  · exact hall _ hwords _ hwords' (List.suffix_of_suffix_length_le hend hend' hle)
  · exact (hall _ hwords' _ hwords (List.suffix_of_suffix_length_le hend' hend hle)).symm

theorem complained_eq_some_iff :
    (complaints.findSome? fun words => (beforeWords words rest).bind nonEmpty) = some path ↔
      path ≠ [] ∧ ∃ words ∈ complaints, rest = path ++ words.toList := by
  have hone {words : String} {path : List Char} :
      (beforeWords words rest).bind nonEmpty = some path ↔ rest = path ++ words.toList ∧ path ≠ [] := by
    simp only [Option.bind_eq_some_iff, beforeWords_eq_some_iff, nonEmpty_eq_some_iff]
    constructor
    · rintro ⟨_, hrest, rfl, hne⟩
      exact ⟨hrest, hne⟩
    · rintro ⟨hrest, hne⟩
      exact ⟨_, hrest, rfl, hne⟩
  constructor
  · intro h
    obtain ⟨words, hwords, hpath⟩ := List.exists_of_findSome?_eq_some h
    obtain ⟨hrest, hne⟩ := hone.1 hpath
    exact ⟨hne, words, hwords, hrest⟩
  · rintro ⟨hne, words, hwords, hrest⟩
    cases hfound : complaints.findSome? fun words => (beforeWords words rest).bind nonEmpty with
    | none =>
      have hnone := List.findSome?_eq_none_iff.1 hfound words hwords
      rw [hone.2 ⟨hrest, hne⟩] at hnone
      cases hnone
    | some path' =>
      obtain ⟨words', hwords', hpath'⟩ := List.exists_of_findSome?_eq_some hfound
      obtain ⟨hrest', -⟩ := hone.1 hpath'
      obtain rfl := complaint_unique hwords' hwords (hrest'.symm.trans hrest)
      rw [List.append_cancel_right (hrest'.symm.trans hrest)]

theorem named_iff_complaint :
    Named line path ↔ path ≠ [] ∧ ∃ words ∈ complaints, line = "error: ".toList ++ (path ++ words.toList) := by
  simp [Named, complaints]

theorem named?_eq_some_iff : named? line = some path ↔ Named line path := by
  simp only [named?, Option.bind_eq_some_iff, afterWords_eq_some_iff, complained_eq_some_iff, named_iff_complaint]
  constructor
  · rintro ⟨rest, rfl, hne, words, hwords, rfl⟩
    exact ⟨hne, words, hwords, rfl⟩
  · rintro ⟨hne, words, hwords, hline⟩
    exact ⟨_, hline, hne, words, hwords, rfl⟩

/-- A report with a place ends in a digit and one without in a letter, so that no line is both. -/
theorem Located.not_named {place : List Char × List Char} (h : Located line place) : ¬ Named line path := by
  intro hnamed
  obtain ⟨-, words, hwords, hline⟩ := named_iff_complaint.1 hnamed
  obtain ⟨text, rfl, hplace⟩ := h
  have hlast := List.getLast?_eq_some_getLast hplace.digits_ne_nil
  have hdigit := hplace.digits_are _ (List.getLast_mem hplace.digits_ne_nil)
  have hletter : ∀ words ∈ complaints, words.toList.getLast? = some 'y' := by decide
  have hsame := congrArg List.getLast? hline
  rw [hplace.split, List.getLast?_append, List.getLast?_append, List.getLast?_cons, hlast, List.getLast?_append,
    List.getLast?_append, hletter words hwords] at hsame
  rw [show place.2.getLast hplace.digits_ne_nil = 'y' from Option.some.inj hsame] at hdigit
  exact absurd hdigit (by decide)

/-! ## The first report -/

/-- What the first of some lines that has a form reports. -/
def First {α : Type} (form : List Char → α → Prop) (lines : List (List Char)) (report : α) : Prop :=
  ∃ before line after, lines = before ++ line :: after ∧ form line report ∧
    ∀ earlier ∈ before, ∀ other, ¬ form earlier other

section First

variable {α : Type} {read : List Char → Option α} {form : List Char → α → Prop} {lines : List (List Char)}

theorem eq_none_iff_of_eq_some_iff (hread : ∀ line report, read line = some report ↔ form line report)
    (line : List Char) : read line = none ↔ ∀ report, ¬ form line report := by
  rw [Option.eq_none_iff_forall_ne_some]
  exact forall_congr' fun report => not_congr (hread line report)

theorem findSome?_eq_some_iff_first (hread : ∀ line report, read line = some report ↔ form line report) {report : α} :
    lines.findSome? read = some report ↔ First form lines report := by
  simp only [List.findSome?_eq_some_iff, hread, eq_none_iff_of_eq_some_iff hread, First]

theorem findSome?_eq_none_iff_none (hread : ∀ line report, read line = some report ↔ form line report) :
    lines.findSome? read = none ↔ ∀ line ∈ lines, ∀ report, ¬ form line report := by
  simp only [List.findSome?_eq_none_iff, eq_none_iff_of_eq_some_iff hread]

theorem exists_first (hread : ∀ line report, read line = some report ↔ form line report)
    (h : ∃ line ∈ lines, ∃ report, form line report) : ∃ report, First form lines report := by
  obtain ⟨line, hline, report, hreport⟩ := h
  cases hfound : lines.findSome? read with
  | none => exact absurd hreport ((findSome?_eq_none_iff_none hread).1 hfound line hline report)
  | some first => exact ⟨first, (findSome?_eq_some_iff_first hread).1 hfound⟩

theorem First.unique (hread : ∀ line report, read line = some report ↔ form line report) {report report' : α}
    (h : First form lines report) (h' : First form lines report') : report = report' :=
  Option.some.inj (((findSome?_eq_some_iff_first hread).2 h).symm.trans ((findSome?_eq_some_iff_first hread).2 h'))

end First

theorem find?_of_first_located {cs : List Char} (h : First Located (Text.lines cs) (path, digits)) :
    find? cs = some (.located path digits) := by
  unfold find?
  dsimp only
  rw [(findSome?_eq_some_iff_first fun _ _ => located?_eq_some_iff).2 h]

theorem find?_of_first_named {cs : List Char} (hnone : ∀ line ∈ Text.lines cs, ∀ place, ¬ Located line place)
    (h : First Named (Text.lines cs) path) : find? cs = some (.named path) := by
  unfold find?
  dsimp only
  rw [(findSome?_eq_none_iff_none fun _ _ => located?_eq_some_iff).2 hnone,
    (findSome?_eq_some_iff_first fun _ _ => named?_eq_some_iff).2 h]
  rfl

theorem find?_of_none {cs : List Char} (hnone : ∀ line ∈ Text.lines cs, ∀ place, ¬ Located line place)
    (hnone' : ∀ line ∈ Text.lines cs, ∀ path, ¬ Named line path) : find? cs = none := by
  unfold find?
  dsimp only
  rw [(findSome?_eq_none_iff_none fun _ _ => located?_eq_some_iff).2 hnone,
    (findSome?_eq_none_iff_none fun _ _ => named?_eq_some_iff).2 hnone']
  rfl

theorem First.digits_are {lines : List (List Char)} (h : First Located lines (path, digits)) :
    ∀ d ∈ digits, isDigit d = true := by
  obtain ⟨_, _, _, _, ⟨_, _, hplace⟩, _⟩ := h
  exact hplace.digits_are

end Conflict

end Transplant.Tree
