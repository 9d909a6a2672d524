import Mathlib.Data.List.Count
import Transplant.Change
import Transplant.Failure
import Transplant.Proofs.Text.Trim

/-!
# Reading authors

An identity is read by its only pair of angle brackets. The characters around them are found to be the ones that
the grammar names (`bracketed_iff_counts`, `Bracketed.unique`), so that reading and the grammar can be compared.

## Main statements

* `parse_iff_grammar`: which identities are read, as which author, and what is said of the others
* `text_round_trip`: which authors are read from their own texts; every author that was read is one of them
-/

namespace Transplant.Author

open Text (isBlank dropWhileEnd trimBy)

variable {s : String} {a : Author} {cs front name blanks email : List Char}

/-! ## Characters -/

theorem isPlain_iff {c : Char} : isPlain c = true ↔ c ≠ '<' ∧ c ≠ '>' := by
  simp [isPlain]

theorem isPlain_of_isBlank {c : Char} (hc : isBlank c = true) : isPlain c = true := by
  rw [isPlain_iff]
  constructor <;> rintro rfl <;> exact absurd hc (by decide)

/-- Whether none of some characters is an angle bracket. -/
def Plain (cs : List Char) : Prop :=
  ∀ c ∈ cs, isPlain c = true

instance (cs : List Char) : Decidable (Plain cs) :=
  decidable_of_iff (cs.all isPlain = true) List.all_eq_true

theorem plain_iff_counts : Plain cs ↔ cs.count '<' = 0 ∧ cs.count '>' = 0 := by
  simp only [Plain, isPlain_iff, List.count_eq_zero]
  exact ⟨fun h => ⟨fun hm => (h _ hm).1 rfl, fun hm => (h _ hm).2 rfl⟩,
    fun h c hc => ⟨fun heq => h.1 (heq ▸ hc), fun heq => h.2 (heq ▸ hc)⟩⟩

/-! ## Bracketed texts -/

/-- A text without angle brackets, and behind it an email address in angle brackets. -/
structure Bracketed (cs front email : List Char) : Prop where
  split : cs = front ++ '<' :: (email ++ ['>'])
  front_plain : Plain front
  email_plain : Plain email

namespace Bracketed

theorem takeWhile (h : Bracketed cs front email) : cs.takeWhile isPlain = front := by
  rw [h.split, List.takeWhile_append_of_pos h.front_plain, List.takeWhile_cons_of_neg (by decide),
    List.append_nil]

theorem dropWhile (h : Bracketed cs front email) : cs.dropWhile isPlain = '<' :: (email ++ ['>']) := by
  rw [h.split, List.dropWhile_append_of_pos h.front_plain, List.dropWhile_cons_of_neg (by decide)]

theorem takeWhile_email (h : Bracketed cs front email) : (email ++ ['>']).takeWhile isPlain = email := by
  rw [List.takeWhile_append_of_pos h.email_plain, List.takeWhile_cons_of_neg (by decide), List.append_nil]

theorem dropWhile_email (h : Bracketed cs front email) : (email ++ ['>']).dropWhile isPlain = ['>'] := by
  rw [List.dropWhile_append_of_pos h.email_plain, List.dropWhile_cons_of_neg (by decide)]

/-- The parts of a bracketed text are determined by it. -/
theorem unique {front' email' : List Char} (h : Bracketed cs front email) (h' : Bracketed cs front' email') :
    front = front' ∧ email = email' := by
  have hdrop : email ++ ['>'] = email' ++ ['>'] := (List.cons.inj (h.dropWhile.symm.trans h'.dropWhile)).2
  exact ⟨h.takeWhile.symm.trans h'.takeWhile, List.append_cancel_right hdrop⟩

end Bracketed

/-- The texts that are bracketed are those with one bracket of each kind and the closing one at the end. -/
theorem bracketed_iff_counts (cs : List Char) :
    (∃ front email, Bracketed cs front email) ↔
      cs.getLast? = some '>' ∧ cs.count '<' = 1 ∧ cs.count '>' = 1 := by
  constructor
  · rintro ⟨front, email, rfl, hfront, hemail⟩
    have hf := plain_iff_counts.1 hfront
    have he := plain_iff_counts.1 hemail
    refine ⟨?_, ?_, ?_⟩
    · exact List.getLast?_eq_some_iff.2 ⟨front ++ '<' :: email, by simp⟩
    · simp [List.count_append, hf.1, he.1]
    · simp [List.count_append, hf.2, he.2]
  · rintro ⟨hlast, hopen, hclose⟩
    obtain ⟨init, rfl⟩ := List.getLast?_eq_some_iff.1 hlast
    have hmem : '<' ∈ init := by
      by_contra hnot
      simp [List.count_append, List.count_eq_zero.2 hnot] at hopen
    obtain ⟨front, email, rfl⟩ := List.mem_iff_append.1 hmem
    simp only [List.count_append, List.count_cons, List.count_nil] at hopen hclose
    refine ⟨front, email, ⟨by simp, plain_iff_counts.2 ?_, plain_iff_counts.2 ?_⟩⟩
    · constructor <;> simp at hopen hclose <;> omega
    · constructor <;> simp at hopen hclose <;> omega

/-! ## Reading -/

theorem parse?_of_bracketed (h : Bracketed (trimBy isBlank s.toList) front email) :
    parse? s = some ⟨String.ofList (dropWhileEnd isBlank front), String.ofList email⟩ := by
  simp only [parse?, h.dropWhile, h.dropWhile_email, h.takeWhile, h.takeWhile_email, beq_self_eq_true, if_true]

theorem bracketed_of_parse? (h : parse? s = some a) :
    ∃ front, Bracketed (trimBy isBlank s.toList) front a.email.toList ∧
      a.name.toList = dropWhileEnd isBlank front := by
  simp only [parse?] at h
  split at h
  case h_1 rest hrest =>
    split at h
    case isTrue hclose =>
      obtain rfl := Option.some.inj h
      refine ⟨(trimBy isBlank s.toList).takeWhile isPlain, ⟨?_, ?_, ?_⟩, by simp⟩
      · rw [beq_iff_eq] at hclose
        rw [String.toList_ofList, ← hclose, List.takeWhile_append_dropWhile, ← hrest,
          List.takeWhile_append_dropWhile]
      · exact fun c hc => List.mem_takeWhile_imp hc
      · rw [String.toList_ofList]
        exact fun c hc => List.mem_takeWhile_imp hc
    case isFalse => cases h
  case h_2 => cases h

theorem exists_parse?_iff (s : String) :
    (∃ a, parse? s = some a) ↔ ∃ front email, Bracketed (trimBy isBlank s.toList) front email := by
  constructor
  · rintro ⟨a, ha⟩
    obtain ⟨front, hfront, -⟩ := bracketed_of_parse? ha
    exact ⟨front, _, hfront⟩
  · rintro ⟨front, email, h⟩
    exact ⟨_, parse?_of_bracketed h⟩

theorem parse_eq_ok : parse s = .ok a ↔ parse? s = some a := by
  unfold parse
  cases parse? s <;> simp

theorem parse_eq_error {why : Refusal} :
    parse s = .error why ↔ (∀ a, parse s ≠ .ok a) ∧ why = .malformedIdentity s := by
  unfold parse
  cases parse? s <;> simp [eq_comm]

/-- A text split into a name, blanks, and an email address in angle brackets. -/
structure Reading (cs name blanks email : List Char) : Prop where
  split : cs = name ++ blanks ++ '<' :: (email ++ ['>'])
  name_plain : Plain name
  blanks_blank : ∀ c ∈ blanks, isBlank c = true
  email_plain : Plain email

theorem Reading.bracketed (h : Reading cs name blanks email) : Bracketed cs (name ++ blanks) email where
  split := h.split
  front_plain := by
    intro c hc
    rcases List.mem_append.1 hc with hname | hblank
    · exact h.name_plain c hname
    · exact isPlain_of_isBlank (h.blanks_blank c hblank)
  email_plain := h.email_plain

theorem Bracketed.reading (h : Bracketed cs front email) :
    Reading cs (dropWhileEnd isBlank front) (front.rtakeWhile isBlank) email := by
  have hfront : dropWhileEnd isBlank front ++ front.rtakeWhile isBlank = front :=
    List.rdropWhile_append_rtakeWhile
  refine ⟨by rw [hfront, h.split], ?_, fun c hc => List.mem_rtakeWhile_imp hc, h.email_plain⟩
  intro c hc
  exact h.front_plain c (hfront ▸ List.mem_append_left _ hc)

theorem reading_of_parse? (h : parse? s = some a) :
    ∃ blanks, Reading (trimBy isBlank s.toList) a.name.toList blanks a.email.toList := by
  obtain ⟨front, hfront, hname⟩ := bracketed_of_parse? h
  rw [hname]
  exact ⟨_, hfront.reading⟩

/-- The name that is read is the shortest one among all the ways to split the identity. -/
theorem name_prefix_of_reading (ha : parse? s = some a)
    (h : Reading (trimBy isBlank s.toList) name blanks email) :
    a.name.toList <+: name ∧ a.email.toList = email := by
  obtain ⟨front, hfront, hname⟩ := bracketed_of_parse? ha
  obtain ⟨rfl, rfl⟩ := hfront.unique h.bracketed
  refine ⟨?_, rfl⟩
  rw [hname, Text.dropWhileEnd_append_of_pos h.blanks_blank]
  exact List.rdropWhile_prefix isBlank name

/-! ## Authors that can be read -/

/-- What the author of an identity is like: no brackets in it, and no blanks around the name. -/
structure Legible (a : Author) : Prop where
  name_plain : Plain a.name.toList
  name_head : ∀ c ∈ a.name.toList.head?, isBlank c = false
  name_last : ∀ c ∈ a.name.toList.getLast?, isBlank c = false
  email_plain : Plain a.email.toList

theorem legible_of_parse? (h : parse? s = some a) : a.Legible := by
  obtain ⟨front, hfront, hname⟩ := bracketed_of_parse? h
  have hstart : a.name.toList <+: front := hname ▸ List.rdropWhile_prefix isBlank front
  refine ⟨fun c hc => hfront.front_plain c (hstart.subset hc), ?_, ?_, hfront.email_plain⟩
  · intro c hc
    obtain ⟨rest, hrest⟩ := hstart
    refine (Text.trimmed_trimBy s.toList).head c ?_
    rw [hfront.split, ← hrest, List.append_assoc, List.head?_append, hc]
    rfl
  · intro c hc
    exact Text.last_dropWhileEnd (hname ▸ hc)

theorem toList_text (a : Author) :
    a.text.toList = (a.name.toList ++ [' ']) ++ '<' :: a.email.toList ++ ['>'] := by
  simp [text, String.toList_append]

/-- In front of the bracket, the text of an author has the name, and a space that is not kept without a name. -/
theorem bracketed_text (hname : Plain a.name.toList) (hemail : Plain a.email.toList) :
    Bracketed (trimBy isBlank a.text.toList) ((a.name.toList ++ [' ']).dropWhile isBlank) a.email.toList where
  split := by
    rw [toList_text, Text.trimBy_concat (by decide), Text.dropWhile_append_cons_of_neg (by decide), List.append_assoc,
      List.cons_append]
  front_plain := by
    intro c hc
    rcases List.mem_append.1 ((List.dropWhile_suffix isBlank).subset hc) with hfront | hspace
    · exact hname c hfront
    · rw [List.mem_singleton.1 hspace]
      decide
  email_plain := hemail

/-- Without brackets in its parts, the text of an author is read as the author with its name trimmed. -/
theorem parse?_text_of_plain (hname : Plain a.name.toList) (hemail : Plain a.email.toList) :
    parse? a.text = some ⟨Text.trim a.name, a.email⟩ := by
  have htrim : dropWhileEnd isBlank ((a.name.toList ++ [' ']).dropWhile isBlank) = trimBy isBlank a.name.toList :=
    Text.trimBy_append_of_pos (by simp; decide)
  rw [parse?_of_bracketed (bracketed_text hname hemail), htrim, String.ofList_toList]
  rfl

theorem trim_name_eq_self_iff :
    Text.trim a.name = a.name ↔
      (∀ c ∈ a.name.toList.head?, isBlank c = false) ∧ ∀ c ∈ a.name.toList.getLast?, isBlank c = false := by
  rw [← String.toList_inj, Text.toList_trim]
  exact Text.trimBy_eq_self_iff

theorem parse?_text (h : a.Legible) : parse? a.text = some a := by
  rw [parse?_text_of_plain h.name_plain h.email_plain, trim_name_eq_self_iff.2 ⟨h.name_head, h.name_last⟩]

theorem parse?_text_of_parse? (h : parse? s = some a) : parse? a.text = some a :=
  parse?_text (legible_of_parse? h)

/-- The text of an author has the brackets of its parts and two more, so that it is refused if those have any. -/
theorem plain_of_parse?_text {b : Author} (h : parse? a.text = some b) :
    Plain a.name.toList ∧ Plain a.email.toList := by
  obtain ⟨-, hopen, hclose⟩ := (bracketed_iff_counts _).1 ((exists_parse?_iff _).1 ⟨b, h⟩)
  rw [(Text.trimmed_trimBy _).count_eq (by decide), toList_text] at hopen hclose
  simp only [List.count_append, List.count_cons, List.count_nil] at hopen hclose
  constructor
  · refine plain_iff_counts.2 ⟨?_, ?_⟩ <;> simp at hopen hclose <;> omega
  · refine plain_iff_counts.2 ⟨?_, ?_⟩ <;> simp at hopen hclose <;> omega

theorem parse?_text_eq_some_iff {b : Author} :
    parse? a.text = some b ↔
      (Plain a.name.toList ∧ Plain a.email.toList) ∧ b = ⟨Text.trim a.name, a.email⟩ := by
  constructor
  · intro h
    obtain ⟨hname, hemail⟩ := plain_of_parse?_text h
    rw [parse?_text_of_plain hname hemail] at h
    exact ⟨⟨hname, hemail⟩, (Option.some.inj h).symm⟩
  · rintro ⟨⟨hname, hemail⟩, rfl⟩
    exact parse?_text_of_plain hname hemail

/-! ## The grammar -/

theorem bracketed_iff_text (t n e : String) :
    Bracketed t.toList n.toList e.toList ↔ t = n ++ "<" ++ e ++ ">" ∧ Plain n.toList ∧ Plain e.toList := by
  have hsplit : t = n ++ "<" ++ e ++ ">" ↔ t.toList = n.toList ++ '<' :: (e.toList ++ ['>']) := by
    simp [← String.toList_inj, String.toList_append]
  rw [hsplit]
  exact ⟨fun h => ⟨h.split, h.front_plain, h.email_plain⟩, fun ⟨h, hn, he⟩ => ⟨h, hn, he⟩⟩

theorem parse?_iff_text :
    parse? s = some a ↔
      ∃ n e : String, Text.trim s = n ++ "<" ++ e ++ ">" ∧ Plain n.toList ∧ Plain e.toList ∧
        a = ⟨Text.trimEnd n, e⟩ := by
  constructor
  · intro h
    obtain ⟨front, hfront, hname⟩ := bracketed_of_parse? h
    rw [← Text.toList_trim, ← String.toList_ofList (l := front)] at hfront
    obtain ⟨hsplit, hn, he⟩ := (bracketed_iff_text _ _ _).1 hfront
    have htrimmed : a.name = Text.trimEnd (String.ofList front) := by
      rw [Text.trimEnd, String.toList_ofList, ← hname, String.ofList_toList]
    exact ⟨_, _, hsplit, hn, he, by rw [← htrimmed]⟩
  · rintro ⟨n, e, hsplit, hn, he, rfl⟩
    have h := (bracketed_iff_text _ _ _).2 ⟨hsplit, hn, he⟩
    rw [Text.toList_trim] at h
    rw [parse?_of_bracketed h, String.ofList_toList]
    rfl

/-- An identity is read if and only if it ends, without the blanks around it, in a closing bracket and has one
bracket of each kind. The name is the text in front of the brackets up to its last character that is not blank, the
shortest that any split of the identity gives, and the email address is the text between the brackets. Any other
identity is refused and quoted. -/
theorem parse_iff_grammar (s : String) :
    Text.Trimmed s.toList (Text.trim s).toList ∧
    ((∃ a, parse s = .ok a) ↔
      (Text.trim s).toList.getLast? = some '>' ∧ (Text.trim s).toList.count '<' = 1 ∧
        (Text.trim s).toList.count '>' = 1) ∧
    (∀ a, parse s = .ok a ↔
      ∃ n e : String, Text.trim s = n ++ "<" ++ e ++ ">" ∧ Plain n.toList ∧ Plain e.toList ∧
        a = ⟨Text.trimEnd n, e⟩) ∧
    (∀ a, parse s = .ok a →
      (∃ blanks, Reading (Text.trim s).toList a.name.toList blanks a.email.toList) ∧
        ∀ name blanks email, Reading (Text.trim s).toList name blanks email →
          a.name.toList <+: name ∧ a.email.toList = email) ∧
    ((∀ a, parse s ≠ .ok a) →
      ∃ why, parse s = .error why ∧ (Failure.refused why).kind = .value ∧
        (Failure.refused why).message =
          "Author must be in the form \"Name <email>\": " ++ Text.quoted s) := by
  refine ⟨Text.trimmed_trim s, ?_⟩
  simp only [parse_eq_ok, Text.toList_trim]
  refine ⟨?_, fun a => parse?_iff_text, fun a h => ⟨reading_of_parse? h, ?_⟩, fun h => ?_⟩
  · rw [exists_parse?_iff, bracketed_iff_counts]
  · exact fun name blanks email => name_prefix_of_reading h
  · exact ⟨_, parse_eq_error.2 ⟨h, rfl⟩, rfl, rfl⟩

/-- An identity with blanks of several kinds around its parts, and one with too many brackets. -/
theorem parse_padded_identity :
    parse "\x0bAda \t<a@b>\n" = .ok ⟨"Ada", "a@b"⟩ ∧ ∀ a, parse "A <a> <b>" ≠ .ok a := by
  have hsplit : Text.trim "\x0bAda \t<a@b>\n" = "Ada \t" ++ "<" ++ "a@b" ++ ">" := by
    rw [← String.toList_inj, Text.toList_trim]
    rfl
  obtain ⟨-, -, hread, -⟩ := parse_iff_grammar "\x0bAda \t<a@b>\n"
  refine ⟨(hread _).2 ⟨"Ada \t", "a@b", hsplit, by decide, by decide, rfl⟩, fun a ha => ?_⟩
  have h := (parse_iff_grammar "A <a> <b>").2.1.1 ⟨a, ha⟩
  rw [Text.toList_trim] at h
  exact absurd h (by decide)

/-! ## Round trip -/

/-- The text of an author is read if and only if neither its name nor its email address has an angle bracket, and as
that author if and only if no blank stands around the name. So reading the text of an author that was read gives it
back, and authors that were read are told apart by their texts. -/
theorem text_round_trip (a : Author) :
    ((∃ b, parse a.text = .ok b) ↔ ∀ c ∈ a.name.toList ++ a.email.toList, c ≠ '<' ∧ c ≠ '>') ∧
    (∀ b, parse a.text = .ok b →
      b = ⟨Text.trim a.name, a.email⟩ ∧
        (b = a ↔ (∀ c ∈ a.name.toList.head?, isBlank c = false) ∧ ∀ c ∈ a.name.toList.getLast?, isBlank c = false)) ∧
    (∀ s b, parse s = .ok b → parse b.text = .ok b) ∧
    (∀ s t b c, parse s = .ok b → parse t = .ok c → b.text = c.text → b = c) := by
  simp only [parse_eq_ok]
  refine ⟨?_, fun b h => ?_, fun s b h => parse?_text_of_parse? h, fun s t b c hb hc htext => ?_⟩
  · have hplain : (Plain a.name.toList ∧ Plain a.email.toList) ↔
        ∀ c ∈ a.name.toList ++ a.email.toList, c ≠ '<' ∧ c ≠ '>' := by
      simp only [Plain, isPlain_iff, List.forall_mem_append]
    simp only [parse?_text_eq_some_iff, exists_and_left, exists_eq, and_true, hplain]
  · obtain ⟨-, rfl⟩ := parse?_text_eq_some_iff.1 h
    refine ⟨rfl, ?_⟩
    rw [← trim_name_eq_self_iff]
    exact ⟨congrArg Author.name, fun hname => by rw [hname]⟩
  · have hread := parse?_text_of_parse? hb
    rw [htext, parse?_text_of_parse? hc] at hread
    exact (Option.some.inj hread).symm

/-- An author without a name and with a blank in its email address, one with a padded name, and two identities that are
read as the same author. -/
theorem text_round_trip_nameless :
    parse (text ⟨"", "a b"⟩) = .ok ⟨"", "a b"⟩ ∧ parse (text ⟨" A", "e"⟩) ≠ .ok ⟨" A", "e"⟩ ∧
      parse "A  <e>" = .ok ⟨"A", "e"⟩ ∧ parse (text ⟨"A", "e"⟩) = .ok ⟨"A", "e"⟩ := by
  refine ⟨?_, fun h => ?_, by decide, (text_round_trip ⟨"A", "e"⟩).2.2.1 "A  <e>" _ (by decide)⟩
  · obtain ⟨b, hb⟩ := (text_round_trip ⟨"", "a b"⟩).1.2 (by simp)
    obtain ⟨-, hself⟩ := (text_round_trip ⟨"", "a b"⟩).2.1 b hb
    rwa [hself.2 (by simp)] at hb
  · obtain ⟨-, hself⟩ := (text_round_trip ⟨" A", "e"⟩).2.1 _ h
    exact absurd ((hself.1 rfl).1 ' ' rfl) (by decide)

end Transplant.Author
