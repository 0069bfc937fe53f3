import Manuscript.Bibliography.Date
import Manuscript.Proofs.Bibliography.Key

/-!
# What the text of a date tells

A date is printed as a few words with spaces between them, and the words tell the date
(`Date.words_injective`). A span of two dates is two such groups of words with a dash between them;
the first group leaves out the year if both dates share it, and so may read as a month of one of the
first 31 years. Apart from these years, spans are printed alike just when they come to the same one
or two dates (`Date.text_unambiguous`).
-/

namespace Manuscript

open Markup

/-! ### Words -/

/-- An integer is told by its sign and its digits. -/
theorem toString_int_injective {m n : Int} (h : toString m = toString n) : m = n := by
  have apart (m n : Nat) : toString (Int.ofNat m) ≠ toString (Int.negSucc n) := by
    intro he
    have sign : '-' ∈ (toString m).toList := by
      change toString m = "-" ++ toString (n + 1) at he
      rw [he, String.toList_append]
      exact List.mem_append_left _ List.mem_cons_self
    exact absurd (isDigit_of_mem_toString sign) (by decide)
  cases m with
  | ofNat m =>
    cases n with
    | ofNat n => exact congrArg Int.ofNat (toString_injective h)
    | negSucc n => exact absurd h (apart m n)
  | negSucc m =>
    cases n with
    | ofNat n => exact absurd h.symm (apart n m)
    | negSucc n =>
      have digits : toString (m + 1) = toString (n + 1) := (String.append_right_inj "-").mp h
      exact congrArg Int.negSucc (Nat.succ.inj (toString_injective digits))

/-- A word is made of characters of names and commas. -/
def IsWord (word : String) : Prop := ∀ c ∈ word.toList, isNameChar c = true ∨ c = ','

theorem isWord_of_isNameChar {word : String} (h : ∀ c ∈ word.toList, isNameChar c = true) :
    IsWord word := fun c hc ↦ .inl (h c hc)

theorem IsWord.append {front back : String} (hf : IsWord front) (hb : IsWord back) :
    IsWord (front ++ back) := by
  intro c hc
  rw [String.toList_append, List.mem_append] at hc
  exact hc.elim (hf c) (hb c)

theorem isWord_comma : IsWord "," := by
  intro c hc
  exact .inr (List.mem_singleton.mp hc)

theorem isWord_nat (n : Nat) : IsWord (toString n) :=
  isWord_of_isNameChar fun _ ↦ isNameChar_of_mem_toString

theorem isWord_int (n : Int) : IsWord (toString n) :=
  isWord_of_isNameChar fun _ ↦ isNameChar_of_mem_toString_int

/-- Whether there is a letter in a word. -/
def hasLetter (word : String) : Bool := word.toList.any Char.isAlpha

theorem hasLetter_append (front back : String) :
    hasLetter (front ++ back) = (hasLetter front || hasLetter back) := by
  rw [hasLetter, String.toList_append, List.any_append]
  rfl

theorem isAlpha_of_isDigit {c : Char} (h : c.isDigit = true) : c.isAlpha = false := by
  unfold Char.isDigit at h
  unfold Char.isAlpha Char.isUpper Char.isLower
  grind

theorem hasLetter_nat (n : Nat) : hasLetter (toString n) = false := by
  rw [hasLetter, List.any_eq_false]
  exact fun c hc ↦ Bool.eq_false_iff.mp (isAlpha_of_isDigit (isDigit_of_mem_toString hc))

theorem hasLetter_int (n : Int) : hasLetter (toString n) = false := by
  cases n with
  | ofNat n => exact hasLetter_nat n
  | negSucc n =>
    change hasLetter ("-" ++ toString (n + 1)) = false
    rw [hasLetter_append, hasLetter_nat]
    rfl

/-- Words with spaces between them. -/
def sentence (words : List String) : String := " ".intercalate words

theorem toList_sentence (words : List String) :
    (sentence words).toList = [' '].intercalate (words.map String.toList) :=
  String.toList_intercalate

/-- A sentence tells its words. -/
theorem sentence_inj {words words' : List String} (hw : ∀ word ∈ words, IsWord word)
    (hw' : ∀ word ∈ words', IsWord word) (hn : words ≠ []) (hn' : words' ≠ [])
    (h : sentence words = sentence words') : words = words' := by
  have read {words : List String} (hw : ∀ word ∈ words, IsWord word) (hn : words ≠ []) :
      (sentence words).toList.splitOn ' ' = words.map String.toList := by
    rw [toList_sentence]
    refine List.splitOn_intercalate ' ' ?_ (by simpa using hn)
    simp only [List.forall_mem_map]
    exact fun word hm hs ↦ absurd (hw word hm _ hs) (by decide)
  have lists : words.map String.toList = words'.map String.toList := by
    rw [← read hw hn, h, read hw' hn']
  exact List.map_injective_iff.mpr (fun _ _ ↦ String.toList_inj.mp) lists

theorem dash_not_mem_sentence {words : List String} (hw : ∀ word ∈ words, IsWord word) :
    '\u2013' ∉ (sentence words).toList := by
  rw [toList_sentence]
  induction words with
  | nil => exact List.not_mem_nil
  | cons word rest ih =>
    rw [List.forall_mem_cons] at hw
    have first : '\u2013' ∉ word.toList := fun hs ↦ absurd (hw.1 _ hs) (by decide)
    cases rest with
    | nil => rwa [List.map_singleton, List.intercalate_singleton]
    | cons second rest =>
      rw [List.map_cons, List.map_cons, List.intercalate_cons_cons, List.mem_append,
        List.mem_append]
      exact not_or.mpr ⟨not_or.mpr ⟨first, by decide⟩, ih hw.2⟩

/-! ### Months -/

namespace Month

theorem mem_all (month : Month) : month ∈ all := by cases month <;> decide

theorem name_injective {m n : Month} (h : m.name = n.name) : m = n :=
  List.inj_on_of_nodup_map (f := name) (by decide) (mem_all m) (mem_all n) h

theorem isWord_name (month : Month) : IsWord month.name :=
  isWord_of_isNameChar (by cases month <;> decide)

theorem hasLetter_name (month : Month) : hasLetter month.name = true := by
  cases month <;> decide

/-- No month is named like a quarter. -/
theorem name_ne_quarter (month : Month) (number : String) : month.name ≠ "Q" ++ number := by
  have absent : 'Q' ∉ month.name.toList := by cases month <;> decide
  intro h
  rw [h, String.toList_append] at absent
  exact absent (List.mem_append_left _ List.mem_cons_self)

theorem days_le (month : Month) (year : Int) : month.days year ≤ 31 := by
  unfold days
  split
  · split <;> decide
  all_goals decide

end Month

/-! ### Parts -/

namespace DatePart

variable {part part' : DatePart}

/-- The words of a part. -/
def words : DatePart → List String
  | year => []
  | quarter q => ["Q" ++ toString q]
  | month m => [m.name]
  | day m d => [m.name, toString d]

theorem text_eq (part : DatePart) : part.text = sentence part.words := by cases part <;> rfl

theorem isWord_of_mem_words : ∀ word ∈ part.words, IsWord word := by
  cases part with
  | year => exact List.forall_mem_nil _
  | quarter q =>
    rw [words, List.forall_mem_singleton]
    exact .append (isWord_of_isNameChar (by decide)) (isWord_nat q)
  | month m =>
    rw [words, List.forall_mem_singleton]
    exact m.isWord_name
  | day m d =>
    rw [words, List.forall_mem_cons, List.forall_mem_singleton]
    exact ⟨m.isWord_name, isWord_nat d⟩

theorem words_ne_nil (h : part ≠ .year) : part.words ≠ [] := by
  cases part <;> simp_all [words]

/-- A part begins with a letter. -/
theorem hasLetter_head (word : String) (rest : List String) (h : part.words = word :: rest) :
    hasLetter word = true := by
  cases part with
  | year => cases h
  | quarter q =>
    cases h
    rw [hasLetter_append]
    rfl
  | month m | day m =>
    cases h
    exact m.hasLetter_name

/-- The words of a part tell the part. -/
theorem words_injective (h : part.words = part'.words) : part = part' := by
  have apart := Month.name_ne_quarter
  cases part <;> cases part' <;> simp only [words, List.cons.injEq, reduceCtorEq, and_true,
    and_false, String.append_right_inj] at h
  case year.year => rfl
  case quarter.quarter => rw [toString_injective h]
  case quarter.month m => exact absurd h.symm (apart m _)
  case month.quarter m _ => exact absurd h (apart m _)
  case month.month => rw [Month.name_injective h]
  case day.day => rw [Month.name_injective h.1, toString_injective h.2]

/-- Whether a part is the year as a whole, or the month of a day. -/
def includes : DatePart → DatePart → Bool
  | year, _ => true
  | month m, day n _ => m = n
  | _, _ => false

/-- The later of two days of one month. -/
def sharedDay? : DatePart → DatePart → Option Nat
  | day m _, day n e => if m = n then some e else none
  | _, _ => none

theorem sharedDay?_eq_some_iff {e : Nat} :
    part.sharedDay? part' = some e ↔ ∃ m d, part = day m d ∧ part' = day m e := by
  cases part <;> cases part' <;> simp [sharedDay?]
  grind

end DatePart

namespace Date

variable {date first last first' last' : Date}

/-! ### One date -/

/-- The words of a date. -/
def words (date : Date) : List String :=
  match date.part with
  | .day m d => [m.name, toString d ++ ",", toString date.year]
  | part => part.words ++ [toString date.year]

theorem exactText_eq (date : Date) : date.exactText = sentence date.words := by
  obtain ⟨year, part⟩ := date
  rw [← String.toList_inj, toList_sentence]
  cases part <;> simp [exactText, DatePart.text, yearText, DatePart.isDay, words, DatePart.words]

theorem isWord_of_mem_words : ∀ word ∈ date.words, IsWord word := by
  obtain ⟨year, part⟩ := date
  have shown : ∀ word ∈ part.words ++ [toString year], IsWord word :=
    List.forall_mem_append.mpr ⟨DatePart.isWord_of_mem_words,
      List.forall_mem_singleton.mpr (isWord_int year)⟩
  cases part with
  | year | quarter | month => exact shown
  | day m d =>
    rw [words, List.forall_mem_cons, List.forall_mem_cons, List.forall_mem_singleton]
    exact ⟨m.isWord_name, .append (isWord_nat d) isWord_comma, isWord_int year⟩

theorem words_ne_nil (date : Date) : date.words ≠ [] := by
  obtain ⟨year, part⟩ := date
  cases part <;> simp [words]

/-- The words of a date tell the date. -/
theorem words_injective {a b : Date} (h : a.words = b.words) : a = b := by
  have apart := Month.name_ne_quarter
  obtain ⟨y, part⟩ := a
  obtain ⟨y', part'⟩ := b
  cases part <;> cases part' <;> simp only [words, DatePart.words, List.nil_append,
    List.cons_append, List.cons.injEq, reduceCtorEq, and_true, and_false, String.append_right_inj,
    String.append_left_inj] at h
  case year.year => rw [toString_int_injective h]
  case quarter.quarter => rw [toString_injective h.1, toString_int_injective h.2]
  case quarter.month m => exact absurd h.1.symm (apart m _)
  case month.quarter m _ => exact absurd h.1 (apart m _)
  case month.month => rw [Month.name_injective h.1, toString_int_injective h.2]
  case day.day =>
    rw [Month.name_injective h.1, toString_injective h.2.1, toString_int_injective h.2.2]

theorem exactText_inj {a b : Date} : a.exactText = b.exactText ↔ a = b := by
  constructor
  · intro h
    rw [exactText_eq, exactText_eq] at h
    exact words_injective (sentence_inj isWord_of_mem_words isWord_of_mem_words a.words_ne_nil
      b.words_ne_nil h)
  · exact congrArg exactText

theorem coarsened_of_isValid (h : date.isValid = true) : date.coarsened = date := if_pos h

theorem isValid_coarsened (date : Date) : date.coarsened.isValid = true := by
  unfold coarsened
  split
  · assumption
  · split <;> rfl

theorem year_coarsened (date : Date) : date.coarsened.year = date.year := by
  unfold coarsened
  split
  · rfl
  · split <;> rfl

/-- A day that there is has one of the first 31 numbers. -/
theorem day_le (h : date.isValid = true) {m : Month} {d : Nat} (hp : date.part = .day m d) :
    1 ≤ d ∧ d ≤ 31 := by
  rw [isValid, hp] at h
  simp only [Bool.and_eq_true, decide_eq_true_eq] at h
  exact ⟨h.1, Nat.le_trans h.2 (m.days_le date.year)⟩

/-! ### Two dates -/

/-- Whether the date is the year of another, or the month of another that is a day. -/
def includes (whole date : Date) : Bool :=
  whole.year = date.year && whole.part.includes date.part

/-- The one or two dates that a span comes to. Of two dates of which one includes the other the more
precise one remains. -/
def spanForm (first : Date) (last : Option Date) : Date × Option Date :=
  let first := first.coarsened
  match last.map coarsened with
  | none => (first, none)
  | some last =>
    if first = last ∨ last.includes first then (first, none)
    else if first.includes last then (last, none)
    else (first, some last)

/-- The words in front of the dash: without the year, if both dates share it. -/
def front (first last : Date) : List String :=
  if first.year = last.year then first.part.words else first.words

/-- The words behind the dash: without the month, if both dates are days of one month. -/
def back (first last : Date) : List String :=
  match if first.year = last.year then first.part.sharedDay? last.part else none with
  | some e => [toString e ++ ",", toString last.year]
  | none => last.words

/-- The text of what a span comes to. -/
def formText : Date × Option Date → String
  | (date, none) => sentence date.words
  | (first, some last) => sentence (front first last) ++ dash ++ sentence (back first last)

theorem formText_one (date : Date) : formText (date, none) = date.exactText :=
  (exactText_eq date).symm

theorem formText_of_sharedDay {year : Int} {m : Month} {d e : Nat} :
    formText (⟨year, .day m d⟩, some ⟨year, .day m e⟩) =
      m.name ++ " " ++ toString d ++ dash ++ toString e ++ yearText (.day m e) year := by
  rw [← String.toList_inj]
  simp [formText, front, back, DatePart.words, DatePart.sharedDay?, toList_sentence, yearText,
    DatePart.isDay]

theorem formText_of_sharedYear {year : Int} {part part' : DatePart} (hp : part' ≠ .year)
    (hs : part.sharedDay? part' = none) : formText (⟨year, part⟩, some ⟨year, part'⟩) =
      part.text ++ dash ++ part'.text ++ yearText part' year := by
  have whole : exactText ⟨year, part'⟩ = part'.text ++ yearText part' year := by
    cases part' <;> first | rfl | contradiction
  rw [formText, front, back, if_pos rfl, if_pos rfl, hs, ← DatePart.text_eq, ← exactText_eq, whole]
  exact String.append_assoc.symm

/-- Two dates of one year are printed as what they come to. -/
theorem formText_eq_sharedYearText (year : Int) {part part' : DatePart} (h : part ≠ part') :
    formText
      (if part'.includes part then (⟨year, part⟩, none)
      else if part.includes part' then (⟨year, part'⟩, none)
      else (⟨year, part⟩, some ⟨year, part'⟩)) = sharedYearText year part part' := by
  cases part <;> cases part' <;> simp only [sharedYearText, DatePart.includes, Bool.false_eq_true,
    if_false, if_true, decide_eq_true_eq]
  case year.year => exact absurd rfl h
  case year.quarter | year.month | year.day | quarter.year | month.year | day.year =>
    exact formText_one _
  case quarter.quarter | quarter.month | quarter.day | month.quarter | month.month | day.quarter =>
    exact formText_of_sharedYear nofun rfl
  case month.day m n e =>
    by_cases hm : m = n
    · rw [if_pos hm, if_pos hm, formText_one]
    · rw [if_neg hm, if_neg hm]
      exact formText_of_sharedYear nofun rfl
  case day.month m d n =>
    by_cases hm : m = n
    · rw [if_pos hm, if_pos hm.symm, formText_one]
    · rw [if_neg hm, if_neg fun he ↦ hm he.symm]
      exact formText_of_sharedYear nofun rfl
  case day.day m d n e =>
    by_cases hm : m = n
    · rw [if_pos hm, hm, formText_of_sharedDay]
    · rw [if_neg hm]
      exact formText_of_sharedYear nofun (if_neg hm)

/-- A span is printed as what it comes to. -/
theorem spanText_eq (first : Date) (last : Option Date) :
    first.spanText last = formText (spanForm first last) := by
  unfold spanText spanForm
  dsimp only
  cases last.map coarsened with
  | none => exact (formText_one _).symm
  | some last =>
    dsimp only
    generalize first.coarsened = first
    by_cases same : first = last
    · rw [if_pos same, if_pos (.inl same), formText_one]
    · rw [if_neg same]
      by_cases hy : first.year = last.year
      · obtain ⟨year, part⟩ := first
        obtain ⟨year', part'⟩ := last
        obtain rfl : year = year' := hy
        rw [if_pos rfl, ← formText_eq_sharedYearText year fun he ↦ same (congrArg _ he)]
        simp [includes, same]
      · have hy' : ¬last.year = first.year := fun he ↦ hy he.symm
        simp [includes, same, hy, hy', formText, front, back, exactText_eq]

/-! ### Telling spans apart -/

/-- Neither of two dates includes the other. -/
structure Apart (first last : Date) : Prop where
  left : first.includes last = false
  right : last.includes first = false

/-- Of two dates of one year that are apart each is more than the year. -/
theorem Apart.part_ne_year (h : Apart first last) (hy : first.year = last.year) :
    first.part ≠ .year ∧ last.part ≠ .year := by
  obtain ⟨hf, hl⟩ := h
  constructor
  · intro hp
    simp [includes, hy, hp, DatePart.includes] at hf
  · intro hp
    simp [includes, hy, hp, DatePart.includes] at hl

/-- What a span of two dates comes to. -/
theorem apart_of_spanForm {last : Option Date} {date date' : Date}
    (h : spanForm first last = (date, some date')) :
    date = first.coarsened ∧ Apart date date' := by
  unfold spanForm at h
  dsimp only at h
  cases hl : last.map coarsened with
  | none => simp [hl] at h
  | some last =>
    simp only [hl] at h
    split at h
    · cases h
    · next hf =>
      split at h
      · cases h
      · next hl =>
        cases h
        exact ⟨rfl, Bool.eq_false_iff.mpr hl, Bool.eq_false_iff.mpr fun he ↦ hf (.inr he)⟩

/-- The words of a date with its year are not those of a part, unless the part is a day that has the
number of the year. -/
theorem words_ne_words {part : DatePart} (hp : part ≠ .year)
    (hd : ∀ m d, part = .day m d → date.year ≠ d) : date.words ≠ part.words := by
  intro h
  obtain ⟨year, whole⟩ := date
  cases whole with
  | year =>
    have letter := DatePart.hasLetter_head _ _ h.symm
    rw [hasLetter_int] at letter
    cases letter
  | quarter q =>
    cases part <;> simp only [words, DatePart.words, List.cons_append, List.nil_append,
      List.cons.injEq, reduceCtorEq, and_false] at h
    case day m d => exact Month.name_ne_quarter m _ h.1.symm
  | month n =>
    cases part <;> simp only [words, DatePart.words, List.cons_append, List.nil_append,
      List.cons.injEq, reduceCtorEq, and_false] at h
    case day m d => exact hd m d rfl (toString_int_injective (n := d) h.2.1)
  | day n e => cases part <;> simp [words, DatePart.words] at h

theorem isWord_of_mem_front : ∀ word ∈ front first last, IsWord word := by
  unfold front
  split
  · exact DatePart.isWord_of_mem_words
  · exact isWord_of_mem_words

theorem isWord_of_mem_back : ∀ word ∈ back first last, IsWord word := by
  unfold back
  split
  · rw [List.forall_mem_cons, List.forall_mem_singleton]
    exact ⟨.append (isWord_nat _) isWord_comma, isWord_int _⟩
  · exact isWord_of_mem_words

theorem front_ne_nil (h : Apart first last) : front first last ≠ [] := by
  unfold front
  split
  · next hy => exact DatePart.words_ne_nil (h.part_ne_year hy).1
  · exact words_ne_nil first

theorem back_ne_nil (first last : Date) : back first last ≠ [] := by
  unfold back
  split
  · exact List.cons_ne_nil _ _
  · exact words_ne_nil last

/-- A text with a dash tells the words in front of it and behind it. -/
theorem front_back_of_formText (ha : Apart first last) (ha' : Apart first' last')
    (h : formText (first, some last) = formText (first', some last')) :
    front first last = front first' last' ∧ back first last = back first' last' := by
  have chars (first last : Date) : (formText (first, some last)).toList =
      (sentence (front first last)).toList ++ '\u2013' :: (sentence (back first last)).toList := by
    rw [formText, String.toList_append, String.toList_append, List.append_assoc]
    rfl
  have lists := congrArg String.toList h
  rw [chars, chars] at lists
  obtain ⟨hf, hb⟩ := append_cons_inj lists (dash_not_mem_sentence isWord_of_mem_front)
    (dash_not_mem_sentence isWord_of_mem_front)
  exact ⟨sentence_inj isWord_of_mem_front isWord_of_mem_front (front_ne_nil ha) (front_ne_nil ha')
      (String.toList_inj.mp hf),
    sentence_inj isWord_of_mem_back isWord_of_mem_back (back_ne_nil _ _) (back_ne_nil _ _)
      (String.toList_inj.mp hb)⟩

/-- A date that is more than a year begins with a letter. -/
theorem hasLetter_head {word : String} {rest : List String} (hp : date.part ≠ .year)
    (h : date.words = word :: rest) : hasLetter word = true := by
  obtain ⟨year, part⟩ := date
  cases part with
  | year => contradiction
  | quarter q => exact (DatePart.quarter q).hasLetter_head word [] (by cases h; rfl)
  | month m | day m =>
    cases h
    exact m.hasLetter_name

/-- The later of two days of one month is told from a date with a part. -/
theorem shared_ne_words (hp : date.part ≠ .year) (e : Nat) (year : Int) :
    [toString e ++ ",", toString year] ≠ date.words := by
  intro h
  have letter := hasLetter_head hp h.symm
  rw [hasLetter_append, hasLetter_nat] at letter
  cases letter

/-- Whether two dates share their year is told by the words in front of the dash. -/
theorem front_ne_front (hv : first.isValid = true) (hy' : ¬(1 ≤ first'.year ∧ first'.year ≤ 31))
    (ha : Apart first last) (shared : first.year = last.year) (own : first'.year ≠ last'.year) :
    front first last ≠ front first' last' := by
  rw [front, front, if_pos shared, if_neg own]
  refine (words_ne_words (ha.part_ne_year shared).1 fun m d hp he ↦ hy' ?_).symm
  have bounds := day_le hv hp
  omega

/-- Dates of one year are told by their words. -/
theorem eq_of_shared (ha : Apart first last) (ha' : Apart first' last')
    (shared : first.year = last.year) (shared' : first'.year = last'.year)
    (hf : front first last = front first' last') (hb : back first last = back first' last') :
    first = first' ∧ last = last' := by
  rw [front, front, if_pos shared, if_pos shared'] at hf
  rw [back, back, if_pos shared, if_pos shared'] at hb
  have parts := DatePart.words_injective hf
  suffices whole : last = last' from
    ⟨congrArg₂ mk (shared.trans ((congrArg year whole).trans shared'.symm)) parts, whole⟩
  cases hs : first.part.sharedDay? last.part with
  | none =>
    cases hs' : first'.part.sharedDay? last'.part with
    | none =>
      rw [hs, hs'] at hb
      exact words_injective hb
    | some e =>
      rw [hs, hs'] at hb
      exact absurd hb.symm (shared_ne_words (ha.part_ne_year shared).2 _ _)
  | some e =>
    cases hs' : first'.part.sharedDay? last'.part with
    | none =>
      rw [hs, hs'] at hb
      exact absurd hb (shared_ne_words (ha'.part_ne_year shared').2 _ _)
    | some e' =>
      rw [hs, hs'] at hb
      obtain ⟨m, d, hp, hl⟩ := DatePart.sharedDay?_eq_some_iff.mp hs
      obtain ⟨m', d', hp', hl'⟩ := DatePart.sharedDay?_eq_some_iff.mp hs'
      rw [hp, hp'] at parts
      simp only [List.cons.injEq, String.append_left_inj, and_true] at hb
      obtain ⟨number, year⟩ := hb
      refine congrArg₂ mk (toString_int_injective year) ?_
      rw [hl, hl', (DatePart.day.inj parts).1, toString_injective number]

/-- Two dates that are apart are told by their text, unless the first is of one of the years that
may be read as days. -/
theorem formText_two_inj (hv : first.isValid = true) (hv' : first'.isValid = true)
    (hy : ¬(1 ≤ first.year ∧ first.year ≤ 31)) (hy' : ¬(1 ≤ first'.year ∧ first'.year ≤ 31))
    (ha : Apart first last) (ha' : Apart first' last')
    (h : formText (first, some last) = formText (first', some last')) :
    first = first' ∧ last = last' := by
  obtain ⟨hf, hb⟩ := front_back_of_formText ha ha' h
  by_cases shared : first.year = last.year <;> by_cases shared' : first'.year = last'.year
  · exact eq_of_shared ha ha' shared shared' hf hb
  · exact absurd hf (front_ne_front hv hy' ha shared shared')
  · exact absurd hf.symm (front_ne_front hv' hy ha' shared' shared)
  · rw [front, front, if_neg shared, if_neg shared'] at hf
    rw [back, back, if_neg shared, if_neg shared'] at hb
    exact ⟨words_injective hf, words_injective hb⟩

theorem formText_one_ne_two (date : Date) : formText (date, none) ≠ formText (first, some last) := by
  intro h
  have absent : '\u2013' ∉ (formText (date, none)).toList :=
    dash_not_mem_sentence isWord_of_mem_words
  rw [h, formText, String.toList_append, String.toList_append] at absent
  exact absent (List.mem_append_left _ (List.mem_append_right _ List.mem_cons_self))

/-- Two dates are printed alike just when they are the same once their parts that do not exist have
been dropped, which keeps the year and every date that exists. Two spans that do not start in one of
the first 31 years are printed alike just when they come to the same one or two dates. -/
theorem text_unambiguous :
    (∀ a b : Date, a.text = b.text ↔ a.coarsened = b.coarsened) ∧
    (∀ date : Date, date.coarsened.isValid = true ∧ date.coarsened.year = date.year ∧
      date.coarsened.coarsened = date.coarsened ∧
      (date.isValid = true → date.coarsened = date)) ∧
    ∀ (first first' : Date) (last last' : Option Date),
      ¬(1 ≤ first.year ∧ first.year ≤ 31) → ¬(1 ≤ first'.year ∧ first'.year ≤ 31) →
      (first.spanText last = first'.spanText last' ↔
        first.spanForm last = first'.spanForm last') := by
  refine ⟨fun _ _ ↦ exactText_inj, fun date ↦ ⟨date.isValid_coarsened, date.year_coarsened,
    coarsened_of_isValid date.isValid_coarsened, coarsened_of_isValid⟩, ?_⟩
  intro first first' last last' hy hy'
  rw [spanText_eq, spanText_eq]
  refine ⟨fun h ↦ ?_, congrArg formText⟩
  match hs : spanForm first last, hs' : spanForm first' last' with
  | (date, none), (date', none) =>
    rw [hs, hs', formText_one, formText_one, exactText_inj] at h
    rw [h]
  | (date, none), (start, some stop) =>
    rw [hs, hs'] at h
    exact absurd h (formText_one_ne_two date)
  | (start, some stop), (date, none) =>
    rw [hs, hs'] at h
    exact absurd h.symm (formText_one_ne_two date)
  | (start, some stop), (start', some stop') =>
    obtain ⟨rfl, ha⟩ := apart_of_spanForm hs
    obtain ⟨rfl, ha'⟩ := apart_of_spanForm hs'
    rw [← year_coarsened] at hy hy'
    rw [hs, hs'] at h
    obtain ⟨starts, stops⟩ := formText_two_inj first.isValid_coarsened first'.isValid_coarsened
      hy hy' ha ha' h
    rw [starts, stops]

/-- A month and its year come to the month, whichever comes first and whatever day is given that the
month does not have; a month with a day of the next one comes to both. -/
theorem text_unambiguous_february :
    let start : Date := ⟨2002, .day .february 31⟩
    let year : Date := ⟨2002, .year⟩
    let month : Option Date := some ⟨2002, .month .february⟩
    ¬(1 ≤ start.year ∧ start.year ≤ 31) ∧ ¬(1 ≤ year.year ∧ year.year ≤ 31) ∧
      start.spanText (some year) = year.spanText month ∧
      start.spanText (some ⟨2002, .day .march 5⟩) ≠ year.spanText month := by
  intro start year month
  have late : ¬(1 ≤ start.year ∧ start.year ≤ 31) := by decide
  have late' : ¬(1 ≤ year.year ∧ year.year ≤ 31) := by decide
  refine ⟨late, late', ?_, ?_⟩
  · exact (text_unambiguous.2.2 start year (some year) month late late').mpr (by decide)
  · rw [Ne, text_unambiguous.2.2 start year _ month late late']
    decide

/-- A month of the third year reads as the third day of the month. -/
example : spanText ⟨3, .month .february⟩ (some ⟨2002, .month .march⟩) =
    spanText ⟨2002, .day .february 3⟩ (some ⟨2002, .month .march⟩) := by decide

end Date

end Manuscript
