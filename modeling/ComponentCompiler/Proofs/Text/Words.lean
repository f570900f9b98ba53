import ComponentCompiler.Proofs.Text.Places

/-!
# Words in a text

What stands in a text is told by its words and the blanks between them, without a scanner: a word
comes before something else after any blanks (`Spaced`) or after at least one (`Parted`), and
something stands where a word starts (`Somewhere`). What comes after the blanks starts with no
blank itself (`Solid`), so a scanner that reads the word and all blanks after it recognises just
that (`spaced_iff`, `parted_iff`), and finds it exactly if it stands somewhere (`found_iff`).
-/

namespace ComponentCompiler.Text

variable {before : Option Char} {s rest : List Char} {word : String}
  {P Q : List Char → Prop}

/-- A scanner finds something exactly if it recognises a part at some place of the text. -/
theorem found_iff {scan : Scanner} : found scan before s ↔ ∃ front tail, s = front ++ tail ∧
    tail ≠ [] ∧ (scan (Replacer.lastOf before front) tail).isSome := by
  induction s generalizing before with
  | nil => simp [found]
  | cons c s ih =>
      rw [found, Bool.or_eq_true, ih]
      constructor
      · rintro (h | ⟨front, tail, rfl, hne, h⟩)
        · exact ⟨[], c :: s, rfl, List.cons_ne_nil c s, h⟩
        · exact ⟨c :: front, tail, rfl, hne, by rwa [Replacer.lastOf_cons]⟩
      · rintro ⟨front, tail, hsplit, hne, h⟩
        cases front with
        | nil =>
            rw [List.nil_append] at hsplit
            exact .inl (hsplit ▸ h)
        | cons d front =>
            obtain ⟨rfl, rfl⟩ := List.cons.inj hsplit
            rw [Replacer.lastOf_cons] at h
            exact .inr ⟨front, tail, rfl, hne, h⟩

/-! ### Words and blanks -/

/-- A word and any blanks come before a text with a property. -/
def Spaced (word : String) (P : List Char → Prop) (s : List Char) : Prop :=
  ∃ gap rest, s = word.toList ++ (gap ++ rest) ∧ isBlankText gap ∧ P rest

/-- A word and at least one blank come before a text with a property. -/
def Parted (word : String) (P : List Char → Prop) (s : List Char) : Prop :=
  ∃ gap rest, s = word.toList ++ (gap ++ rest) ∧ gap ≠ [] ∧ isBlankText gap ∧ P rest

/-- A text starts with a character. -/
def Starts (c : Char) (s : List Char) : Prop := s.head? = some c

/-- What has a property does not start with a blank. -/
def Solid (P : List Char → Prop) : Prop := ∀ s, P s → ∀ c ∈ s.head?, isBlank c = false

theorem solid_starts {c : Char} (h : isBlank c = false) : Solid (Starts c) := by
  rintro s hs d hd
  rw [hs] at hd
  obtain rfl := Option.some.inj hd
  exact h

/-- A property of texts that start with a word. -/
theorem solid_of_word (hword : word.toList.head?.any fun c => !isBlank c)
    (h : ∀ s, P s → word.toList <+: s) : Solid P := by
  intro s hs c hc
  obtain ⟨rest, rfl⟩ := h s hs
  cases hlist : word.toList with
  | nil =>
      rw [hlist] at hword
      cases hword
  | cons d more =>
      rw [hlist] at hword hc
      obtain rfl : d = c := by simpa using hc
      simpa using hword

theorem Spaced.starts (h : Spaced word P s) : word.toList <+: s := by
  obtain ⟨gap, rest, rfl, -⟩ := h
  exact List.prefix_append _ _

theorem Parted.starts (h : Parted word P s) : word.toList <+: s := by
  obtain ⟨gap, rest, rfl, -⟩ := h
  exact List.prefix_append _ _

theorem Parted.mono (h : Parted word P s) (hPQ : ∀ s, P s → Q s) :
    Parted word Q s := by
  obtain ⟨gap, rest, hs, hne, hgap, hP⟩ := h
  exact ⟨gap, rest, hs, hne, hgap, hPQ rest hP⟩

theorem skipBlanks_append {gap : List Char} (hgap : isBlankText gap)
    (h : ∀ c ∈ rest.head?, isBlank c = false) : skipBlanks (gap ++ rest) = rest := by
  rw [skipBlanks, List.dropWhile_append_of_pos (List.all_eq_true.mp hgap)]
  cases rest with
  | nil => rfl
  | cons c rest => exact List.dropWhile_cons_of_neg (by simp [h c rfl])

theorem spaced_iff (h : Solid P) :
    Spaced word P s ↔ ∃ rest, word? word s = some rest ∧ P (skipBlanks rest) := by
  constructor
  · rintro ⟨gap, rest, rfl, hgap, hP⟩
    refine ⟨gap ++ rest, word?_self _ _, ?_⟩
    rwa [skipBlanks_append hgap (h rest hP)]
  · rintro ⟨rest, hword, hP⟩
    refine ⟨rest.takeWhile isBlank, skipBlanks rest, ?_, List.all_takeWhile, hP⟩
    rw [skipBlanks, List.takeWhile_append_dropWhile]
    exact eq_of_word? hword

theorem blanks?_eq_some_iff : blanks? s = some rest ↔ ∃ gap, s = gap ++ rest ∧ gap ≠ [] ∧
    isBlankText gap ∧ ∀ c ∈ rest.head?, isBlank c = false := by
  simp only [blanks?, Option.map_eq_some_iff, Prod.exists, exists_eq_right, run?_eq_some_iff,
    isBlankText, List.all_eq_true]

theorem parted_iff (h : Solid P) : Parted word P s ↔
    ∃ rest next, word? word s = some rest ∧ blanks? rest = some next ∧ P next := by
  constructor
  · rintro ⟨gap, rest, rfl, hne, hgap, hP⟩
    exact ⟨gap ++ rest, rest, word?_self _ _,
      blanks?_eq_some_iff.mpr ⟨gap, rfl, hne, hgap, h rest hP⟩, hP⟩
  · rintro ⟨rest, next, hword, hblanks, hP⟩
    obtain ⟨gap, rfl, hne, hgap, -⟩ := blanks?_eq_some_iff.mp hblanks
    exact ⟨gap, next, eq_of_word? hword, hne, hgap, hP⟩

/-- A word and blanks before what a scanner recognises. -/
theorem parted_scan_iff {scan : List Char → Option (List Char)} (hP : Solid P)
    (h : ∀ s, (scan s).isSome ↔ P s) :
    ((word? word s).bind fun rest => (blanks? rest).bind scan).isSome ↔ Parted word P s := by
  rw [parted_iff hP]
  cases word? word s with
  | none => simp
  | some rest =>
      cases hblanks : blanks? rest with
      | none => simp [hblanks]
      | some next => simp [hblanks, h]

theorem word?_isSome_iff {sign : String} {c : Char} (hsign : sign.toList = [c]) :
    (word? sign s).isSome ↔ Starts c s := by
  rw [word?, hsign, Starts]
  cases s with
  | nil => simp [after?]
  | cons d s =>
      rcases eq_or_ne c d with rfl | h
      · simp [after?]
      · simp [after?, h, h.symm]

/-! ### Places where a word starts -/

/-- Something with a property stands in a text, where a word starts. -/
def Somewhere (P : List Char → Prop) (text : List Char) : Prop :=
  ∃ front s, text = front ++ s ∧ isWordBoundary front.getLast? s.head? ∧ P s

theorem Somewhere.mono {text : List Char} (h : Somewhere P text) (hPQ : ∀ s, P s → Q s) :
    Somewhere Q text := by
  obtain ⟨front, s, hs, hboundary, hP⟩ := h
  exact ⟨front, s, hs, hboundary, hPQ s hP⟩

end ComponentCompiler.Text
