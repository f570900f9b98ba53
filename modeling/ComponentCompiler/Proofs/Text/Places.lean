import ComponentCompiler.Proofs.Text.Starts

/-!
# Where a text is read

A fixed text that stands apart from another one is never read across its border (`Clear`). A rule
that applies at no place of a part copies it (`Replacer.Silent`), and a rule that reads nothing
across the start of a text rewrites what comes before it on its own (`Replacer.EndsBefore`). With
both, a rewrite is followed piece by piece through a text of which some pieces are known.
-/

namespace ComponentCompiler.Text

/-- What holds of all characters of a text is decided by going through the text, and not through all
characters that there are. -/
instance (priority := high) decidableForallMem (p : Char → Prop) [DecidablePred p]
    (text : List Char) : Decidable (∀ c ∈ text, p c) :=
  List.decidableBAll p text

section Reading

variable {part s rest : List Char}

@[simp] theorem after?_self (part rest : List Char) : after? part (part ++ rest) = some rest := by
  induction part with
  | nil => rfl
  | cons c part ih => rw [List.cons_append, after?, if_pos rfl, ih]

@[simp] theorem word?_self (word : String) (rest : List Char) :
    word? word (word.toList ++ rest) = some rest :=
  after?_self word.toList rest

theorem after?_eq_none_iff : after? part s = none ↔ ¬part <+: s := by
  refine ⟨fun h => ?_, fun h => ?_⟩
  · rintro ⟨rest, rfl⟩
    rw [after?_self] at h
    cases h
  · cases hafter : after? part s with
    | none => rfl
    | some rest => exact absurd ⟨rest, (eq_of_after? hafter).symm⟩ h

theorem word?_eq_none_iff {word : String} : word? word s = none ↔ ¬word.toList <+: s :=
  after?_eq_none_iff

theorem after?_eq_some_iff : after? part s = some rest ↔ s = part ++ rest :=
  ⟨eq_of_after?, fun h => h ▸ after?_self part rest⟩

theorem word?_eq_some_iff {word : String} : word? word s = some rest ↔ s = word.toList ++ rest :=
  after?_eq_some_iff

/-- A run goes as far as it can. -/
theorem run?_eq_some_iff {p : Char → Bool} {run : List Char} : run? p s = some (run, rest) ↔
    s = run ++ rest ∧ run ≠ [] ∧ (∀ c ∈ run, p c) ∧ ∀ c ∈ rest.head?, p c = false := by
  have hrun : run? p s = some (run, rest) ↔
      s.takeWhile p = run ∧ s.dropWhile p = rest ∧ run ≠ [] := by
    rw [run?, List.span_eq_takeWhile_dropWhile]
    split
    · rename_i hnil
      simp only [Prod.mk.injEq] at hnil
      simp only [reduceCtorEq, false_iff, not_and, not_not]
      intro htake _
      rw [← htake, hnil.1]
    · rename_i hcons
      simp only [Option.some.injEq, Prod.mk.injEq]
      refine ⟨fun ⟨htake, hdrop⟩ => ⟨htake, hdrop, ?_⟩, fun ⟨htake, hdrop, _⟩ => ⟨htake, hdrop⟩⟩
      rintro rfl
      exact hcons _ (Prod.ext htake rfl)
  rw [hrun]
  constructor
  · rintro ⟨rfl, rfl, hne⟩
    refine ⟨List.takeWhile_append_dropWhile.symm, hne, fun c hc => List.mem_takeWhile_imp hc, ?_⟩
    intro c hc
    have hhead := List.head?_dropWhile_not p s
    rw [hc] at hhead
    simpa using hhead
  · rintro ⟨rfl, hne, hclass, hstop⟩
    have hrest : rest.takeWhile p = [] ∧ rest.dropWhile p = rest := by
      cases rest with
      | nil => exact ⟨rfl, rfl⟩
      | cons c rest => simp [hstop c rfl]
    rw [List.takeWhile_append_of_pos hclass, List.dropWhile_append_of_pos hclass, hrest.1, hrest.2,
      List.append_nil]
    exact ⟨rfl, rfl, hne⟩

theorem occursIn_iff : occursIn part s ↔ part <:+: s := by
  induction s with
  | nil => simp [occursIn]
  | cons c s ih =>
    rw [occursIn, Bool.or_eq_true, ih, List.isPrefixOf_iff_prefix, List.infix_cons_iff]

/-- A text is split in one way at the first character of a kind. -/
theorem append_cons_inj_of_first {p : Char → Bool} {front front' rest' : List Char} {c c' : Char}
    (hfront : ∀ d ∈ front, p d = false) (hfront' : ∀ d ∈ front', p d = false) (hc : p c)
    (hc' : p c') (h : front ++ c :: rest = front' ++ c' :: rest') :
    front = front' ∧ c = c' ∧ rest = rest' := by
  induction front generalizing front' with
  | nil =>
    cases front' with
    | nil => simpa using h
    | cons d front' =>
      obtain ⟨rfl, -⟩ := List.cons.inj h
      rw [hfront' c List.mem_cons_self] at hc
      cases hc
  | cons d front ih =>
    cases front' with
    | nil =>
      obtain ⟨rfl, -⟩ := List.cons.inj h
      rw [hfront d List.mem_cons_self] at hc'
      cases hc'
    | cons d' front' =>
      obtain ⟨rfl, htail⟩ := List.cons.inj h
      obtain ⟨rfl, hrest⟩ := ih (fun e he => hfront e (List.mem_cons_of_mem d he))
        (fun e he => hfront' e (List.mem_cons_of_mem d he)) htail
      exact ⟨rfl, hrest⟩

theorem append_stop_inj {stop : Char} {front front' rest' : List Char} (hfront : stop ∉ front)
    (hfront' : stop ∉ front') :
    front ++ stop :: rest = front' ++ stop :: rest' ↔ front = front' ∧ rest = rest' := by
  have hclass {text : List Char} (h : stop ∉ text) : ∀ d ∈ text, (d == stop) = false := by
    intro d hd
    rw [beq_eq_false_iff_ne]
    rintro rfl
    exact h hd
  refine ⟨fun h => ?_, fun ⟨hsame, hrest⟩ => by rw [hsame, hrest]⟩
  obtain ⟨hsame, -, hrest⟩ := append_cons_inj_of_first (hclass hfront) (hclass hfront')
    (beq_self_eq_true stop) (beq_self_eq_true stop) h
  exact ⟨hsame, hrest⟩

/-- Two texts up to the first of some character, and then further on. -/
theorem prefix_past_iff {stop : Char} {word more front : List Char} (hword : stop ∉ word)
    (hfront : stop ∉ front) :
    word ++ stop :: more <+: front ++ stop :: rest ↔ front = word ∧ more <+: rest := by
  constructor
  · rintro ⟨left, hleft⟩
    rw [List.append_assoc, List.cons_append, append_stop_inj hword hfront] at hleft
    exact ⟨hleft.1.symm, left, hleft.2⟩
  · rintro ⟨rfl, left, rfl⟩
    exact ⟨left, by simp⟩

end Reading

section First

variable {part s front rest : List Char}

/-- The first place of a part in a text, with what comes before and after it. -/
structure FirstAt (part s front rest : List Char) : Prop where
  split : s = front ++ (part ++ rest)
  first : ∀ front' rest', s = front' ++ (part ++ rest') → front.length ≤ front'.length

theorem exists_firstAt (h : part <:+: s) : ∃ front rest, FirstAt part s front rest := by
  induction s with
  | nil => exact ⟨[], [], by simpa using h, by simp⟩
  | cons c s ih =>
    by_cases hstart : part <+: c :: s
    · obtain ⟨rest, hrest⟩ := hstart
      exact ⟨[], rest, hrest.symm, by simp⟩
    · obtain ⟨front, rest, hsplit, hfirst⟩ :=
        ih ((List.infix_cons_iff.mp h).resolve_left hstart)
      refine ⟨c :: front, rest, by rw [hsplit]; rfl, fun front' rest' hsplit' => ?_⟩
      cases front' with
      | nil => exact absurd ⟨rest', hsplit'.symm⟩ hstart
      | cons d front' =>
        exact Nat.succ_le_succ (hfirst front' rest' (List.cons.inj hsplit').2)

/-- Earlier in the text the part is not to be read. -/
theorem FirstAt.not_prefix (h : FirstAt part s front rest) {tail : List Char}
    (htail : tail <:+ front) (hne : tail ≠ []) : ¬part <+: tail ++ (part ++ rest) := by
  rintro ⟨rest', hrest'⟩
  obtain ⟨start, rfl⟩ := htail
  have hearlier := h.first start rest' (by rw [h.split, List.append_assoc, hrest'])
  rw [List.length_append] at hearlier
  exact hne (List.length_eq_zero_iff.mp (by omega))

/-- Whether a place is the first one can be read off what comes before it. -/
theorem firstAt_iff : FirstAt part s front rest ↔ s = front ++ (part ++ rest) ∧
    ∀ tail ∈ front.tails, tail ≠ [] → ¬part <+: tail ++ (part ++ rest) := by
  refine ⟨fun h => ⟨h.split, fun tail htail hne => ?_⟩, fun ⟨hsplit, h⟩ => ⟨hsplit, ?_⟩⟩
  · exact h.not_prefix ((List.mem_tails _ _).mp htail) hne
  · rintro front' rest' hsplit'
    rw [hsplit] at hsplit'
    rcases List.append_eq_append_iff.mp hsplit' with ⟨middle, rfl, -⟩ | ⟨middle, rfl, hmiddle⟩
    · simp
    · rcases eq_or_ne middle [] with rfl | hne
      · simp
      · have hmem : middle ∈ (front' ++ middle).tails :=
          (List.mem_tails _ _).mpr (List.suffix_append _ _)
        exact absurd (hmiddle ▸ List.prefix_append part rest') (h middle hmem hne)

instance (part s front rest : List Char) : Decidable (FirstAt part s front rest) :=
  decidable_of_iff _ firstAt_iff.symm

end First

section Clear

variable {part block front rest : List Char}

/-- A part and a block of a text of which neither reaches into the other. -/
structure Clear (part block : List Char) : Prop where
  apart : Apart part block
  block : ∀ tail ∈ block.tails, tail ≠ [] → ¬tail <+: part ∧ ¬part <+: tail

instance (part block : List Char) : Decidable (Clear part block) :=
  decidable_of_iff
    (Apart part block ∧ ∀ tail ∈ block.tails, tail ≠ [] → ¬tail <+: part ∧ ¬part <+: tail)
    ⟨fun h => ⟨h.1, h.2⟩, fun h => ⟨h.1, h.2⟩⟩

theorem not_prefix_append {tail : List Char} (h : ¬tail <+: block ∧ ¬block <+: tail)
    (rest : List Char) : ¬tail <+: block ++ rest := fun hleads =>
  (List.prefix_or_prefix_of_prefix hleads (List.prefix_append block rest)).elim h.1 h.2

/-- Such a part occurs before the block or after it. -/
theorem Clear.infix_iff (h : Clear part block) :
    part <:+: front ++ (block ++ rest) ↔ part <:+: front ∨ part <:+: rest := by
  refine ⟨fun hpart => ?_, fun hpart => hpart.elim (List.infix_append_of_infix_left ·)
    fun hrest => List.infix_append_of_infix_right (List.infix_append_of_infix_right hrest)⟩
  rcases List.infix_append_iff_ne_nil.mp hpart with
    hfront | hback | ⟨start, tail, hstart, htail, rfl, -, hleads⟩
  · exact .inl hfront
  · rcases List.infix_append_iff_ne_nil.mp hback with
      hblock | hrest | ⟨start, tail, hstart, -, rfl, hsuffix, hleads⟩
    · obtain ⟨before, after, rfl⟩ := hblock
      rw [List.append_assoc] at h
      rcases eq_or_ne part [] with rfl | hne
      · exact .inl List.nil_infix
      · have hmem : part ++ after ∈ (before ++ (part ++ after)).tails :=
          (List.mem_tails _ _).mpr (List.suffix_append _ _)
        exact absurd (List.prefix_append part after) (h.block _ hmem (by simp [hne])).2
    · exact .inr hrest
    · exact absurd (List.prefix_append start tail)
        (h.block start ((List.mem_tails _ _).mpr hsuffix) hstart).1
  · cases start with
    | nil => exact absurd rfl hstart
    | cons c start =>
      have hmem : tail ∈ (c :: start ++ tail).tail.tails :=
        (List.mem_tails _ _).mpr (List.suffix_append start tail)
      exact absurd hleads (not_prefix_append (h.apart tail hmem htail) rest)

end Clear

section Absent

variable {head part rest : List Char} {stop c : Char}

/-- A text that is read at no place of a part, when `rest` follows. -/
def Absent (head part rest : List Char) : Prop :=
  ∀ tail, tail <:+ part → tail ≠ [] → ¬head <+: tail ++ rest

/-- The ends of a text in two parts: they begin in one of them. -/
theorem suffix_append_cases {tail next : List Char} (h : tail <:+ part ++ next) :
    tail <:+ next ∨ ∃ middle, middle <:+ part ∧ middle ≠ [] ∧ tail = middle ++ next := by
  obtain ⟨start, hstart⟩ := h
  rcases List.append_eq_append_iff.mp hstart with ⟨middle, rfl, rfl⟩ | ⟨middle, -, rfl⟩
  · rcases eq_or_ne middle [] with rfl | hmiddle
    · exact .inl (List.suffix_refl next)
    · exact .inr ⟨middle, List.suffix_append _ _, hmiddle, rfl⟩
  · exact .inl (List.suffix_append _ _)

theorem Absent.append {next : List Char} (h : Absent head part (next ++ rest))
    (h' : Absent head next rest) : Absent head (part ++ next) rest := by
  intro tail htail hne
  rcases suffix_append_cases htail with hnext | ⟨middle, hmiddle, hmne, rfl⟩
  · exact h' tail hnext hne
  · rw [List.append_assoc]
    exact h middle hmiddle hmne

theorem Absent.mono {head' : List Char} (h : Absent head part rest) (hhead : head <+: head') :
    Absent head' part rest :=
  fun tail htail hne hleads => h tail htail hne (hhead.trans hleads)

theorem Absent.cons (h : ¬head <+: c :: (part ++ rest)) (h' : Absent head part rest) :
    Absent head (c :: part) rest := by
  intro tail htail hne
  rcases List.suffix_cons_iff.mp htail with rfl | hin
  · exact h
  · exact h' tail hin hne

/-- A part without the first character of the text. -/
theorem absent_of_first (h : c ∉ part) (head rest : List Char) : Absent (c :: head) part rest := by
  intro tail htail hne hleads
  obtain ⟨d, tail, rfl⟩ := List.exists_cons_of_ne_nil hne
  obtain ⟨rfl, -⟩ := List.cons_prefix_cons.mp hleads
  exact h (htail.subset List.mem_cons_self)

/-- No end of the part agrees with the text. -/
theorem absent_of_block
    (h : ∀ tail ∈ part.tails, tail ≠ [] → ¬tail <+: head ∧ ¬head <+: tail) (rest : List Char) :
    Absent head part rest := fun tail htail hne hleads =>
  (List.prefix_or_prefix_of_prefix hleads (List.prefix_append tail rest)).elim
    (h tail ((List.mem_tails _ _).mpr htail) hne).2 (h tail ((List.mem_tails _ _).mpr htail) hne).1

/-- A part without the character at which the text goes on differently. -/
theorem absent_of_past {word more : List Char} (hword : stop ∉ word) (hpart : stop ∉ part)
    (rest : List Char) (h : word <:+ part → ¬more <+: rest) :
    Absent (word ++ stop :: more) part (stop :: rest) := by
  intro tail htail _ hleads
  have hfront : stop ∉ tail := fun hmem => hpart (htail.subset hmem)
  obtain ⟨rfl, hmore⟩ := (prefix_past_iff hword hfront).mp hleads
  exact h htail hmore

/-- A part that lacks one character of the text and ends with one that the text lacks. -/
theorem absent_of_last (hhead : stop ∈ head) (hpart : stop ∉ part)
    (hlast : part.getLast? = some c) (hc : c ∉ head) : Absent head part rest := by
  intro tail htail hne hleads
  rcases List.prefix_or_prefix_of_prefix hleads (List.prefix_append tail rest) with hin | hin
  · exact hpart (htail.subset (hin.subset hhead))
  · obtain ⟨start, rfl⟩ := htail
    rw [List.getLast?_append_of_ne_nil start hne] at hlast
    exact hc (hin.subset (List.mem_of_getLast? hlast))

/-- A part without a character of the text, before one that the text lacks. -/
theorem absent_of_stop {blank : Char} (hhead : blank ∈ head) (hpart : blank ∉ part)
    (hstop : stop ∉ head) : Absent head part (stop :: rest) := by
  intro tail htail _ hleads
  have hshort : head <+: tail := by
    obtain ⟨left, hleft⟩ := hleads
    have hread := after?_append hstop tail rest
    rw [← hleft, after?_self] at hread
    obtain ⟨left', hleft', -⟩ := Option.map_eq_some_iff.mp hread.symm
    exact ⟨left', (eq_of_after? hleft').symm⟩
  exact hpart (htail.subset (hshort.subset hhead))

/-- A text that is read nowhere does not occur. -/
theorem Absent.not_infix (h : Absent head part rest) (hne : head ≠ []) : ¬head <:+: part := by
  rintro ⟨front, left, rfl⟩
  refine h (head ++ left) ⟨front, (List.append_assoc _ _ _).symm⟩ (by simp [hne]) ?_
  rw [List.append_assoc]
  exact List.prefix_append _ _

theorem absent_of_not_mem (hhead : stop ∈ head) (hpart : stop ∉ part) : Absent head part [] :=
  fun _ htail _ hleads => hpart (htail.subset (by simpa using hleads.subset hhead))

/-- A part that has the text at none of its later places, and ends with a character that the text
lacks, stands apart from it. -/
theorem apart_of_absent (h : Absent head part.tail []) (hlast : part.getLast? = some c)
    (hc : c ∉ head) : Apart part head := by
  intro tail htail hne
  have hsuffix : tail <:+ part.tail := (List.mem_tails _ _).mp htail
  refine ⟨fun hleads => ?_, fun hleads => h tail hsuffix hne (by rwa [List.append_nil])⟩
  obtain ⟨start, rfl⟩ := hsuffix.trans (List.tail_suffix part)
  rw [List.getLast?_append_of_ne_nil start hne] at hlast
  exact hc (hleads.subset (List.mem_of_getLast? hlast))

end Absent

namespace Replacer

variable {rule : Replacer} {before : Option Char} {part front rest replacement : List Char}

/-- The character before the end of a text. -/
def lastOf (before : Option Char) (front : List Char) : Option Char := front.getLast?.or before

@[simp] theorem lastOf_cons (before : Option Char) (c : Char) (front : List Char) :
    lastOf before (c :: front) = lastOf (some c) front := by
  cases front <;> simp [lastOf, List.getLast?_cons]

/-- No place of a part is one where the rule applies, when `rest` follows. -/
def Silent (rule : Replacer) (part rest : List Char) : Prop :=
  ∀ tail, tail <:+ part → tail ≠ [] → ∀ before, rule before (tail ++ rest) = none

theorem Silent.of_cons {c : Char} (h : rule.Silent (c :: part) rest) : rule.Silent part rest :=
  fun tail htail => h tail (htail.trans (List.suffix_cons c part))

/-- A rule applies nowhere if what it starts with is nowhere to be read. -/
theorem silent_of_absent (heads : List (List Char))
    (hrule : ∀ {before s pair}, rule before s = some pair → ∃ head ∈ heads, head <+: s)
    (h : ∀ head ∈ heads, Absent head part rest) : rule.Silent part rest := by
  intro tail htail hne before
  cases hpair : rule before (tail ++ rest) with
  | none => rfl
  | some pair =>
    obtain ⟨head, hmem, hleads⟩ := hrule hpair
    exact absurd hleads (h head hmem tail htail hne)

/-- A part where the rule applies nowhere is copied. -/
theorem Silent.everywhere (h : rule.Silent part rest) (before : Option Char) :
    everywhere rule before 0 (part ++ rest) =
      part ++ everywhere rule (lastOf before part) 0 rest := by
  induction part generalizing before with
  | nil => rfl
  | cons c part ih =>
    have hnone := h (c :: part) (List.suffix_refl _) (by simp) before
    rw [List.cons_append] at hnone
    rw [List.cons_append, Replacer.everywhere, hnone, lastOf_cons]
    exact congrArg (c :: ·) (ih h.of_cons (some c))

theorem Silent.everywhere_self (h : rule.Silent part []) (before : Option Char) :
    Replacer.everywhere rule before 0 part = part := by
  have hself := h.everywhere before
  rwa [List.append_nil, everywhere_nil, List.append_nil] at hself

theorem Silent.once (h : rule.Silent part rest) (before : Option Char) :
    once rule before (part ++ rest) = part ++ once rule (lastOf before part) rest := by
  induction part generalizing before with
  | nil => rfl
  | cons c part ih =>
    have hnone := h (c :: part) (List.suffix_refl _) (by simp) before
    rw [List.cons_append] at hnone
    rw [List.cons_append, Replacer.once, hnone, lastOf_cons]
    exact congrArg (c :: ·) (ih h.of_cons (some c))

/-- A part that belongs to the last replacement is left out. -/
theorem everywhere_skip (before : Option Char) (part rest : List Char) :
    everywhere rule before part.length (part ++ rest) =
      everywhere rule (lastOf before part) 0 rest := by
  induction part generalizing before with
  | nil => rfl
  | cons c part ih => rw [List.length_cons, List.cons_append, everywhere, ih, lastOf_cons]

/-- Where the rule applies, the replacement takes the place of the part. -/
theorem everywhere_of_match (h : rule before (part ++ rest) = some (replacement, rest))
    (hne : part ≠ []) : everywhere rule before 0 (part ++ rest) =
      replacement ++ everywhere rule (lastOf before part) 0 rest := by
  cases part with
  | nil => exact absurd rfl hne
  | cons c part =>
    rw [List.cons_append] at h
    have hextra : extra (part ++ rest) rest = part.length := by
      rw [extra, List.length_append]
      omega
    rw [List.cons_append, everywhere, h, lastOf_cons]
    exact congrArg (replacement ++ ·) (by rw [hextra, everywhere_skip])

theorem once_of_rule {s : List Char} (h : rule before s = some (replacement, rest)) (hne : s ≠ []) :
    once rule before s = replacement ++ rest := by
  cases s with
  | nil => exact absurd rfl hne
  | cons c s => rw [once, h]

/-- Where a rule applies somewhere, the first such part is replaced. -/
theorem exists_of_found {s : List Char} (h : found rule.scan before s) :
    ∃ front tail replacement rest, s = front ++ tail ∧
      rule (lastOf before front) tail = some (replacement, rest) ∧
      once rule before s = front ++ (replacement ++ rest) := by
  induction s generalizing before with
  | nil => cases h
  | cons c s ih =>
    rw [found, scan] at h
    rw [once]
    cases hrule : rule before (c :: s) with
    | some pair => exact ⟨[], c :: s, pair.1, pair.2, rfl, hrule, rfl⟩
    | none =>
      rw [hrule] at h
      obtain ⟨front, tail, replacement, rest, rfl, hpair, honce⟩ := ih (by simpa using h)
      exact ⟨c :: front, tail, replacement, rest, rfl, by rwa [lastOf_cons], by simp [honce]⟩

/-- After a character that means nothing to the rule, everything is as at the start of a text. -/
theorem everywhere_restart {c : Char} (h : ∀ s, rule (some c) s = rule none s) (s : List Char) :
    everywhere rule (some c) 0 s = everywhere rule none 0 s := by
  cases s with
  | nil => rfl
  | cons d s => rw [everywhere, everywhere, h]

/-- Replacing makes no new occurrence of a text that does not begin in what is written. -/
theorem infix_of_everywhere {part s : List Char} {before : Option Char} {skip : Nat}
    (h : ∀ {before s replacement rest}, rule before s = some (replacement, rest) →
      (∃ c more, replacement = c :: more ∧ c ∉ part) ∧ ∀ rest, Absent part replacement rest)
    (hpart : part <:+: everywhere rule before skip s) : part <:+: s := by
  induction s generalizing before skip with
  | nil => rwa [everywhere_nil] at hpart
  | cons c s ih =>
    cases skip with
    | succ skip => exact (ih hpart).trans (List.suffix_cons c s).isInfix
    | zero =>
      by_cases hstart : part <+: everywhere rule before 0 (c :: s)
      · exact (starts_of_everywhere (fun hrule => (h hrule).1) hstart).isInfix
      · refine List.IsInfix.trans ?_ (List.suffix_cons c s).isInfix
        rw [everywhere] at hstart hpart
        cases hrule : rule before (c :: s) with
        | none =>
          rw [hrule] at hstart hpart
          exact ih ((List.infix_cons_iff.mp hpart).resolve_left hstart)
        | some pair =>
          rw [hrule] at hpart
          obtain ⟨front, left, hsplit⟩ := hpart
          rw [List.append_assoc] at hsplit
          rcases suffix_append_cases ⟨front, hsplit⟩ with hlater | ⟨middle, hmiddle, hne, heq⟩
          · exact ih ((List.prefix_append part left).isInfix.trans hlater.isInfix)
          · exact absurd ⟨left, heq⟩ ((h hrule).2 _ middle hmiddle hne)

/-- What the rule recognises before a text ends before it. -/
def EndsBefore (rule : Replacer) (rest : List Char) : Prop :=
  ∀ before front replacement left, front ≠ [] →
    rule before (front ++ rest) = some (replacement, left) → rest <:+ left

/-- It does if everything that the rule recognises stands apart from the start of the text. -/
theorem endsBefore_of_apart {head : List Char}
    (h : ∀ {before s replacement left}, rule before s = some (replacement, left) →
      ∃ part, Apart part head ∧ s = part ++ left) (rest : List Char) :
    rule.EndsBefore (head ++ rest) := by
  intro before front replacement left hfront hrule
  obtain ⟨part, hapart, hsplit⟩ := h hrule
  have hread := hapart.after?_append hfront rest
  rw [hsplit, after?_self] at hread
  obtain ⟨left', -, hleft'⟩ := Option.map_eq_some_iff.mp hread.symm
  exact ⟨left', hleft'⟩

/-- What comes before such a text is rewritten without it. -/
theorem EndsBefore.everywhere (h : rule.EndsBefore rest) (front : List Char)
    (before : Option Char) {skip : Nat} (hskip : skip ≤ front.length) :
    ∃ front', everywhere rule before skip (front ++ rest) =
      front' ++ everywhere rule (lastOf before front) 0 rest := by
  induction front generalizing before skip with
  | nil => exact ⟨[], by rw [Nat.le_zero.mp hskip]; rfl⟩
  | cons c front ih =>
    rw [List.cons_append, lastOf_cons]
    cases skip with
    | succ skip => exact ih (some c) (Nat.le_of_succ_le_succ hskip)
    | zero =>
      rw [Replacer.everywhere]
      cases hrule : rule before (c :: (front ++ rest)) with
      | none =>
        obtain ⟨front', hfront'⟩ := ih (some c) (Nat.zero_le _)
        exact ⟨c :: front', congrArg (c :: ·) hfront'⟩
      | some pair =>
        obtain ⟨left, hleft⟩ := h before (c :: front) _ _ (by simp) hrule
        have hextra : extra (front ++ rest) pair.2 ≤ front.length := by
          rw [extra, ← hleft, List.length_append, List.length_append]
          omega
        obtain ⟨front', hfront'⟩ := ih (some c) hextra
        exact ⟨pair.1 ++ front', by rw [List.append_assoc, ← hfront']⟩

theorem EndsBefore.once (h : rule.EndsBefore rest) (front : List Char) (before : Option Char) :
    (∃ front', once rule before (front ++ rest) = front' ++ rest) ∨
      once rule before (front ++ rest) = front ++ once rule (lastOf before front) rest := by
  induction front generalizing before with
  | nil => exact .inr rfl
  | cons c front ih =>
    rw [List.cons_append, Replacer.once, lastOf_cons]
    cases hrule : rule before (c :: (front ++ rest)) with
    | some pair =>
      obtain ⟨left, hleft⟩ := h before (c :: front) _ _ (by simp) hrule
      exact .inl ⟨pair.1 ++ left, by rw [List.append_assoc, hleft]⟩
    | none =>
      rcases ih (some c) with ⟨front', hfront'⟩ | hnone
      · exact .inl ⟨c :: front', congrArg (c :: ·) hfront'⟩
      · exact .inr (congrArg (c :: ·) hnone)

/-- A part in the middle of a text stays where it is if the rule applies nowhere in it and does not
reach into it; what comes after it is rewritten by itself. -/
theorem everywhere_around (hends : rule.EndsBefore (part ++ rest)) (hsilent : rule.Silent part rest)
    (front : List Char) (before : Option Char) :
    ∃ front', everywhere rule before 0 (front ++ (part ++ rest)) =
      front' ++ (part ++ everywhere rule (lastOf (lastOf before front) part) 0 rest) := by
  obtain ⟨front', hfront'⟩ := hends.everywhere front before (Nat.zero_le _)
  exact ⟨front', by rw [hfront', hsilent.everywhere]⟩

theorem once_around (hends : rule.EndsBefore (part ++ rest)) (hsilent : rule.Silent part rest)
    (front : List Char) (before : Option Char) :
    (∃ front', once rule before (front ++ (part ++ rest)) = front' ++ (part ++ rest)) ∨
      once rule before (front ++ (part ++ rest)) =
        front ++ (part ++ once rule (lastOf (lastOf before front) part) rest) := by
  rw [← hsilent.once]
  exact hends.once front before

/-- What comes before a text does not matter to a rule that does not look at it. -/
theorem once_before (h : ∀ before before' s, rule before s = rule before' s)
    (before before' : Option Char) (s : List Char) : once rule before s = once rule before' s := by
  cases s with
  | nil => rfl
  | cons c s => rw [once, once, h before before']

/-- A fixed text stands for another one. -/
def fixed (part replacement : List Char) : Replacer := fun before s =>
  (literal part before s).map (replacement, ·)

theorem fixed_eq_some_iff {s text : List Char} :
    fixed part replacement before s = some (text, rest) ↔
      s = part ++ rest ∧ text = replacement := by
  simp only [fixed, literal, Option.map_eq_some_iff, after?_eq_some_iff, Prod.mk.injEq]
  constructor
  · rintro ⟨left, hsplit, rfl, rfl⟩
    exact ⟨hsplit, rfl⟩
  · rintro ⟨hsplit, rfl⟩
    exact ⟨rest, hsplit, rfl, rfl⟩

theorem fixed_stopsAt {stop : Char} (hpart : part ≠ []) (hstop : stop ∉ part)
    (clean : stop ∉ replacement) : (fixed part replacement).StopsAt stop :=
  (literal_stopsAt hstop hpart).replaced clean

theorem silent_fixed {text : List Char} (h : Absent part text rest) (replacement : List Char) :
    (fixed part replacement).Silent text rest :=
  silent_of_absent [part] (fun hrule => ⟨part, List.mem_singleton_self part, _,
    (fixed_eq_some_iff.mp hrule).1.symm⟩) fun head hhead => by rwa [List.mem_singleton.mp hhead]

theorem endsBefore_fixed {head : List Char} (h : Apart part head) (replacement rest : List Char) :
    (fixed part replacement).EndsBefore (head ++ rest) :=
  endsBefore_of_apart (fun hrule => ⟨part, h, (fixed_eq_some_iff.mp hrule).1⟩) rest

end Replacer

section Fixed

variable {part s front rest : List Char}

theorem replaceEvery_eq (part replacement s : List Char) :
    replaceEvery part replacement s = (Replacer.fixed part replacement).everywhere none 0 s := rfl

/-- Replacing the first occurrence of a part. -/
theorem FirstAt.replaceFirst (h : FirstAt part s front rest) (hpart : part ≠ [])
    (replacement : List Char) :
    replaceFirst part replacement s = front ++ (replacement ++ rest) := by
  have habsent : Absent part front (part ++ rest) := fun _ => h.not_prefix
  have hrule (before : Option Char) : Replacer.fixed part replacement before (part ++ rest) =
      some (replacement, rest) := Replacer.fixed_eq_some_iff.mpr ⟨rfl, rfl⟩
  rw [replaceFirst_eq_once hpart, h.split]
  exact ((Replacer.silent_fixed habsent replacement).once none).trans
    (congrArg (front ++ ·) (Replacer.once_of_rule (hrule _) (by simp [hpart])))

theorem replaceFirst_of_not_infix (h : ¬part <:+: s) (replacement : List Char) :
    replaceFirst part replacement s = s := by
  induction s with
  | nil =>
    cases part with
    | nil => exact absurd List.nil_infix h
    | cons c part => rfl
  | cons c s ih =>
    rw [List.infix_cons_iff, not_or] at h
    rw [replaceFirst, after?_eq_none_iff.mpr h.1, ih h.2]

/-- A text in which the part is not to be read stays; the first occurrence comes before or after
it. -/
theorem replaceFirst_around {head back replacement : List Char} (hpart : part ≠ [])
    (hhead : Apart part head) (h : Absent part (head ++ back) rest) (front : List Char) :
    (∃ front', replaceFirst part replacement (front ++ (head ++ back ++ rest)) =
      front' ++ (head ++ back ++ rest)) ∨
    replaceFirst part replacement (front ++ (head ++ back ++ rest)) =
      front ++ (head ++ back ++ replaceFirst part replacement rest) := by
  have hends : (Replacer.fixed part replacement).EndsBefore (head ++ back ++ rest) := by
    rw [List.append_assoc]
    exact Replacer.endsBefore_fixed hhead replacement _
  have hreplace (s : List Char) : replaceFirst part replacement s =
      (Replacer.fixed part replacement).once none s := replaceFirst_eq_once hpart replacement s
  simp only [hreplace]
  rcases Replacer.once_around hends (Replacer.silent_fixed h replacement) front none with
    hfront | hnone
  · exact .inl hfront
  · exact .inr (by rw [hnone, Replacer.once_before (fun _ _ _ => rfl) _ none])

end Fixed

end ComponentCompiler.Text
