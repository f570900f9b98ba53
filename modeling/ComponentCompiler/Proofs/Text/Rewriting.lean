import ComponentCompiler.Proofs.Text.Scan

/-!
# Rewriting line by line

A rule that stops at a character (`Replacer.StopsAt`) reads nothing beyond it, starts afresh after
it and never writes it. Such a rule treats the texts on both sides of the character as if each
stood alone, so a rule that stops at line feeds rewrites every line by itself. `KeepsLines` says
what is left of a text then: as many lines as before, and each line that no pattern matches.
-/

namespace ComponentCompiler.Text

/-- A scanner that recognises no text that goes beyond a character, and to which the character is
as good as the start of the text. -/
structure Scanner.StopsAt (stop : Char) (scan : Scanner) : Prop where
  restarts : ∀ s, scan (some stop) s = scan none s
  stays : ∀ before s t, scan before (s ++ stop :: t) = (scan before s).map (· ++ stop :: t)
  consumes : ∀ {before s rest}, scan before s = some rest → ∃ part, part ≠ [] ∧ s = part ++ rest

/-- What a replacer recognises. -/
def Replacer.scan (rule : Replacer) : Scanner := fun before s => (rule before s).map Prod.snd

/-- A replacer that recognises no text that goes beyond a character, to which the character is as
good as the start of the text, and that never writes it. -/
structure Replacer.StopsAt (stop : Char) (rule : Replacer) : Prop where
  restarts : ∀ s, rule (some stop) s = rule none s
  stays : ∀ before s t,
    rule before (s ++ stop :: t) = (rule before s).map (Prod.map id (· ++ stop :: t))
  consumes : ∀ {before s replacement rest}, rule before s = some (replacement, rest) →
    ∃ part, part ≠ [] ∧ s = part ++ rest
  clean : ∀ {before s replacement rest}, rule before s = some (replacement, rest) →
    stop ∉ replacement

variable {stop : Char}

namespace Scanner.StopsAt

variable {scan : Scanner}

theorem nothing (h : StopsAt stop scan) (before : Option Char) : scan before [] = none := by
  cases hscan : scan before [] with
  | none => rfl
  | some rest =>
      obtain ⟨part, hne, hpart⟩ := h.consumes hscan
      exact absurd (List.append_eq_nil_iff.mp hpart.symm).1 hne

/-- A fixed text in place of what a scanner recognises. -/
theorem replaced (h : StopsAt stop scan) {replacement : List Char} (clean : stop ∉ replacement) :
    Replacer.StopsAt stop (fun before s => (scan before s).map (replacement, ·)) where
  restarts s := by simp only [h.restarts]
  stays before s t := by simp [h.stays, Function.comp_def]
  consumes hrule := by
    obtain ⟨rest, hrest, hpair⟩ := Option.map_eq_some_iff.mp hrule
    obtain ⟨-, rfl⟩ := Prod.mk.inj hpair
    exact h.consumes hrest
  clean hrule := by
    obtain ⟨rest, hrest, hpair⟩ := Option.map_eq_some_iff.mp hrule
    obtain ⟨rfl, -⟩ := Prod.mk.inj hpair
    exact clean

end Scanner.StopsAt

namespace Replacer

variable {rule : Replacer}

theorem StopsAt.scan (h : StopsAt stop rule) : Scanner.StopsAt stop rule.scan where
  restarts s := by simp only [Replacer.scan, h.restarts]
  stays before s t := by simp [Replacer.scan, h.stays, Function.comp_def]
  consumes hscan := by
    obtain ⟨⟨replacement, rest⟩, hrule, rfl⟩ := Option.map_eq_some_iff.mp hscan
    exact h.consumes hrule

theorem scan_eq_none_iff {before : Option Char} {s : List Char} :
    rule.scan before s = none ↔ rule before s = none := by
  simp [scan]

/-- Where nothing is recognised, replacing changes nothing. -/
theorem everywhere_of_not_found {before : Option Char} {s : List Char}
    (h : found rule.scan before s = false) : everywhere rule before 0 s = s := by
  induction s generalizing before with
  | nil => rfl
  | cons c s ih =>
      simp only [found, Bool.or_eq_false_iff, Option.isSome_eq_false_iff,
        Option.isNone_iff_eq_none, scan_eq_none_iff] at h
      rw [everywhere, h.1]
      exact congrArg (c :: ·) (ih h.2)

theorem once_of_not_found {before : Option Char} {s : List Char}
    (h : found rule.scan before s = false) : once rule before s = s := by
  induction s generalizing before with
  | nil => rfl
  | cons c s ih =>
      simp only [found, Bool.or_eq_false_iff, Option.isSome_eq_false_iff,
        Option.isNone_iff_eq_none, scan_eq_none_iff] at h
      rw [once, h.1]
      exact congrArg (c :: ·) (ih h.2)

theorem StopsAt.everywhere_stop (h : StopsAt stop rule) (s : List Char) :
    everywhere rule (some stop) 0 s = everywhere rule none 0 s := by
  cases s with
  | nil => rfl
  | cons c s => rw [everywhere, everywhere, h.restarts]

theorem StopsAt.once_stop (h : StopsAt stop rule) (s : List Char) :
    once rule (some stop) s = once rule none s := by
  cases s with
  | nil => rfl
  | cons c s => rw [once, once, h.restarts]

private theorem StopsAt.at_stop (h : StopsAt stop rule) (before : Option Char) (t : List Char) :
    rule before (stop :: t) = none := by
  have hstop := h.stays before [] t
  rwa [scan_eq_none_iff.mp (h.scan.nothing before), Option.map_none] at hstop

/-- Replacing everywhere is replacing on both sides of the character. -/
theorem StopsAt.everywhere_append (h : StopsAt stop rule) (before : Option Char) {skip : Nat}
    (s t : List Char) (inside : skip ≤ s.length) :
    everywhere rule before skip (s ++ stop :: t) =
      everywhere rule before skip s ++ stop :: everywhere rule none 0 t := by
  induction s generalizing before skip with
  | nil =>
      obtain rfl : skip = 0 := by simpa using inside
      simp only [List.nil_append, everywhere, h.at_stop, h.everywhere_stop]
  | cons c s ih =>
      cases skip with
      | succ skip => exact ih (some c) (Nat.le_of_succ_le_succ inside)
      | zero =>
          have hcons := h.stays before (c :: s) t
          rw [List.cons_append] at hcons
          rw [List.cons_append, everywhere, everywhere, hcons]
          cases hrule : rule before (c :: s) with
          | none => exact congrArg (c :: ·) (ih (some c) (Nat.zero_le _))
          | some pair =>
              obtain ⟨replacement, rest⟩ := pair
              have hextra : extra (s ++ stop :: t) (rest ++ stop :: t) = extra s rest := by
                simp only [extra, List.length_append]
                omega
              have hskip : extra s rest ≤ s.length := Nat.sub_le _ _
              simp only [Option.map_some, Prod.map_apply, id, hextra, ih (some c) hskip,
                List.append_assoc]

/-- Replacing the first part takes place before the character if there is one to replace, else
after it. -/
theorem StopsAt.once_append (h : StopsAt stop rule) (before : Option Char) (s t : List Char) :
    once rule before (s ++ stop :: t) =
      if found rule.scan before s then once rule before s ++ stop :: t
      else s ++ stop :: once rule none t := by
  induction s generalizing before with
  | nil =>
      simp only [List.nil_append, once, h.at_stop, h.once_stop, found, Bool.false_eq_true,
        if_false]
  | cons c s ih =>
      have hcons := h.stays before (c :: s) t
      rw [List.cons_append] at hcons
      rw [List.cons_append, once, once, hcons, found, Replacer.scan]
      cases hrule : rule before (c :: s) with
      | none =>
          simp only [Option.map_none, Option.isSome_none, Bool.false_or, ih]
          split <;> rfl
      | some pair => simp

/-- Replacing everywhere does not write the character. -/
theorem StopsAt.not_mem_everywhere (h : StopsAt stop rule) {before : Option Char} {skip : Nat}
    {s : List Char} (hs : stop ∉ s) : stop ∉ everywhere rule before skip s := by
  induction s generalizing before skip with
  | nil => simp [everywhere_nil]
  | cons c s ih =>
      have ih := fun {before skip} => @ih before skip (List.not_mem_of_not_mem_cons hs)
      cases skip with
      | succ skip => exact ih
      | zero =>
          rw [everywhere]
          cases hrule : rule before (c :: s) with
          | none => simpa using ⟨List.ne_of_not_mem_cons hs, ih⟩
          | some pair => simpa using ⟨h.clean hrule, ih⟩

theorem StopsAt.not_mem_once (h : StopsAt stop rule) {before : Option Char} {s : List Char}
    (hs : stop ∉ s) : stop ∉ once rule before s := by
  induction s generalizing before with
  | nil => simp [once]
  | cons c s ih =>
      rw [once]
      cases hrule : rule before (c :: s) with
      | none => simpa using ⟨List.ne_of_not_mem_cons hs, ih (List.not_mem_of_not_mem_cons hs)⟩
      | some pair =>
          obtain ⟨part, -, hpart⟩ := h.consumes hrule
          have hrest : stop ∉ pair.2 := fun hmem => hs (by rw [hpart]; simp [hmem])
          simpa using ⟨h.clean hrule, hrest⟩

/-- A replacer that writes something for everything that it recognises. -/
def Writes (rule : Replacer) : Prop :=
  ∀ before s replacement rest, rule before s = some (replacement, rest) → replacement ≠ []

theorem Writes.everywhere_ne_nil (h : Writes rule) (before : Option Char) {s : List Char}
    (hs : s ≠ []) : everywhere rule before 0 s ≠ [] := by
  cases s with
  | nil => exact absurd rfl hs
  | cons c s =>
      rw [everywhere]
      cases hrule : rule before (c :: s) with
      | none => simp
      | some pair => simp [h before (c :: s) pair.1 pair.2 hrule]

/-- A rule that stops at the separator rewrites every piece by itself. -/
theorem StopsAt.pieces_everywhere (h : StopsAt stop rule) (s : List Char) :
    pieces stop (everywhere rule none 0 s) = (pieces stop s).map (everywhere rule none 0) := by
  induction s using pieces_induction stop with
  | last s hs =>
      rw [pieces_of_not_mem hs, pieces_of_not_mem (h.not_mem_everywhere hs), List.map_singleton]
  | more s t hs ih =>
      rw [h.everywhere_append none s t (Nat.zero_le _), pieces_append_of_not_mem hs,
        pieces_append_of_not_mem (h.not_mem_everywhere hs), ih, List.map_cons]

end Replacer

/-- A text was rewritten within its lines: their number is the same, and every line that no pattern
matches is where it was. -/
structure KeepsLines (patterns : List Scanner) (before after : List Char) : Prop where
  number : newlines after = newlines before
  unmatched : ∀ (k : Nat) (line : List Char), (pieces '\n' before)[k]? = some line →
    (∀ scan ∈ patterns, found scan none line = false) → (pieces '\n' after)[k]? = some line

namespace KeepsLines

variable {patterns more : List Scanner} {a b c : List Char}

theorem refl (patterns : List Scanner) (a : List Char) : KeepsLines patterns a a :=
  ⟨rfl, fun _ _ h _ => h⟩

theorem trans (h : KeepsLines patterns a b) (h' : KeepsLines patterns b c) :
    KeepsLines patterns a c :=
  ⟨h'.number.trans h.number, fun k line hk hline =>
    h'.unmatched k line (h.unmatched k line hk hline) hline⟩

theorem mono (h : KeepsLines patterns a b) (sub : patterns ⊆ more) : KeepsLines more a b :=
  ⟨h.number, fun k line hk hline => h.unmatched k line hk fun scan hscan => hline scan (sub hscan)⟩

/-- Within one line. -/
theorem line (ha : '\n' ∉ a) (hb : '\n' ∉ b)
    (same : (∀ scan ∈ patterns, found scan none a = false) → b = a) : KeepsLines patterns a b where
  number := by rw [newlines, newlines, List.count_eq_zero.mpr ha, List.count_eq_zero.mpr hb]
  unmatched k line hk hline := by
    rw [pieces_of_not_mem ha] at hk
    obtain rfl : a = line := by
      cases k with
      | zero => simpa using hk
      | succ k => simp at hk
    rwa [same hline, pieces_of_not_mem ha]

/-- Two rewritten texts below each other. -/
theorem append {a' b' : List Char} (h : KeepsLines patterns a a') (h' : KeepsLines patterns b b') :
    KeepsLines patterns (a ++ '\n' :: b) (a' ++ '\n' :: b') where
  number := by
    have hnumber := h.number
    have hnumber' := h'.number
    simp only [newlines] at hnumber hnumber'
    simp [newlines, hnumber, hnumber']
  unmatched k line hk hline := by
    have hlength : (pieces '\n' a').length = (pieces '\n' a).length := by
      rw [length_pieces_newline, length_pieces_newline, h.number]
    rw [pieces_append, List.getElem?_append] at hk ⊢
    rw [hlength]
    split at hk
    · rw [if_pos ‹_›]
      exact h.unmatched k line hk hline
    · rw [if_neg ‹_›]
      exact h'.unmatched _ line hk hline

/-- Replacing everywhere keeps the lines if the rule stops at line feeds. -/
theorem everywhere {rule : Replacer} (h : rule.StopsAt '\n') (listed : rule.scan ∈ patterns)
    (s : List Char) : KeepsLines patterns s (rule.everywhere none 0 s) := by
  induction s using pieces_induction '\n' with
  | last s hs =>
      exact line hs (h.not_mem_everywhere hs) fun hline =>
        Replacer.everywhere_of_not_found (hline _ listed)
  | more s t hs ih =>
      rw [h.everywhere_append none s t (Nat.zero_le _)]
      refine append (line hs (h.not_mem_everywhere hs) fun hline => ?_) ih
      exact Replacer.everywhere_of_not_found (hline _ listed)

/-- So does replacing the first part. -/
theorem once {rule : Replacer} (h : rule.StopsAt '\n') (listed : rule.scan ∈ patterns)
    (s : List Char) : KeepsLines patterns s (rule.once none s) := by
  induction s using pieces_induction '\n' with
  | last s hs =>
      exact line hs (h.not_mem_once hs) fun hline => Replacer.once_of_not_found (hline _ listed)
  | more s t hs ih =>
      rw [h.once_append]
      split
      · refine append (line hs (h.not_mem_once hs) fun hline => ?_) (refl patterns t)
        exact Replacer.once_of_not_found (hline _ listed)
      · exact append (refl patterns s) ih

end KeepsLines

/-- A fixed text as a pattern. -/
def literal (part : List Char) : Scanner := fun _ s => after? part s

theorem literal_stopsAt {part : List Char} (hstop : stop ∉ part) (hpart : part ≠ []) :
    (literal part).StopsAt stop where
  restarts _ := rfl
  stays _ s t := after?_append hstop s t
  consumes h := ⟨part, hpart, eq_of_after? h⟩

theorem replaceFirst_ne_nil {part replacement s : List Char} (hs : s ≠ [])
    (writes : replacement ≠ []) : replaceFirst part replacement s ≠ [] := by
  cases s with
  | nil => exact absurd rfl hs
  | cons c s =>
      rw [replaceFirst]
      cases after? part (c :: s) with
      | none => simp
      | some rest => simp [writes]

theorem replaceFirst_eq_once {part : List Char} (hpart : part ≠ []) (replacement s : List Char) :
    replaceFirst part replacement s =
      Replacer.once (fun before s => (literal part before s).map (replacement, ·)) none s := by
  generalize none = before
  induction s generalizing before with
  | nil => simp [replaceFirst, Replacer.once, hpart]
  | cons c s ih =>
      rw [replaceFirst, Replacer.once, literal]
      cases after? part (c :: s) with
      | none => exact congrArg (c :: ·) (ih (some c))
      | some rest => rfl

end ComponentCompiler.Text
