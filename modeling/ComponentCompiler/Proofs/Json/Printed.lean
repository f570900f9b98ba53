import ComponentCompiler.Json.Printer
import ComponentCompiler.Proofs.Json.Canonical
import ComponentCompiler.Proofs.Json.Numbers

/-!
# The compact form has no control characters

All that is written of a value in the compact form is printed characters (`isPrinted_chars`):
control characters in its texts and keys are escaped, and none stand between them. So the compact
form is one line.
-/

namespace ComponentCompiler.Json

/-- A character that is no control character below the blank. -/
def IsPrinted (c : Char) : Prop := 0x20 ≤ c.toNat

instance : DecidablePred IsPrinted := fun c => inferInstanceAs (Decidable (0x20 ≤ c.toNat))

section Scalars

/-- A written text is checked as a whole. -/
theorem isPrinted_of_all {s : List Char} (h : s.all (fun c => decide (IsPrinted c))) :
    ∀ c ∈ s, IsPrinted c := fun c hc => of_decide_eq_true (List.all_eq_true.mp h c hc)

theorem isPrinted_escapeChar (c : Char) : ∀ d ∈ escapeChar c, IsPrinted d := by
  unfold escapeChar
  split
  · rename_i entry letter hfind
    have hall : shortEscapes.all fun entry => decide (IsPrinted entry.2) := by decide
    have hletter := List.all_eq_true.mp hall _ (List.mem_of_find?_eq_some hfind)
    exact List.forall_mem_cons.mpr ⟨by decide, List.forall_mem_singleton.mpr
      (of_decide_eq_true hletter)⟩
  · split
    · rename_i hcontrol
      have hhex : ∀ n < 16, IsPrinted (hexDigit n) := by decide
      have hhigh : IsPrinted (hexDigit (c.toNat / 16)) := hhex _ (by omega)
      have hlow : IsPrinted (hexDigit (c.toNat % 16)) := hhex _ (by omega)
      simp only [List.forall_mem_cons]
      exact ⟨by decide, by decide, by decide, by decide, hhigh, hlow, nofun⟩
    · rename_i hprinted
      exact List.forall_mem_singleton.mpr (Nat.le_of_not_lt hprinted)

theorem isPrinted_quoted (s : String) : ∀ c ∈ quoted s, IsPrinted c := by
  have hbody : ∀ c ∈ s.toList.flatMap escapeChar, IsPrinted c := by
    intro c hc
    obtain ⟨d, -, hd⟩ := List.mem_flatMap.mp hc
    exact isPrinted_escapeChar d c hd
  simp only [quoted, List.cons_append, List.forall_mem_cons, List.forall_mem_append]
  exact ⟨by decide, hbody, by decide, nofun⟩

theorem isPrinted_toDigits (n : Nat) : ∀ c ∈ Nat.toDigits 10 n, IsPrinted c := by
  intro c hc
  have hdigit := isDigit_of_mem_toDigits hc
  simp only [isDigit, Bool.and_eq_true, decide_eq_true_eq] at hdigit
  have hzero : '0'.toNat ≤ c.toNat := hdigit.1
  exact Nat.le_trans (by decide) hzero

theorem isPrinted_integerChars (i : Int) : ∀ c ∈ integerChars i, IsPrinted c := by
  unfold integerChars
  split
  · exact List.forall_mem_cons.mpr ⟨by decide, isPrinted_toDigits i.natAbs⟩
  · exact isPrinted_toDigits i.natAbs

theorem isPrinted_replicate (n : Nat) : ∀ c ∈ List.replicate n '0', IsPrinted c := by
  intro c hc
  rw [List.eq_of_mem_replicate hc]
  decide

theorem isPrinted_positional (d : Decimal.Numeral) :
    ∀ c ∈ Decimal.positional d ['.', '0'], IsPrinted c := by
  have hdigits : ∀ c ∈ d.digitChars, IsPrinted c := isPrinted_toDigits d.digits
  unfold Decimal.positional
  dsimp only
  split
  · simp only [List.forall_mem_append]
    exact ⟨⟨hdigits, isPrinted_replicate _⟩, isPrinted_of_all (by decide)⟩
  · split
    · simp only [List.forall_mem_append, List.forall_mem_cons]
      exact ⟨fun c hc => hdigits c (List.mem_of_mem_take hc), by decide,
        fun c hc => hdigits c (List.mem_of_mem_drop hc)⟩
    · simp only [List.cons_append, List.forall_mem_append, List.forall_mem_cons]
      exact ⟨by decide, by decide, isPrinted_replicate _, hdigits⟩

theorem isPrinted_scientific (d : Decimal.Numeral) : ∀ c ∈ Decimal.scientific d, IsPrinted c := by
  have hdigits : ∀ c ∈ d.digitChars, IsPrinted c := isPrinted_toDigits d.digits
  unfold Decimal.scientific
  simp only [List.forall_mem_append, List.forall_mem_cons]
  refine ⟨?_, by decide, ?_, isPrinted_toDigits _⟩
  · split
    · exact isPrinted_of_all (by decide)
    · rename_i lead hchars
      rwa [hchars] at hdigits
    · rename_i lead rest hchars
      rw [hchars, List.forall_mem_cons] at hdigits
      simp only [List.forall_mem_cons]
      exact ⟨hdigits.1, by decide, hdigits.2⟩
  · split <;> decide

theorem isPrinted_floatChars (x : Binary64) : ∀ c ∈ floatChars x, IsPrinted c := by
  have hmagnitude : ∀ c ∈ (if x.mantissa = 0 || Decimal.isPositional (Decimal.shortest x) then
      Decimal.positional (Decimal.shortest x) ['.', '0'] else
      Decimal.scientific (Decimal.shortest x)), IsPrinted c := by
    split
    · exact isPrinted_positional _
    · exact isPrinted_scientific _
  unfold floatChars
  dsimp only
  split
  · exact List.forall_mem_cons.mpr ⟨by decide, hmagnitude⟩
  · exact hmagnitude

end Scalars

section Values

theorem isPrinted_itemChars {items : List Json}
    (h : ∀ item ∈ items, ∀ c ∈ item.chars, IsPrinted c) : ∀ c ∈ itemChars items, IsPrinted c := by
  induction items with
  | nil => exact nofun
  | cons item items ih =>
    obtain ⟨hitem, hitems⟩ := List.forall_mem_cons.mp h
    cases items with
    | nil => exact hitem
    | cons next rest =>
      simp only [itemChars, List.forall_mem_append, List.forall_mem_cons]
      exact ⟨hitem, by decide, ih hitems⟩

theorem isPrinted_memberChars {members : List (String × Json)}
    (h : ∀ member ∈ members, ∀ c ∈ member.2.chars, IsPrinted c) :
    ∀ c ∈ memberChars members, IsPrinted c := by
  induction members with
  | nil => exact nofun
  | cons member members ih =>
    obtain ⟨hmember, hmembers⟩ := List.forall_mem_cons.mp h
    cases members with
    | nil =>
      simp only [memberChars, List.forall_mem_append, List.forall_mem_cons]
      exact ⟨isPrinted_quoted _, by decide, hmember⟩
    | cons next rest =>
      simp only [memberChars, List.forall_mem_append, List.forall_mem_cons]
      exact ⟨⟨isPrinted_quoted _, by decide, hmember⟩, by decide, ih hmembers⟩

/-- What is written of a value in the compact form is printed. -/
theorem isPrinted_chars (j : Json) : ∀ c ∈ j.chars, IsPrinted c := by
  induction j using values with
  | null => exact isPrinted_of_all (by decide)
  | bool b => cases b <;> exact isPrinted_of_all (by decide)
  | integer i => exact isPrinted_integerChars i
  | float x => exact isPrinted_floatChars x
  | text s => exact isPrinted_quoted s
  | array items ih =>
    simp only [chars, List.cons_append, List.forall_mem_cons, List.forall_mem_append]
    exact ⟨by decide, isPrinted_itemChars ih, by decide, nofun⟩
  | object members ih =>
    simp only [chars, List.cons_append, List.forall_mem_cons, List.forall_mem_append]
    exact ⟨by decide, isPrinted_memberChars ih, by decide, nofun⟩

end Values

end ComponentCompiler.Json
