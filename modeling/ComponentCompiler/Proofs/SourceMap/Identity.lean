import ComponentCompiler.Proofs.SourceMap.Dropping
import ComponentCompiler.Proofs.SourceMap.Embedding
import ComponentCompiler.Proofs.SourceMap.Order

/-!
# The map of a text that is taken as it stands

The map of a single source maps every line that is not blank to itself. A position traces to the
start of its own line if that line has more than blanks, and to nothing otherwise: the mapping of
an earlier line is never taken for it (`trace_identity_eq_some_iff`,
`trace_identity_eq_nothing_iff`). Numbers of lines are counted as far as maps count; in a text with
fewer lines they are the places of the lines (`hasLine_iff_of_few`). The map is read back from a
text at whose end it is embedded (`exists_read_identity`).
-/

namespace ComponentCompiler.SourceMap

open Text

variable {file content : String} {line column : UInt32} {location : Location} {m : Mapping}

/-- What maps a line, counted from zero, to itself. -/
def lineMapping (number : Nat) : Mapping :=
  ⟨UInt32.ofNat number, 0, UInt32.ofNat number, 0, some 0, none, false⟩

/-- A text has a line with this number, counted from one, and there is more than blanks on it. -/
def HasLine (content : String) (line : UInt32) : Prop :=
  line ≠ 0 ∧ ∃ (k : Nat) (text : List Char), (pieces '\n' content.toList)[k]? = some text ∧
    isBlankText text = false ∧ UInt32.ofNat (k + 1) = line

/-- The lines that are not blank are mapped, each with its number. -/
theorem go_eq (number : Nat) (lines : List (List Char)) :
    identity.go number lines =
      ((lines.zipIdx number).filter (!isBlankText ·.1)).map (lineMapping ·.2) := by
  fun_induction identity.go number lines with
  | case1 => rfl
  | case2 number line rest hblank ih => simp [List.zipIdx_cons, hblank, ih]
  | case3 number line rest here hblank ih => simp [List.zipIdx_cons, hblank, ih, lineMapping, here]

theorem mem_mappings_identity :
    m ∈ (identity file content).mappings ↔ ∃ (k : Nat) (text : List Char),
      (pieces '\n' content.toList)[k]? = some text ∧ isBlankText text = false ∧
        m = lineMapping k := by
  rw [identity, go_eq, List.mem_map]
  constructor
  · rintro ⟨⟨text, k⟩, hmem, rfl⟩
    obtain ⟨hk, hfilled⟩ := List.mem_filter.mp hmem
    exact ⟨k, text, List.mem_zipIdx_iff_getElem?.mp hk, by simpa using hfilled, rfl⟩
  · rintro ⟨k, text, hk, hfilled, rfl⟩
    exact ⟨(text, k), List.mem_filter.mpr ⟨List.mem_zipIdx_iff_getElem?.mpr hk, by simp [hfilled]⟩,
      rfl⟩

theorem plain_identity : ∀ m ∈ (identity file content).mappings, m.isRange = false := by
  intro m hm
  obtain ⟨k, -, -, -, rfl⟩ := mem_mappings_identity.mp hm
  rfl

theorem line_eq_of_ofNat {k : Nat} (h : UInt32.ofNat k = line - 1) :
    UInt32.ofNat (k + 1) = line := by
  rw [UInt32.ofNat_add, h]
  exact UInt32.sub_add_cancel line 1

/-- A mapping on the line of a position leads to that line, whose number is not beyond all
numbers. -/
theorem locate_identity {k : Nat} (hline : line ≠ 0) (h : (lineMapping k).line = line - 1) :
    (identity file content).locate (lineMapping k) column = some (some ⟨file, line, 0, none⟩) := by
  have hnext : wordSum? (lineMapping k).sourceLine 1 = some line := by
    have hpos : line.toNat ≠ 0 := fun hzero => hline (UInt32.toNat_inj.mp hzero)
    have hback : (line - 1).toNat = line.toNat - 1 :=
      UInt32.toNat_sub_of_le _ _ (UInt32.le_iff_toNat_le.mpr (Nat.one_le_iff_ne_zero.mpr hpos))
    have hbound := line.toNat_lt
    change wordSum? (lineMapping k).line 1 = some line
    rw [h, wordSum?_of_lt (by rw [hback, UInt32.toNat_one]; omega), UInt32.sub_add_cancel]
  have hsource : (identity file content).sourceOf (lineMapping k) = some file := rfl
  simp only [locate, hsource, hnext, Mapping.columnAt?_of_plain (m := lineMapping k) rfl]
  rfl

theorem trace_identity_of_hasLine (h : HasLine content line) (column : UInt32) :
    (identity file content).trace line column = some (some ⟨file, line, 0, none⟩) := by
  obtain ⟨hline, k, text, hk, hfilled, hnumber⟩ := h
  have hmem : lineMapping k ∈ (identity file content).mappings :=
    mem_mappings_identity.mpr ⟨k, text, hk, hfilled, rfl⟩
  have hk' : (lineMapping k).line = line - 1 := by
    rw [← hnumber, UInt32.ofNat_add]
    exact (UInt32.add_sub_cancel _ 1).symm
  obtain ⟨n, hn, hnline⟩ :=
    exists_nearest_of_line hmem hk' (show (lineMapping k).column ≤ column from UInt32.zero_le)
  have hnearest := nearest_eq_some_iff.mp hn
  obtain ⟨j, -, -, -, rfl⟩ := mem_mappings_identity.mp hnearest.mem
  exact (trace_eq_iff_covering (by simp)).mpr ⟨hline, lineMapping j,
    covering_eq_some_iff.mpr ⟨hnearest, rfl, hnline⟩, locate_identity hline hnline⟩

theorem trace_identity_of_not_hasLine (h : ¬HasLine content line) (column : UInt32) :
    (identity file content).trace line column = some none := by
  by_contra hne
  obtain ⟨hline, m, hcovering, -⟩ := (trace_eq_iff_covering hne).mp rfl
  obtain ⟨hnearest, -, hm⟩ := covering_eq_some_iff.mp hcovering
  obtain ⟨k, text, hk, hfilled, rfl⟩ := mem_mappings_identity.mp hnearest.mem
  exact h ⟨hline, k, text, hk, hfilled, line_eq_of_ofNat hm⟩

/-- A position traces to the start of its own line, if there is more than blanks on it. -/
theorem trace_identity_eq_some_iff :
    (identity file content).trace line column = some (some location) ↔
      HasLine content line ∧ location = ⟨file, line, 0, none⟩ := by
  by_cases h : HasLine content line
  · simp [trace_identity_of_hasLine h, h, eq_comm]
  · simp [trace_identity_of_not_hasLine h, h]

/-- A position traces to nothing, if there are only blanks on its line. -/
theorem trace_identity_eq_nothing_iff :
    (identity file content).trace line column = some none ↔ ¬HasLine content line := by
  by_cases h : HasLine content line
  · simp [trace_identity_of_hasLine h, h]
  · simp [trace_identity_of_not_hasLine h, h]

/-- In a text with few lines, the number of a line is its place. -/
theorem hasLine_iff_of_few (few : newlines content.toList < 2 ^ 32) :
    HasLine content line ↔ line ≠ 0 ∧ ∃ text,
      (pieces '\n' content.toList)[line.toNat - 1]? = some text ∧ isBlankText text = false := by
  refine and_congr_right fun hline => ?_
  have hpositive : 0 < line.toNat :=
    Nat.pos_of_ne_zero fun h => hline (UInt32.toNat_inj.mp h)
  constructor
  · rintro ⟨k, text, hk, hfilled, rfl⟩
    have hlt := (List.getElem?_eq_some_iff.mp hk).1
    rw [length_pieces_newline] at hlt
    -- The last line of a text with the most lines would have the number zero.
    have hfits : k + 1 < 2 ^ 32 := by
      by_contra hnot
      obtain rfl : k = 2 ^ 32 - 1 := by omega
      exact hline (by decide)
    rw [UInt32.toNat_ofNat_of_lt' hfits]
    exact ⟨text, hk, hfilled⟩
  · rintro ⟨text, hk, hfilled⟩
    refine ⟨line.toNat - 1, text, hk, hfilled, ?_⟩
    rw [Nat.sub_add_cancel hpositive]
    exact UInt32.ofNat_toNat

/-- The map of a text with few lines is read back from the end of any text. -/
theorem exists_read_identity (file : String) (few : newlines content.toList < 2 ^ 32) :
    ∃ read : SourceMap,
      (∀ code, extract (code ++ "\n\n" ++ (identity file content).comment ++ "\n") =
        .ok (some read)) ∧
      ∀ line column, read.trace line column = (identity file content).trace line column := by
  obtain ⟨hsource, hname, hdebugId⟩ := sound_identity file content
  have hlines : (pieces '\n' content.toList).length ≤ 2 ^ 32 := by
    rw [length_pieces_newline]
    exact few
  have hone : (identity file content).rawSources.length < 2 ^ 32 := Nat.one_lt_two_pow (by decide)
  have hnumbered : ∀ m ∈ (identity file content).mappings,
      (identity file content).Numbered m := fun m hm =>
    ⟨fun id hid => ⟨hsource m hm id hid, Nat.lt_trans (hsource m hm id hid) hone⟩,
      fun id hid => absurd (hname m hm id hid) (Nat.not_lt_zero id)⟩
  obtain ⟨mappings, hmappings, hsettled⟩ :=
    exists_decodeMappings (isOrdered_identity hlines) plain_identity hnumbered
  have hbytes : ofBytes (identity file content).text.toUTF8.toList =
      .ok ((identity file content).reread mappings) := by
    rw [ofBytes_text, toJson_eq]
    exact ofJson_of_perm hdebugId (.refl _) hmappings
  exact ⟨_, extract_comment hbytes, trace_eq_of_mappings rfl rfl hsettled⟩

end ComponentCompiler.SourceMap
