import ComponentCompiler.Proofs.SourceMap.Settled
import ComponentCompiler.Proofs.SourceMap.Vlq
import ComponentCompiler.Proofs.Text.Lines
import ComponentCompiler.SourceMap.Decode
import ComponentCompiler.SourceMap.Encode

/-!
# Mappings that were written are read

The mappings of a map are one text, which is read from its start to its end with a column and a
cursor. `readOn` reads it on from any place between two segments, so that writing and reading go
side by side, one mapping at a time: the pen that writes and the cursor that reads agree all the
way (`Agrees`). What is read are the mappings that were written, but for repeated ones, which are
not written, and for what a mapping without a source says of sources (`exists_decodeMappings`).
-/

namespace ComponentCompiler

open Text

namespace SourceMap

/-- The numbers of a mapping stand in the tables of a map and have 32 bits. -/
structure Numbered (map : SourceMap) (m : Mapping) : Prop where
  source : ∀ id ∈ m.source, id < map.rawSources.length ∧ id < 2 ^ 32
  name : ∀ id ∈ m.name, id < map.names.length ∧ id < 2 ^ 32

/-- The pen that writes and the cursor that reads are at the same numbers. -/
structure Agrees (pen : Pen) (column : UInt32) (cursor : Cursor) : Prop where
  column : pen.column = column.toNat
  source : pen.source = cursor.source.toNat
  sourceLine : pen.sourceLine = cursor.sourceLine.toNat
  sourceColumn : pen.sourceColumn = cursor.sourceColumn.toNat
  name : pen.name = cursor.name.toNat

theorem agrees_start : Agrees {} 0 {} := ⟨rfl, rfl, rfl, rfl, rfl⟩

/-- A line starts at the first column. -/
theorem Agrees.newline {pen : Pen} {column : UInt32} {cursor : Cursor}
    (h : Agrees pen column cursor) (line : Nat) :
    Agrees { pen with line, column := 0 } 0 cursor :=
  ⟨rfl, h.source, h.sourceLine, h.sourceColumn, h.name⟩

/-- A difference that was written leads to the new number. -/
theorem advance_difference {x : UInt32} {new old : Nat} (hold : old = x.toNat)
    (hnew : new < 2 ^ 32) : advance x ((new : Int) - old) = UInt32.ofNat new := by
  have hsum : ((x.toNat : Int) + ((new : Int) - old)) % 2 ^ 32 = new := by omega
  rw [advance, hsum, Int.toNat_natCast]

theorem toNat_ofNat_of_small {n : Nat} (h : n < 2 ^ 32) : (UInt32.ofNat n).toNat = n :=
  UInt32.toNat_ofNat_of_lt' h

theorem small_difference {x : UInt32} {new old : Nat} (hold : old = x.toNat)
    (hnew : new < 2 ^ 32) : ((new : Int) - old).natAbs < 2 ^ 62 := by
  have hx := x.toNat_lt
  omega

/-- How a mapping is written and read: the differences after the one of the generated column, the
mapping that they are read as, and the cursor after it. -/
structure WrittenAs (map : SourceMap) (bounds : Bounds) (pen : Pen) (cursor : Cursor)
    (m : Mapping) (tail : List Int) (read : Mapping) (next : Cursor) : Prop where
  chars : (segmentChars map pen m).1 =
    Vlq.encodeAll (((m.column.toNat : Int) - pen.column) :: tail)
  small : ∀ n ∈ tail, n.natAbs < 2 ^ 62
  mapping : mappingOf bounds m.line m.column false cursor tail = .ok (read, next)
  agrees : Agrees (segmentChars map pen m).2 m.column next
  line : (segmentChars map pen m).2.line = pen.line
  settled : read.settled = m.settled

section Segment

variable {map : SourceMap} {bounds : Bounds} {pen : Pen} {column : UInt32} {cursor : Cursor}
  {m : Mapping}

/-- A mapping without a source is its column alone. -/
theorem writtenAs_of_source_none (h : Agrees pen column cursor) (hplain : m.isRange = false)
    (hsource : m.source = none) : WrittenAs map bounds pen cursor m []
      ⟨m.line, m.column, cursor.sourceLine, cursor.sourceColumn, none, none, false⟩ cursor where
  chars := by simp [segmentChars, hsource, difference, Vlq.encodeAll]
  small := List.forall_mem_nil _
  mapping := rfl
  agrees := by
    simp only [segmentChars, hsource]
    exact ⟨rfl, h.source, h.sourceLine, h.sourceColumn, h.name⟩
  line := by simp only [segmentChars, hsource]
  settled := by simp [Mapping.settled, hsource, hplain]

/-- A mapping with a source and without a name has four numbers. -/
theorem writtenAs_of_name_none (h : Agrees pen column cursor) (hplain : m.isRange = false)
    {id : Nat} (hsource : m.source = some id) (hbound : id < bounds.sources) (hid : id < 2 ^ 32)
    (hname : m.name = none) : WrittenAs map bounds pen cursor m
      [(id : Int) - pen.source, (m.sourceLine.toNat : Int) - pen.sourceLine,
        (m.sourceColumn.toNat : Int) - pen.sourceColumn] m
      { cursor with
        source := UInt32.ofNat id
        sourceLine := m.sourceLine
        sourceColumn := m.sourceColumn } where
  chars := by simp [segmentChars, namePart, hsource, hname, difference, Vlq.encodeAll]
  small := by
    simp only [List.forall_mem_cons]
    exact ⟨small_difference h.source hid, small_difference h.sourceLine m.sourceLine.toNat_lt,
      small_difference h.sourceColumn m.sourceColumn.toNat_lt, List.forall_mem_nil _⟩
  mapping := by
    have hnumber := toNat_ofNat_of_small hid
    simp only [mappingOf, advance_difference h.source hid,
      advance_difference h.sourceLine m.sourceLine.toNat_lt,
      advance_difference h.sourceColumn m.sourceColumn.toNat_lt, UInt32.ofNat_toNat, checked,
      hnumber, if_pos hbound]
    obtain ⟨line, mappingColumn, sourceLine, sourceColumn, source, name, isRange⟩ := m
    obtain rfl : source = some id := hsource
    obtain rfl : name = none := hname
    obtain rfl : isRange = false := hplain
    rfl
  agrees := by
    simp only [segmentChars, namePart, hsource, hname]
    exact ⟨rfl, (toNat_ofNat_of_small hid).symm, rfl, rfl, h.name⟩
  line := by simp only [segmentChars, hsource]
  settled := rfl

/-- A mapping with a source and a name has five numbers. -/
theorem writtenAs_of_name_some (h : Agrees pen column cursor) (hplain : m.isRange = false)
    {id nameId : Nat} (hsource : m.source = some id) (hbound : id < bounds.sources)
    (hid : id < 2 ^ 32) (hname : m.name = some nameId) (hknown : nameId < map.names.length)
    (hnameBound : nameId < bounds.names) (hnameId : nameId < 2 ^ 32) :
    WrittenAs map bounds pen cursor m
      [(id : Int) - pen.source, (m.sourceLine.toNat : Int) - pen.sourceLine,
        (m.sourceColumn.toNat : Int) - pen.sourceColumn, (nameId : Int) - pen.name] m
      ⟨UInt32.ofNat id, m.sourceLine, m.sourceColumn, UInt32.ofNat nameId⟩ := by
  have hnameOf : map.nameOf m = some map.names[nameId] := by
    rw [nameOf, hname, Option.bind_some, List.getElem?_eq_getElem hknown]
  have hpart : namePart map pen m = (difference nameId pen.name, nameId) := by
    rw [namePart, hname, hnameOf]
  constructor
  case chars => simp [segmentChars, hpart, hsource, difference, Vlq.encodeAll]
  case small =>
    simp only [List.forall_mem_cons]
    exact ⟨small_difference h.source hid, small_difference h.sourceLine m.sourceLine.toNat_lt,
      small_difference h.sourceColumn m.sourceColumn.toNat_lt, small_difference h.name hnameId,
      List.forall_mem_nil _⟩
  case mapping =>
    have hnumber := toNat_ofNat_of_small hid
    have hnameNumber := toNat_ofNat_of_small hnameId
    simp only [mappingOf, advance_difference h.source hid,
      advance_difference h.sourceLine m.sourceLine.toNat_lt,
      advance_difference h.sourceColumn m.sourceColumn.toNat_lt,
      advance_difference h.name hnameId, UInt32.ofNat_toNat, checked, hnumber, hnameNumber,
      if_pos hbound, if_pos hnameBound]
    obtain ⟨line, mappingColumn, sourceLine, sourceColumn, source, name, isRange⟩ := m
    obtain rfl : source = some id := hsource
    obtain rfl : name = some nameId := hname
    obtain rfl : isRange = false := hplain
    rfl
  case agrees =>
    simp only [segmentChars, hpart, hsource]
    exact ⟨rfl, (toNat_ofNat_of_small hid).symm, rfl, rfl, (toNat_ofNat_of_small hnameId).symm⟩
  case line => simp only [segmentChars, hpart, hsource]
  case settled => rfl

/-- Every mapping of a map is written in one of these ways. -/
theorem exists_writtenAs (h : Agrees pen column cursor) (hplain : m.isRange = false)
    (hnumbered : map.Numbered m) : ∃ tail read next,
      WrittenAs map ⟨map.rawSources.length, map.names.length⟩ pen cursor m tail read next := by
  cases hsource : m.source with
  | none => exact ⟨_, _, _, writtenAs_of_source_none h hplain hsource⟩
  | some id =>
      obtain ⟨hbound, hid⟩ := hnumbered.source id hsource
      cases hname : m.name with
      | none => exact ⟨_, _, _, writtenAs_of_name_none h hplain hsource hbound hid hname⟩
      | some nameId =>
          obtain ⟨hknown, hnameId⟩ := hnumbered.name nameId hname
          exact ⟨_, _, _,
            writtenAs_of_name_some h hplain hsource hbound hid hname hknown hknown hnameId⟩

end Segment

section ReadOn

/-- What is read of the rest of a line and of the lines after it. -/
def readLine (bounds : Bounds) (line : Nat) (column : UInt32) (cursor : Cursor)
    (first : List Char) (more : List (List Char)) : Except MapError (List Mapping) := do
  let (mappings, cursor) ← lineMappings bounds (UInt32.ofNat line) column cursor
    ((pieces ',' first).map (·, false))
  return mappings ++ (← linesMappings bounds (line + 1) cursor more [])

/-- What is read of the text of mappings from a place between two segments on. -/
def readOn (bounds : Bounds) (line : Nat) (column : UInt32) (cursor : Cursor)
    (text : List Char) : Except MapError (List Mapping) :=
  readLine bounds line column cursor ((pieces ';' text).headD []) (pieces ';' text).tail

/-- A place between two segments of a line. -/
def IsBreak (text : List Char) : Prop :=
  text = [] ∨ ∃ rest, text = ',' :: rest ∨ text = ';' :: rest

/-- The pieces of a text grow at the front by what has no separator in it. -/
theorem pieces_append_front {α : Type} [DecidableEq α] {separator : α} {s t first : List α}
    {more : List (List α)} (hs : separator ∉ s) (ht : pieces separator t = first :: more) :
    pieces separator (s ++ t) = (s ++ first) :: more := by
  induction s with
  | nil => exact ht
  | cons c s ih =>
      obtain ⟨first', more', h, hcons⟩ :=
        pieces_cons_of_ne (List.ne_of_not_mem_cons hs).symm (s ++ t)
      rw [ih (List.not_mem_of_not_mem_cons hs)] at h
      obtain ⟨rfl, rfl⟩ := List.cons.inj h
      exact hcons

theorem withFlags_nil (segments : List (List Char)) :
    withFlags segments [] = segments.map (·, false) := by
  induction segments with
  | nil => rfl
  | cons segment rest ih => rw [withFlags, ih, List.map_cons]

variable {bounds : Bounds} {line : Nat} {column : UInt32} {cursor : Cursor} {text : List Char}

theorem readOn_of_pieces {first : List Char} {more : List (List Char)}
    (h : pieces ';' text = first :: more) :
    readOn bounds line column cursor text = readLine bounds line column cursor first more := by
  rw [readOn, h]
  rfl

/-- A line is read from its first column on. -/
theorem linesMappings_pieces (bounds : Bounds) (line : Nat) (cursor : Cursor) (text : List Char) :
    linesMappings bounds line cursor (pieces ';' text) [] = readOn bounds line 0 cursor text := by
  cases hpieces : pieces ';' text with
  | nil => exact absurd hpieces (pieces_ne_nil ';' text)
  | cons first more =>
      rw [readOn_of_pieces hpieces, linesMappings, readLine]
      cases first with
      | nil =>
          change linesMappings bounds (line + 1) cursor more [] =
            (linesMappings bounds (line + 1) cursor more []).bind fun read => .ok ([] ++ read)
          cases linesMappings bounds (line + 1) cursor more [] <;> rfl
      | cons c first =>
          rw [← withFlags_nil]
          rfl

theorem readOn_nil : readOn bounds line column cursor [] = .ok [] := rfl

theorem readOn_comma (text : List Char) :
    readOn bounds line column cursor (',' :: text) = readOn bounds line column cursor text := by
  obtain ⟨first, more, htext, hcomma⟩ := pieces_cons_of_ne (show ',' ≠ ';' by decide) text
  rw [readOn_of_pieces hcomma, readOn_of_pieces htext, readLine, pieces_separator_cons]
  rfl

theorem readOn_semicolon (text : List Char) :
    readOn bounds line column cursor (';' :: text) = readOn bounds (line + 1) 0 cursor text := by
  rw [readOn_of_pieces (pieces_separator_cons text), ← linesMappings_pieces, readLine]
  change (linesMappings bounds (line + 1) cursor (pieces ';' text) []).bind
    (fun read => .ok ([] ++ read)) = _
  cases linesMappings bounds (line + 1) cursor (pieces ';' text) [] <;> rfl

theorem readOn_semicolons (count : Nat) (text : List Char) :
    readOn bounds line column cursor (List.replicate (count + 1) ';' ++ text) =
      readOn bounds (line + count + 1) 0 cursor text := by
  induction count generalizing line column with
  | zero => exact readOn_semicolon text
  | succ count ih =>
      rw [List.replicate_succ, List.cons_append, readOn_semicolon, ih]
      congr 1
      omega

/-- The first piece at a break is empty or starts with a comma. -/
theorem exists_pieces_of_isBreak (h : IsBreak text) : ∃ first more rest,
    pieces ';' text = first :: more ∧ pieces ',' first = [] :: rest := by
  rcases h with rfl | ⟨after, rfl | rfl⟩
  · exact ⟨[], [], [], rfl, rfl⟩
  · obtain ⟨first, more, -, hcomma⟩ := pieces_cons_of_ne (show ',' ≠ ';' by decide) after
    exact ⟨',' :: first, more, _, hcomma, pieces_separator_cons first⟩
  · exact ⟨[], _, [], pieces_separator_cons after, rfl⟩

theorem lineMappings_segment {line : UInt32} {segment : List Char} (hne : segment ≠ [])
    {delta : Int} {tail : List Int} (hdecode : Vlq.decode segment = .ok (delta :: tail))
    (rest : List (List Char × Bool)) :
    lineMappings bounds line column cursor ((segment, false) :: rest) =
      (mappingOf bounds line (advance column delta) false cursor tail).bind fun found =>
        (lineMappings bounds line (advance column delta) found.2 rest).map fun later =>
          (found.1 :: later.1, later.2) := by
  obtain ⟨c, segment, rfl⟩ := List.exists_cons_of_ne_nil hne
  rw [lineMappings]
  · rw [hdecode]
    change (mappingOf bounds line (advance column delta) false cursor tail >>= _) = _
    cases mappingOf bounds line (advance column delta) false cursor tail with
    | error e => rfl
    | ok found =>
        change (lineMappings bounds line (advance column delta) found.2 rest >>= _) =
          (lineMappings bounds line (advance column delta) found.2 rest).map _
        cases lineMappings bounds line (advance column delta) found.2 rest <;> rfl
  · exact hne

/-- Written numbers are the segment that they were written for. -/
theorem readOn_segment {delta : Int} {tail : List Int} (hsmall : ∀ n ∈ delta :: tail,
    n.natAbs < 2 ^ 62) (hbreak : IsBreak text) :
    readOn bounds line column cursor (Vlq.encodeAll (delta :: tail) ++ text) = (do
      let (mapping, next) ← mappingOf bounds (UInt32.ofNat line) (advance column delta) false
        cursor tail
      return mapping :: (← readOn bounds line (advance column delta) next text)) := by
  have hdecode := Vlq.decode_encodeAll (List.cons_ne_nil delta tail) hsmall
  obtain ⟨first, more, rest, hpieces, hfirst⟩ := exists_pieces_of_isBreak hbreak
  have hline : pieces ';' (Vlq.encodeAll (delta :: tail) ++ text) =
      (Vlq.encodeAll (delta :: tail) ++ first) :: more :=
    pieces_append_front (Vlq.not_mem_encodeAll rfl) hpieces
  have hsegments : pieces ',' (Vlq.encodeAll (delta :: tail) ++ first) =
      (Vlq.encodeAll (delta :: tail) ++ []) :: rest :=
    pieces_append_front (Vlq.not_mem_encodeAll rfl) hfirst
  rw [List.append_nil] at hsegments
  simp only [readOn_of_pieces hline, readOn_of_pieces hpieces, readLine, hsegments, hfirst,
    List.map_cons,
    lineMappings_segment (Vlq.encodeAll_ne_nil (List.cons_ne_nil delta tail)) hdecode]
  cases mappingOf bounds (UInt32.ofNat line) (advance column delta) false cursor tail with
  | error e => rfl
  | ok found =>
      simp only [lineMappings]
      change ((lineMappings _ _ _ _ _).map _ >>= _) = ((lineMappings _ _ _ _ _ >>= _) >>= _)
      cases lineMappings bounds (UInt32.ofNat line) (advance column delta) found.2
        (rest.map (·, false)) with
      | error e => rfl
      | ok later =>
          change (linesMappings _ _ _ _ _ >>= _) = ((linesMappings _ _ _ _ _ >>= _) >>= _)
          cases linesMappings bounds (line + 1) later.2 more [] <;> rfl

end ReadOn

section Mappings

variable {map : SourceMap} {pen : Pen} {column : UInt32} {cursor : Cursor}

/-- The lines of mappings never decrease from a line on. -/
def OrderedFrom : (line : Nat) → List Mapping → Prop
  | _, [] => True
  | line, m :: rest => line ≤ m.line.toNat ∧ OrderedFrom m.line.toNat rest

theorem orderedFrom_of_isOrdered {m : Mapping} {ms : List Mapping} (h : isOrdered.go (m :: ms)) :
    OrderedFrom m.line.toNat ms := by
  induction ms generalizing m with
  | nil => trivial
  | cons n ms ih =>
      rw [isOrdered.go, Bool.and_eq_true, decide_eq_true_eq] at h
      exact ⟨h.1, ih h.2⟩

/-- After a mapping the text is at a break. -/
theorem isBreak_mappingChars {m : Mapping} {ms : List Mapping} (h : OrderedFrom pen.line ms) :
    IsBreak (mappingChars map pen (some m) ms) := by
  induction ms generalizing pen m with
  | nil => exact .inl rfl
  | cons n ms ih =>
      obtain ⟨hline, hordered⟩ := h
      rw [mappingChars]
      split
      · rename_i hsame
        split
        · exact ih (hsame ▸ hordered)
        · exact .inr ⟨_, .inl rfl⟩
      · rename_i hother
        obtain ⟨count, hcount⟩ : ∃ count, n.line.toNat - pen.line = count + 1 :=
          Nat.exists_eq_add_one_of_ne_zero (by omega)
        rw [hcount]
        exact .inr ⟨_, .inr rfl⟩

/-- A mapping that was written is read, and the pen and the cursor agree after it. -/
theorem exists_readOn_segmentChars {m : Mapping} (h : Agrees pen column cursor)
    (hline : m.line.toNat = pen.line) (hplain : m.isRange = false) (hnumbered : map.Numbered m) :
    ∃ read next, Agrees (segmentChars map pen m).2 m.column next ∧
      (segmentChars map pen m).2.line = pen.line ∧ read.settled = m.settled ∧
      ∀ text, IsBreak text →
        readOn ⟨map.rawSources.length, map.names.length⟩ pen.line column cursor
            ((segmentChars map pen m).1 ++ text) =
          (readOn ⟨map.rawSources.length, map.names.length⟩ pen.line m.column next text).map
            (read :: ·) := by
  obtain ⟨tail, read, next, hwritten⟩ := exists_writtenAs h hplain hnumbered
  refine ⟨read, next, hwritten.agrees, hwritten.line, hwritten.settled, fun text htext => ?_⟩
  have hsmall : ∀ n ∈ ((m.column.toNat : Int) - pen.column) :: tail, n.natAbs < 2 ^ 62 := by
    rw [List.forall_mem_cons]
    exact ⟨small_difference h.column m.column.toNat_lt, hwritten.small⟩
  have hmapping := hwritten.mapping
  rw [hwritten.chars, readOn_segment hsmall htext,
    advance_difference h.column m.column.toNat_lt, UInt32.ofNat_toNat, ← hline,
    UInt32.ofNat_toNat, hmapping]
  rfl

/-- One mapping is read from a place on its line, and then those after it. -/
theorem exists_readOn_cons {ms : List Mapping} (h : Agrees pen column cursor)
    (hline : m.line.toNat = pen.line) (hplain : m.isRange = false) (hnumbered : map.Numbered m)
    (hordered : OrderedFrom m.line.toNat ms)
    (hrest : ∀ {pen : Pen} {column : UInt32} {cursor : Cursor}, Agrees pen column cursor →
      pen.line = m.line.toNat → ∃ read,
        readOn ⟨map.rawSources.length, map.names.length⟩ pen.line column cursor
            (mappingChars map pen (some m) ms) = .ok read ∧
          read.map Mapping.settled = (withoutRepeats (some m) ms).map Mapping.settled) :
    ∃ read, readOn ⟨map.rawSources.length, map.names.length⟩ pen.line column cursor
        ((segmentChars map pen m).1 ++
          mappingChars map (segmentChars map pen m).2 (some m) ms) = .ok read ∧
      read.map Mapping.settled = (m :: withoutRepeats (some m) ms).map Mapping.settled := by
  obtain ⟨read, next, hagrees, hsame, hsettled, hread⟩ :=
    exists_readOn_segmentChars h hline hplain hnumbered
  obtain ⟨more, hmore, hmores⟩ := hrest hagrees (hsame.trans hline.symm)
  rw [hsame] at hmore
  rw [hline, ← hsame] at hordered
  refine ⟨read :: more, ?_, by rw [List.map_cons, List.map_cons, hsettled, hmores]⟩
  rw [hread _ (isBreak_mappingChars hordered), hmore]
  rfl

/-- Written mappings are read as they were, but for repeated ones and for what mappings without a
source carry. The pen and the cursor stay together from mapping to mapping. -/
theorem exists_readOn_mappingChars {ms : List Mapping} {previous : Option Mapping}
    (h : Agrees pen column cursor) (hprevious : ∀ m ∈ previous, m.line.toNat = pen.line)
    (hordered : OrderedFrom pen.line ms) (hplain : ∀ m ∈ ms, m.isRange = false)
    (hnumbered : ∀ m ∈ ms, map.Numbered m) :
    ∃ read, readOn ⟨map.rawSources.length, map.names.length⟩ pen.line column cursor
        (mappingChars map pen previous ms) = .ok read ∧
      read.map Mapping.settled = (withoutRepeats previous ms).map Mapping.settled := by
  induction ms generalizing pen previous column cursor with
  | nil => exact ⟨[], readOn_nil, rfl⟩
  | cons m ms ih =>
      obtain ⟨hline, hordered⟩ := hordered
      obtain ⟨hplain, hplains⟩ := List.forall_mem_cons.mp hplain
      obtain ⟨hnumbered, hnumbereds⟩ := List.forall_mem_cons.mp hnumbered
      have hrest : ∀ {pen : Pen} {column : UInt32} {cursor : Cursor}, Agrees pen column cursor →
          pen.line = m.line.toNat → ∃ read,
            readOn ⟨map.rawSources.length, map.names.length⟩ pen.line column cursor
                (mappingChars map pen (some m) ms) = .ok read ∧
              read.map Mapping.settled = (withoutRepeats (some m) ms).map Mapping.settled := by
        intro pen column cursor hagrees hpen
        exact ih hagrees (by rintro _ ⟨⟩; exact hpen.symm) (hpen ▸ hordered) hplains hnumbereds
      rw [mappingChars]
      split
      · rename_i hsame
        split
        · rename_i hrepeats
          rw [withoutRepeats, if_pos hrepeats]
          exact hrest h hsame.symm
        · rename_i hnew
          obtain ⟨read, hread, hsettled⟩ :=
            exists_readOn_cons h hsame hplain hnumbered hordered hrest
          rw [withoutRepeats, if_neg hnew]
          refine ⟨read, ?_, hsettled⟩
          cases previous with
          | none => exact hread
          | some previous => exact (readOn_comma _).trans hread
      · rename_i hother
        obtain ⟨count, hcount⟩ : ∃ count, m.line.toNat - pen.line = count + 1 :=
          Nat.exists_eq_add_one_of_ne_zero (by omega)
        obtain ⟨read, hread, hsettled⟩ :=
          exists_readOn_cons (h.newline m.line.toNat) rfl hplain hnumbered hordered hrest
        have hnew : previous ≠ some m := fun hsome => hother (hprevious m hsome)
        rw [withoutRepeats, if_neg hnew]
        refine ⟨read, ?_, hsettled⟩
        have hjump : pen.line + count + 1 = m.line.toNat := by omega
        dsimp only
        rw [hcount, List.append_assoc, readOn_semicolons, hjump]
        exact hread

/-- The text of the mappings of a map is read as its mappings, as far as they can be traced. -/
theorem exists_decodeMappings (hordered : map.isOrdered)
    (hplain : ∀ m ∈ map.mappings, m.isRange = false)
    (hnumbered : ∀ m ∈ map.mappings, map.Numbered m) :
    ∃ read, decodeMappings ⟨map.rawSources.length, map.names.length⟩
        (String.ofList (mappingChars map {} none map.mappings)) "" = .ok read ∧
      read.map Mapping.settled = (withoutRepeats none map.mappings).map Mapping.settled := by
  have hordered : OrderedFrom 0 map.mappings := by
    cases hmappings : map.mappings with
    | nil => trivial
    | cons m ms =>
        rw [isOrdered, hmappings] at hordered
        exact ⟨Nat.zero_le _, orderedFrom_of_isOrdered hordered⟩
  have hnone : ∀ m ∈ (none : Option Mapping), m.line.toNat = ({} : Pen).line := nofun
  obtain ⟨read, hread, hsettled⟩ :=
    exists_readOn_mappingChars agrees_start hnone hordered hplain hnumbered
  refine ⟨read, ?_, hsettled⟩
  have hranges : ∀ lines, linesMappings ⟨map.rawSources.length, map.names.length⟩ 0 {} lines
      (pieces ';' "".toList) =
        linesMappings ⟨map.rawSources.length, map.names.length⟩ 0 {} lines [] := by
    intro lines
    cases lines <;> rfl
  rw [decodeMappings, String.toList_ofList, hranges, linesMappings_pieces]
  exact hread

end Mappings

end SourceMap
end ComponentCompiler
