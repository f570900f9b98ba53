import ComponentCompiler.Proofs.SourceMap.Document
import ComponentCompiler.Proofs.SourceMap.Produced
import ComponentCompiler.Proofs.Text.Places
import ComponentCompiler.SourceMap.Inline

/-!
# Embedded maps are read back

A map that came about is written as a document, and the document stands in a comment at the end of
the code, in one line without blanks at its ends. Whatever the code has in it, the comment is found
first from the end (`extract_comment`), and the map that is read from it traces as the one that was
written and has the same texts of sources (`reads_back_of_produced`).
-/

namespace ComponentCompiler

open Text

namespace Text

/-- The line at the end of a text, before a last line feed. -/
theorem exists_lines_append {line : List Char} (hfeed : '\n' ∉ line)
    (hreturn : line.getLast? ≠ some '\r') (front : List Char) :
    ∃ before, lines (front ++ '\n' :: (line ++ ['\n'])) = before ++ [line] := by
  have hlast : pieces '\n' (line ++ ['\n']) = [line, []] :=
    pieces_append_of_not_mem hfeed []
  have hreturn' : dropReturn line = line := by rw [dropReturn, if_neg hreturn]
  have hlines : ∀ ps, linesOfPieces (ps ++ [line, []]) = ps.map dropReturn ++ [line] := by
    intro ps
    induction ps with
    | nil => simp [linesOfPieces, hreturn']
    | cons p ps ih =>
        obtain ⟨next, rest, hrest⟩ := List.exists_cons_of_ne_nil
          (show ps ++ [line, []] ≠ [] by simp)
        rw [List.cons_append, hrest, linesOfPieces, ← hrest, ih, List.map_cons, List.cons_append]
  rw [lines, pieces_append, hlast]
  exact ⟨_, hlines _⟩

/-- Nothing is trimmed of a text that neither starts nor ends with a blank. -/
theorem trim_eq_self {s : List Char} (hfirst : ∀ c ∈ s.head?, isBlank c = false)
    (hlast : ∀ c ∈ s.getLast?, isBlank c = false) : trim s = s := by
  have hkept : ∀ {s : List Char}, (∀ c ∈ s.head?, isBlank c = false) →
      s.dropWhile isBlank = s := by
    intro s h
    cases s with
    | nil => rfl
    | cons c s => exact List.dropWhile_cons_of_neg (by simp [h c rfl])
  have hreverse : s.reverse.dropWhile isBlank = s.reverse :=
    hkept (by rwa [List.head?_reverse])
  rw [trim, hkept hfirst, trimEnd, dropTail, hreverse, List.reverse_reverse]

end Text

namespace SourceMap

variable {map : SourceMap}

section Comment

/-- Encoded bytes are one word. -/
theorem isBlank_of_mem_encode {bytes : List UInt8} {c : Char} (h : c ∈ Base64.encode bytes) :
    isBlank c = false := by
  have hdigit : ∀ n < 64, isBlank (Base64.digit n) = false := by decide
  rcases Base64.exists_of_mem_encode h with rfl | ⟨n, hn, rfl⟩
  · decide
  · exact hdigit n hn

theorem toList_comment (map : SourceMap) : map.comment.toList =
    commentStart.toList ++ Base64.encode map.text.toUTF8.toList := by
  rw [comment, String.toList_append, String.toList_ofList]

theorem isBlank_of_mem_getLast? {c : Char} (h : c ∈ map.comment.toList.getLast?) :
    isBlank c = false := by
  rw [toList_comment, List.getLast?_append] at h
  cases hlast : (Base64.encode map.text.toUTF8.toList).getLast? with
  | none =>
      rw [hlast] at h
      cases h
      decide
  | some last =>
      rw [hlast] at h
      cases h
      exact isBlank_of_mem_encode (List.mem_of_getLast? hlast)

theorem not_mem_comment : '\n' ∉ map.comment.toList := by
  rw [toList_comment, List.mem_append, not_or]
  refine ⟨by decide, fun hmem => ?_⟩
  have hblank := isBlank_of_mem_encode hmem
  exact absurd hblank (by decide)

theorem encodedIn?_comment :
    encodedIn? map.comment.toList = some (Base64.encode map.text.toUTF8.toList) := by
  have htrim : trim map.comment.toList = map.comment.toList := by
    refine trim_eq_self ?_ fun c => isBlank_of_mem_getLast?
    rw [toList_comment]
    rintro c ⟨⟩
    decide
  rw [encodedIn?, htrim, toList_comment, after?_self]

/-- The map at the end of a text is found, whatever stands before it. -/
theorem extract_comment {read : SourceMap} (h : ofBytes map.text.toUTF8.toList = .ok read)
    (code : String) : extract (code ++ "\n\n" ++ map.comment ++ "\n") = .ok (some read) := by
  have hreturn : map.comment.toList.getLast? ≠ some '\r' := by
    intro hlast
    exact absurd (isBlank_of_mem_getLast? hlast) (by decide)
  obtain ⟨before, hlines⟩ := exists_lines_append not_mem_comment hreturn (code.toList ++ ['\n'])
  have htext : (code ++ "\n\n" ++ map.comment ++ "\n").toList =
      (code.toList ++ ['\n']) ++ '\n' :: (map.comment.toList ++ ['\n']) := by
    simp [String.toList_append]
  have hfound : (lines (code ++ "\n\n" ++ map.comment ++ "\n").toList).reverse.findSome?
      encodedIn? = some (Base64.encode map.text.toUTF8.toList) := by
    rw [htext, hlines, List.reverse_append, List.reverse_singleton, List.singleton_append,
      List.findSome?_cons, encodedIn?_comment]
  simp only [extract, hfound, Base64.decode?_encode, h]

end Comment

section Contents

theorem length_sources (map : SourceMap) : map.sources.length = map.rawSources.length := by
  rw [sources]
  split
  · rfl
  · split
    · rfl
    · exact List.length_map _

/-- The texts that are written are those of the sources. -/
theorem getElem?_embedded {id : Nat} (h : id < map.rawSources.length) :
    ((map.embedded.getD [])[id]?).join = map.contentAt id := by
  have hwritten : map.writtenContents[id]? = some (map.contentAt id) := by
    rw [writtenContents, List.getElem?_map, List.getElem?_range h, Option.map_some]
  rw [embedded]
  split
  · rw [Option.getD_some, hwritten, Option.join_some]
  · rename_i hnone
    rw [Bool.not_eq_true, List.any_eq_false] at hnone
    have habsent := hnone _ (List.mem_of_getElem? hwritten)
    rw [Option.not_isSome_iff_eq_none] at habsent
    rw [habsent]
    rfl

theorem contentOf_reread (map : SourceMap) (mappings : List Mapping) (source : String) :
    (map.reread mappings).contentOf source = map.contentOf source := by
  have hsources : (map.reread mappings).sources = map.sources := rfl
  rw [contentOf, contentOf, hsources]
  cases hid : map.sources.findIdx? (· == source) with
  | none => rfl
  | some id =>
      obtain ⟨hlt, -⟩ := List.findIdx?_eq_some_iff_getElem.mp hid
      exact getElem?_embedded (map.length_sources ▸ hlt)

end Contents

/-- A map that came about, whose mappings are in the order of their lines and have no ranges, is
read back from its document, from its bytes, and from any text at whose end it is embedded; the map
that is read traces every position as the one that was written, and has the same texts of
sources. -/
theorem reads_back_of_produced (hproduced : Produced map) (hordered : map.isOrdered)
    (hplain : ∀ m ∈ map.mappings, m.isRange = false)
    (hsources : map.rawSources.length ≤ 2 ^ 32) (hnames : map.names.length ≤ 2 ^ 32) :
    ∃ read : SourceMap,
      (∀ code, extract (code ++ "\n\n" ++ map.comment ++ "\n") = .ok (some read)) ∧
      (∃ value : Json, Json.read? map.text = some value ∧ ofJson value = .ok read) ∧
      (∀ line column, read.trace line column = map.trace line column) ∧
      ∀ source, read.contentOf source = map.contentOf source := by
  obtain ⟨hsource, hname, hdebugId⟩ := hproduced.sound
  have hnumbered : ∀ m ∈ map.mappings, map.Numbered m := fun m hm =>
    ⟨fun id hid => ⟨hsource m hm id hid, Nat.lt_of_lt_of_le (hsource m hm id hid) hsources⟩,
      fun id hid => ⟨hname m hm id hid, Nat.lt_of_lt_of_le (hname m hm id hid) hnames⟩⟩
  obtain ⟨mappings, hmappings, hsettled⟩ := exists_decodeMappings hordered hplain hnumbered
  have hbytes : ofBytes map.text.toUTF8.toList = .ok (map.reread mappings) := by
    rw [ofBytes_text, toJson_eq]
    exact ofJson_of_perm hdebugId (.refl _) hmappings
  obtain ⟨found, hperm, hvalue⟩ := exists_read?_text map
  refine ⟨map.reread mappings, extract_comment hbytes, ?_, ?_, map.contentOf_reread mappings⟩
  · exact ⟨_, hvalue, ofJson_of_perm hdebugId hperm hmappings⟩
  · exact trace_eq_of_mappings rfl rfl hsettled

/-- The map of a script with a template below it is read back from a text that starts with a comment
that holds no map. -/
theorem reads_back_of_composed :
    let map := append (append (empty (some "a.vue")) (identity "a.vue" "a\n\nb") 0)
      (identity "b.vue" "<p>") (lineOffset "a\n\nb")
    compose (some (identity "a.vue" "a\n\nb")) (some (identity "b.vue" "<p>")) "a\n\nb" = some map ∧
      map.isOrdered ∧ (∀ m ∈ map.mappings, m.isRange = false) ∧
      map.rawSources.length ≤ 2 ^ 32 ∧ map.names.length ≤ 2 ^ 32 ∧
      ∃ read : SourceMap,
        extract (commentStart ++ "?\r\nb" ++ "\n\n" ++ map.comment ++ "\n") = .ok (some read) ∧
        read.trace 4 2 = some (some ⟨"b.vue", 1, 0, none⟩) ∧
        read.contentOf "a.vue" = some "a\n\nb" := by
  intro map
  have hcompose : compose (some (identity "a.vue" "a\n\nb")) (some (identity "b.vue" "<p>"))
      "a\n\nb" = some map := rfl
  have hproduced : Produced map :=
    .compose (fun _ h => by cases h; exact .identity _ _)
      (fun _ h => by cases h; exact .identity _ _) hcompose
  have hordered : map.isOrdered := by decide
  have hplain : ∀ m ∈ map.mappings, m.isRange = false := by decide
  obtain ⟨read, hextract, -, htrace, hcontent⟩ :=
    reads_back_of_produced hproduced hordered hplain (by decide) (by decide)
  refine ⟨hcompose, hordered, hplain, by decide, by decide, read, hextract _, ?_, ?_⟩
  · rw [htrace]
    decide
  · rw [hcontent]
    decide

end SourceMap
end ComponentCompiler
