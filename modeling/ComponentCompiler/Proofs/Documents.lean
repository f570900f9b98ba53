import Mathlib
import ComponentCompiler.Diagnostic.Wire
import ComponentCompiler.Proofs.Cache.Readback
import ComponentCompiler.Proofs.Component.Wire

/-!
# Documents come back

Whatever is read from a document is read again from what is written of it, and is written again as
it was (`documents_round_trip`). What the document did not say, said twice, or said in another order
is settled when it is read the first time.
-/

namespace ComponentCompiler

open Json

variable {bound : Nat}

theorem Category.ofName?_name (category : Category) : ofName? category.name = some category := by
  cases category <;> decide

namespace Span

/-- A span whose offsets come back. -/
structure Settled (bound : Nat) (span : Span) : Prop where
  file : ComesBack .whole bound (asNatural? (2 ^ 32)) (fun n => .integer n) span.file
  start : ComesBack .whole bound (asNatural? (2 ^ 32)) (fun n => .integer n) span.start
  stop : ComesBack .whole bound (asNatural? (2 ^ 32)) (fun n => .integer n) span.stop

theorem settled_of_ofJson? {value : Json} {span : Span}
    (hlegible : Legible shape (bound + 1) value) (h : ofJson? value = some span) :
    span.Settled bound := by
  obtain ⟨members, hmembers, h⟩ := Option.bind_eq_some_iff.mp h
  obtain ⟨file, hfile, h⟩ := Option.bind_eq_some_iff.mp h
  obtain ⟨start, hstart, h⟩ := Option.bind_eq_some_iff.mp h
  obtain ⟨stop, hstop, h⟩ := Option.bind_eq_some_iff.mp h
  cases h
  have hkept := hlegible.kept (by decide) hmembers
  constructor
  · exact hkept.required hfile (exchanged_natural (by decide)) rfl
  · exact hkept.required hstart (exchanged_natural (by decide)) rfl
  · exact hkept.required hstop (exchanged_natural (by decide)) rfl

variable {span : Span}

theorem Settled.legible (h : span.Settled bound) : Legible shape (bound + 1) span.toJson := by
  refine (legible_object_iff rfl).mpr ?_
  simp only [List.forall_mem_cons]
  exact ⟨h.file.legible, h.start.legible, h.stop.legible, nofun⟩

theorem ofJson?_of_record? {value : Json} {members : Members}
    (h : value.record? shape 3 = some members)
    (hfile : members.required? "file" (asNatural? (2 ^ 32)) = some span.file)
    (hstart : members.required? "start" (asNatural? (2 ^ 32)) = some span.start)
    (hstop : members.required? "end" (asNatural? (2 ^ 32)) = some span.stop) :
    ofJson? value = some span := by
  rw [ofJson?, h, Option.bind_eq_bind, Option.bind_some]
  dsimp only
  rw [hfile, hstart, hstop]
  rfl

theorem Settled.ofJson?_toJson (h : span.Settled bound) : ofJson? span.toJson = some span := by
  apply ofJson?_of_record? (record?_of_nodup (by simp) _ _)
  · rw [required?_of_get? (x := .integer span.file) rfl, h.file.decoded]
  · rw [required?_of_get? (x := .integer span.start) rfl, h.start.decoded]
  · rw [required?_of_get? (x := .integer span.stop) rfl, h.stop.decoded]

theorem exchanged : Exchanged shape (bound + 1) ofJson? toJson := by
  intro value span hlegible hspan
  have hsettled := settled_of_ofJson? hlegible hspan
  exact ⟨hsettled.legible, hsettled.ofJson?_toJson⟩

end Span

namespace Diagnostic

theorem exchanged : Exchanged shape (bound + 2) ofJson? toJson := by
  intro value d hlegible h
  obtain ⟨members, hmembers, h⟩ := Option.bind_eq_some_iff.mp h
  obtain ⟨category, -, h⟩ := Option.bind_eq_some_iff.mp h
  obtain ⟨message, -, h⟩ := Option.bind_eq_some_iff.mp h
  obtain ⟨span, hspan, h⟩ := Option.bind_eq_some_iff.mp h
  cases h
  have hkept := hlegible.kept (by decide) hmembers
  have hback := hkept.required hspan Span.exchanged rfl
  constructor
  · refine (legible_object_iff rfl).mpr ?_
    simp only [List.forall_mem_cons]
    exact ⟨(comesBack_text category.name).legible, (comesBack_text message).legible,
      hback.legible, nofun⟩
  · have hcategory : Category.ofJson? (.text category.name) = some category :=
      category.ofName?_name
    rw [ofJson?, toJson, record?_of_nodup (by simp)]
    simp only [Option.bind_eq_bind, Option.bind_some]
    rw [required?_of_get? (x := .text category.name) rfl, hcategory, Option.bind_some,
      required?_of_get? (x := .text message) rfl, asText?, Option.bind_some,
      required?_of_get? (x := span.toJson) rfl, hback.decoded]
    rfl

end Diagnostic

/-- Whatever is read from a document comes back from the compact and from the indented form of what
is written of it, and is written again as it was. -/
theorem documents_round_trip :
    RoundTrips Descriptor.toJson ∧ RoundTrips Block.toJson ∧ RoundTrips CompiledScript.toJson ∧
      RoundTrips CacheIndex.toJson ∧ RoundTrips Fingerprint.toJson ∧ RoundTrips Diagnostic.toJson ∧
      RoundTrips Span.toJson := by
  refine ⟨Exchanged.roundTrips ?_, Exchanged.roundTrips ?_, Exchanged.roundTrips ?_,
    Exchanged.roundTrips ?_, Exchanged.roundTrips ?_, Exchanged.roundTrips ?_,
    Exchanged.roundTrips ?_⟩
  · exact Descriptor.exchanged
  · exact Block.exchanged
  · exact CompiledScript.exchanged
  · exact CacheIndex.exchanged
  · exact Fingerprint.exchanged
  · exact Diagnostic.exchanged
  · exact Span.exchanged

/-- A block without a text, with null for its file, and with an attribute that stands twice. -/
theorem documents_round_trip_of_block : ∃ block : Block,
    read? ("\x7b\"type\":\"style\",\"src\":null," ++
        "\"attrs\":\x7b\"b\":1,\"a\":[\x7b\"z\":1.5,\"y\":\"\\n\"\x7d],\"b\":null\x7d\x7d") =
          some block ∧
      block.attributes.map (·.1) = ["a", "b"] ∧
      read? block.toJson.compact = some block ∧ read? block.toJson.pretty = some block := by
  refine ⟨{
    kind := .style
    attributes := [
      ("a", .array [.object [("y", .text "\n"), ("z", .float ⟨false, 3 * 2 ^ 51, -52⟩)]]),
      ("b", .null)] }, ?read, rfl, (documents_round_trip.2.1.compact _ _ ?read).1,
    (documents_round_trip.2.1.pretty _ _ ?read).1⟩
  cbv

end ComponentCompiler
