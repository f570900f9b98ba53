import ComponentCompiler.Collaborator.Requests
import ComponentCompiler.Machine.Servants
import ComponentCompiler.Proofs.Json.Legible
import ComponentCompiler.Proofs.Json.Printed
import ComponentCompiler.Proofs.Text.Bytes

/-!
# Calls of a collaborator

A call is sent as one line, whatever its method and its parameters say
(`Call.newline_not_mem_line`), and what becomes of it is read off the line of the reply
(`ask_eq`). Programs that are asked one call after another answer each with the next reply
(`answers_of_replies`).
-/

namespace ComponentCompiler

namespace Text

theorem trimmedEnd_newline (s : String) : trimmedEnd (s ++ "\n") = trimmedEnd s := by
  have hreverse : (s ++ "\n").toList.reverse = '\n' :: s.toList.reverse := by
    rw [String.toList_append, List.reverse_append]
    rfl
  rw [trimmedEnd, trimEnd, dropTail, hreverse, List.dropWhile_cons_of_pos isBlank_newline]
  rfl

end Text

namespace Collaborator

open Text (newline)

/-- What a client asks for: a method, its parameters, and the kind of the result. -/
structure Call where
  Result : Type
  [readable : Json.Readable Result]
  method : String
  parameters : Json

attribute [instance] Call.readable

section Answers

variable {α : Type} [Json.Readable α] {method : String}

/-- What becomes of a request for which an exchange had an outcome. -/
def answerFrom (method : String) : Except FileError (Option String) → Answer α
  | .error cause => .error (.exchange cause)
  | .ok none => .error .closed
  | .ok (some line) => readAnswer method line

theorem ask_eq {m : Type → Type} [Monad m] [LawfulMonad m] [Programs m] (program : Program)
    (method : String) (parameters : Json) :
    (ask program method parameters : m (Answer α)) =
      answerFrom method <$> Programs.exchange program (requestLine method parameters) := by
  rw [ask, map_eq_pure_bind]
  refine congrArg _ (funext fun reply => ?_)
  rcases reply with cause | _ | line <;> rfl

/-- A reply that is absent is no text. -/
def outcome : Option String → Except FileError (Option String)
  | some text => .ok (some text)
  | none => .error .invalidText

/-- What is heard when some bytes are read. -/
def heard (bytes : List UInt8) : Except FileError (Option String) :=
  outcome (String.fromUTF8? ⟨bytes.toArray⟩)

/-- The newline at the end of a line makes no difference. -/
theorem answerFrom_heard_newline (method : String) (bytes : List UInt8) :
    (answerFrom method (heard (bytes ++ [newline])) : Answer α) =
      answerFrom method (heard bytes) := by
  rw [heard, heard, Text.fromUTF8?_newline]
  cases String.fromUTF8? ⟨bytes.toArray⟩ with
  | none => rfl
  | some text =>
    rw [Option.map_some, outcome, outcome, answerFrom, answerFrom, readAnswer, readAnswer,
      Text.trimmedEnd_newline]

end Answers

namespace Call

/-- The first call of every collaborator. -/
abbrev version : Call := { Result := String, method := "version", parameters := .null }

abbrev parse (source filename : String) : Call :=
  { Result := ParsedComponent, method := "parse", parameters := parseParameters source filename }

/-- The bytes of a request without the newline after it. -/
def line (call : Call) : List UInt8 := (requestLine call.method call.parameters).toUTF8.toList

/-- What becomes of a call to which some bytes are the reply. -/
def answerTo (call : Call) (reply : List UInt8) : Answer call.Result :=
  answerFrom call.method (heard reply)

theorem answerTo_text (call : Call) (text : String) :
    call.answerTo text.toUTF8.toList = readAnswer call.method text := by
  have htext : String.fromUTF8? text.toUTF8 = some text := dif_pos text.isValidUTF8
  rw [answerTo, heard, Text.toArray_toList, htext]
  rfl

/-- A request is one line. -/
theorem newline_not_mem_line (call : Call) : newline ∉ call.line := by
  intro h
  have hmem := Text.newline_mem_iff.mp h
  rw [requestLine, Json.compact, String.toList_ofList] at hmem
  have hprinted : Json.IsPrinted '\n' := Json.isPrinted_chars _ _ hmem
  exact absurd hprinted (by decide)

/-- A request is read as its method and its parameters, as far as these can be read at all. -/
theorem ofBytes?_line (call : Call)
    (h : Json.Legible .whole (Json.depthLimit - 1) call.parameters) :
    Json.ofBytes? .whole call.line =
      some (.object [("method", .text call.method), ("params", call.parameters)]) := by
  rw [line, Json.ofBytes?_toUTF8, requestLine]
  refine Json.parse?_compact_of_legible ((Json.legible_object_iff rfl).mpr fun member hmember => ?_)
  rcases List.mem_pair.mp hmember with rfl | rfl
  · exact ⟨rfl, Nat.zero_le _⟩
  · exact h

/-- Texts can be read whatever they say. -/
theorem legible_parse (source filename : String) :
    Json.Legible .whole (Json.depthLimit - 1) (parse source filename).parameters := by
  refine (Json.legible_object_iff rfl).mpr fun member hmember => ?_
  rcases List.mem_pair.mp hmember with rfl | rfl <;> exact ⟨rfl, Nat.zero_le _⟩

end Call

section Replies

/-- A call and what became of it. -/
structure Answered where
  call : Call
  answer : Answer call.Result

/-- What becomes of calls that are made one after another. -/
def answers (program : Program) : Machine → List Call → List Answered
  | _, [] => []
  | machine, call :: calls =>
    let result : Answer call.Result × Machine :=
      (ask program call.method call.parameters : StateM Machine _).run machine
    ⟨call, result.1⟩ :: answers program result.2 calls

variable {machine : Machine} {program : Program} {servant : Servant}

theorem run_ask (call : Call) :
    (ask program call.method call.parameters : StateM Machine (Answer call.Result)).run machine =
      let result := machine.exchange program (requestLine call.method call.parameters)
      (answerFrom call.method result.1, result.2) := by
  rw [ask_eq]
  rfl

theorem servants_appendLine (machine : Machine) (path : Path) (line : String) :
    (machine.appendLine path line).servants = machine.servants := by
  unfold Machine.appendLine Machine.writeFile Machine.change
  dsimp only
  split <;> rfl

/-- A servant that runs gives its next reply, and what comes of it stands in its place. -/
theorem exchange_of_servant (h : machine.servants[program.number]? = some servant)
    (hrunning : servant.running = true) (line : String) :
    (machine.exchange program line).1 = (Machine.Servant.next servant).1 ∧
      (machine.exchange program line).2.servants[program.number]? =
        some (Machine.Servant.next servant).2 := by
  have hset : ∀ after : Machine, after.servants = machine.servants →
      (after.servants.set program.number (Machine.Servant.next servant).2)[program.number]? =
        some (Machine.Servant.next servant).2 := by
    intro after hafter
    rw [hafter]
    exact List.getElem?_set_self (List.getElem?_eq_some_iff.mp h).1
  unfold Machine.exchange
  simp only [h, hrunning, Bool.not_true, Bool.false_eq_true, if_false, true_and]
  apply hset
  cases servant.log with
  | none => rfl
  | some path => exact servants_appendLine machine path line

/-- Each of the calls that are made one after another is answered with the reply in its place. -/
theorem answers_of_replies {calls : List Call} {turn : Nat} {call : Call} {reply : Option String}
    (h : machine.servants[program.number]? = some servant) (hrunning : servant.running = true)
    (hcall : calls[turn]? = some call) (hreply : servant.replies[turn]? = some reply) :
    (answers program machine calls)[turn]? =
      some ⟨call, answerFrom call.method (outcome reply)⟩ := by
  induction calls generalizing machine servant turn with
  | nil => cases hcall
  | cons first calls ih =>
    obtain ⟨log, replies, running⟩ := servant
    cases replies with
    | nil => cases hreply
    | cons next replies =>
      obtain rfl : running = true := hrunning
      have hnext : Machine.Servant.next ⟨log, next :: replies, true⟩ =
          (outcome next, ⟨log, replies, true⟩) := by
        cases next <;> rfl
      obtain ⟨hsaid, hservant⟩ :=
        exchange_of_servant h rfl (requestLine first.method first.parameters)
      rw [hnext] at hsaid hservant
      rw [answers, run_ask]
      dsimp only
      cases turn with
      | zero =>
        cases hcall
        cases hreply
        rw [hsaid]
        rfl
      | succ turn =>
        rw [List.getElem?_cons_succ]
        exact ih hservant rfl hcall hreply

end Replies

end Collaborator
end ComponentCompiler
