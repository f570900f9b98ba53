import Mathlib
import ComponentCompiler.Proofs.Collaborator.Turns

/-!
# Every call gets the reply to its own request

The call that gets the channel after a number of others is told what the reply in that place says
(`replies_in_order`), whatever was replied to the others. It is what it would be told if the calls
were made one after another.
-/

namespace ComponentCompiler.Collaborator

open Text (newline)
open Relation (ReflTransGen)

namespace Moment

variable {Client : Type} [DecidableEq Client] {m m' : Moment Client} {c : Client} {turn : Nat}
  {call : Call} {ahead unsent got said : List UInt8}

section Progress

/-- What stays as it is when a client goes on with its call. -/
structure Aside (c : Client) (m m' : Moment Client) : Prop where
  phase : ∀ d ≠ c, m'.phase d = m.phase d
  told : m'.told = m.told
  granted : m'.channel.granted = m.channel.granted

/-- The program can read the rest of the request and reply anything. -/
theorem exists_replied (hphase : m.phase c = .talking turn call unsent [])
    (hline : call.line = m.channel.begun ++ ahead)
    (hinbound : m.channel.inbound ++ unsent = ahead ++ [newline])
    (houtbound : m.channel.outbound = []) (hsaid : newline ∉ said) :
    ∃ m', ReflTransGen Step m m' ∧ Aside c m m' ∧
      m'.phase c = .talking turn call [] [] ∧ m'.channel.outbound = said ++ [newline] ∧
      m'.channel.exchanges = m.channel.exchanges ++ [(call.line, said)] := by
  have hahead : newline ∉ ahead := fun hmem =>
    call.newline_not_mem_line (hline ▸ List.mem_append_right _ hmem)
  let written : Moment Client :=
    { m.enter c (.talking turn call [] []) with channel := m.channel.write unsent }
  let received : Moment Client :=
    { written with channel := written.channel.receive ahead [newline] }
  let replied : Moment Client :=
    { received with channel := received.channel.reply [] said }
  have hwrite : Step m written :=
    .write m c turn call unsent [] [] (by rw [hphase, List.append_nil])
  have hreceive : Step written received := .receive written ahead [newline] hinbound hahead
  have hreply : Step received replied := .reply received [] said rfl hsaid
  refine ⟨replied, .tail (.tail (.single hwrite) hreceive) hreply, ⟨?_, rfl, rfl⟩, ?_, ?_, ?_⟩
  · exact fun d hd => Function.update_of_ne hd ..
  · exact Function.update_self ..
  · exact congrArg (· ++ (said ++ [newline])) houtbound
  · change _ ++ [(m.channel.begun ++ ahead, said)] = _
    rw [← hline]
    rfl

/-- The client can read the rest of the reply and give the channel up. -/
theorem exists_finished (hphase : m.phase c = .talking turn call [] got)
    (houtbound : m.channel.outbound = ahead ++ [newline]) (hahead : newline ∉ ahead) :
    ∃ m', ReflTransGen Step m m' ∧ Aside c m m' ∧
      m'.phase c = .finished turn call (got ++ ahead ++ [newline]) ∧
      m'.channel.holder = none ∧ m'.channel.exchanges = m.channel.exchanges := by
  let read : Moment Client :=
    { m.enter c (.talking turn call [] (got ++ ahead)) with channel := m.channel.read [newline] }
  let released : Moment Client :=
    { read.enter c (.finished turn call (got ++ ahead ++ [newline])) with
      channel := (read.channel.read []).release }
  have hread : Step m read := .read m c turn call ahead [newline] got hphase houtbound hahead
  have hrelease : Step read released :=
    .release read c turn call [] (got ++ ahead) (Function.update_self ..) rfl
  refine ⟨released, .tail (.single hread) hrelease, ⟨?_, rfl, rfl⟩, ?_, rfl, rfl⟩
  · intro d hd
    exact (Function.update_of_ne hd ..).trans (Function.update_of_ne hd ..)
  · exact Function.update_self ..

omit [DecidableEq Client] in
theorem Aside.refl (c : Client) (m : Moment Client) : Aside c m m := ⟨fun _ _ => rfl, rfl, rfl⟩

omit [DecidableEq Client] in
theorem Aside.trans {m'' : Moment Client} (h : Aside c m m') (h' : Aside c m' m'') :
    Aside c m m'' where
  phase d hd := (h'.phase d hd).trans (h.phase d hd)
  told := h'.told.trans h.told
  granted := h'.granted.trans h.granted

/-- A client that has read a line can be told what it says. -/
theorem exists_told_after {line : List UInt8} (hrun : ReflTransGen Step m m')
    (haside : Aside c m m') (hphase : m'.phase c = .finished turn call line) :
    ∃ after, ReflTransGen Step m after ∧ after.channel.granted = m.channel.granted ∧
      ∃ t ∈ after.told, t.turn = turn ∧ t.client = c :=
  ⟨_, hrun.tail (.tell m' c turn call line hphase), haside.granted, _, List.mem_concat_self, rfl,
    rfl⟩

/-- A call that got the channel can be answered before any other gets it. -/
theorem Orderly.exists_told (h : m.Orderly) (hgranted : m.channel.granted[turn]? = some (c, call)) :
    ∃ m', ReflTransGen Step m m' ∧ m'.channel.granted = m.channel.granted ∧
      ∃ t ∈ m'.told, t.turn = turn ∧ t.client = c := by
  rcases h.granted turn c call hgranted with htold | hturn
  · exact ⟨m, .refl, rfl, htold⟩
  · cases hphase : m.phase c with
    | idle =>
      rw [hphase] at hturn
      cases hturn
    | waiting =>
      rw [hphase] at hturn
      cases hturn
    | finished _ _ line =>
      rw [hphase] at hturn
      cases hturn
      exact exists_told_after .refl (.refl c m) hphase
    | talking _ call unsent got =>
      rw [hphase] at hturn
      cases hturn
      cases (h.holds hphase).underway with
      | asking ahead length outbound hgot line inbound =>
        subst hgot
        have hempty : newline ∉ ([] : List UInt8) := nofun
        obtain ⟨m₁, hreplied, haside, hphase₁, houtbound, -⟩ :=
          exists_replied hphase line inbound outbound hempty
        obtain ⟨m₂, hfinished, haside', hphase₂, -⟩ := exists_finished hphase₁ houtbound hempty
        exact exists_told_after (hreplied.trans hfinished) (haside.trans haside') hphase₂
      | replied ahead length exchanged oneLine begun inbound hunsent outbound =>
        subst hunsent
        have hahead : newline ∉ ahead := fun hmem => oneLine (List.mem_append_right _ hmem)
        obtain ⟨m₁, hfinished, haside, hphase₁, -⟩ := exists_finished hphase outbound hahead
        exact exists_told_after hfinished haside hphase₁

/-- Whatever the program replies to a client that waited for the free channel is what the client is
told. -/
theorem Orderly.exists_answered (h : m.Orderly) (hphase : m.phase c = .waiting call)
    (hfree : m.channel.holder = none) (hsaid : newline ∉ said) :
    ∃ m', ReflTransGen Step m m' ∧ (∀ d ≠ c, m'.phase d = m.phase d) ∧ m'.channel.holder = none ∧
      m'.channel.granted = m.channel.granted ++ [(c, call)] ∧
      m'.told = m.told ++ [⟨m.channel.granted.length, c, call, call.answerTo said⟩] := by
  have hquiet := h.free hfree
  have hlock := Step.lock m c call hphase hfree
  obtain ⟨m₁, hreplied, haside, hphase₁, houtbound, -⟩ := exists_replied
    (m := { m.enter c (.talking m.channel.granted.length call (call.line ++ [newline]) []) with
      channel := m.channel.lock c call })
    (enter_phase_self ..) (congrArg (· ++ call.line) hquiet.begun).symm
    (congrArg (· ++ (call.line ++ [newline])) hquiet.inbound) hquiet.outbound hsaid
  obtain ⟨m₂, hfinished, haside', hphase₂, hholder, -⟩ := exists_finished hphase₁ houtbound hsaid
  have hboth := haside.trans haside'
  refine ⟨_, ((hreplied.trans hfinished).head hlock).tail (.tell m₂ c _ call _ hphase₂), ?_,
    hholder, hboth.granted, ?_⟩
  · intro d hd
    calc Function.update m₂.phase c .idle d = m₂.phase d := Function.update_of_ne hd ..
      _ = Function.update m.phase c _ d := hboth.phase d hd
      _ = m.phase d := Function.update_of_ne hd ..
  · change m₂.told ++ [_] = _
    rw [hboth.told, List.nil_append, answerFrom_heard_newline]
    rfl

end Progress

section Order

omit [DecidableEq Client]

/-- The program reads the requests in the order in which the calls got the channel. -/
theorem Orderly.lines_prefix (h : m.Orderly) :
    m.channel.exchanges.map (·.1) <+: m.channel.granted.map (·.2.line) := by
  refine List.prefix_iff_getElem?.mpr fun turn hturn => ?_
  rw [List.length_map] at hturn
  obtain ⟨c, call, said, hexchanged⟩ := h.exchanged turn hturn
  obtain ⟨hindex, heq⟩ := List.getElem?_eq_some_iff.mp hexchanged.exchanged
  rw [List.getElem?_map, hexchanged.granted, List.getElem_map, heq]
  rfl

/-- What was written are the requests of the calls that got the channel, but for the rest of the
last one. -/
theorem Orderly.exists_unsent (h : m.Orderly) : ∃ unsent,
    m.channel.written ++ unsent = m.channel.requests ∧ (m.channel.holder = none → unsent = []) := by
  cases hholder : m.channel.holder with
  | none =>
    have hwritten := (h.free hholder).written
    exact ⟨[], by rw [List.append_nil, hwritten], fun _ => rfl⟩
  | some c =>
    have htalks := h.held c hholder
    cases hphase : m.phase c with
    | talking turn call unsent got => exact ⟨unsent, (h.holds hphase).written, nofun⟩
    | _ =>
      rw [hphase] at htalks
      exact absurd htalks id

/-- A servant with the replies of the program tells the calls the same when they are made one after
another. -/
theorem Orderly.answers (h : m.Orderly) {machine : Machine} {program : Program} {servant : Servant}
    (hservant : machine.servants[program.number]? = some servant)
    (hrunning : servant.running = true)
    (hreplies : servant.replies = m.channel.exchanges.map fun exchange =>
      String.fromUTF8? ⟨exchange.2.toArray⟩) :
    ∀ t ∈ m.told, (Collaborator.answers program machine (m.channel.granted.map (·.2)))[t.turn]? =
      some ⟨t.call, t.answer⟩ := by
  intro t ht
  obtain ⟨said, hexchanged, hanswer⟩ := h.told t ht
  rw [hanswer]
  apply answers_of_replies hservant hrunning
  · rw [List.getElem?_map, hexchanged.granted]
    rfl
  · rw [hreplies, List.getElem?_map, hexchanged.exchanged]
    rfl

end Order

/-- Of any number of clients that share a collaborator, the one that gets the channel after a number
of others is told what the reply in that place says. Requests are lines, in the order in which the
calls got the channel; each is read as the method and the parameters of its call, and nothing of one
is left when the channel is free. No call that got the channel is stuck. The same calls are told the
same if they are made one after another. -/
theorem replies_in_order (h : m.Reached) :
    (∀ entry ∈ m.channel.granted, newline ∉ entry.2.line ∧
        (Json.Legible .whole (Json.depthLimit - 1) entry.2.parameters →
          Json.ofBytes? .whole entry.2.line =
            some (.object [("method", .text entry.2.method), ("params", entry.2.parameters)]))) ∧
      (∃ unsent, m.channel.written ++ unsent =
          (m.channel.granted.flatMap fun entry => entry.2.line ++ [newline]) ∧
        (m.channel.holder = none → unsent = [])) ∧
      m.channel.exchanges.map (·.1) <+: m.channel.granted.map (·.2.line) ∧
      (∀ t ∈ m.told, ∃ said, m.channel.granted[t.turn]? = some (t.client, t.call) ∧
        m.channel.exchanges[t.turn]? = some (t.call.line, said) ∧
        t.answer = t.call.answerTo said) ∧
      (∀ turn c call, m.channel.granted[turn]? = some (c, call) →
        ∃ m', ReflTransGen Step m m' ∧ m'.channel.granted = m.channel.granted ∧
          ∃ t ∈ m'.told, t.turn = turn ∧ t.client = c) ∧
      ∀ (machine : Machine) (program : Program) (servant : Servant),
        machine.servants[program.number]? = some servant → servant.running = true →
        servant.replies = m.channel.exchanges.map (fun exchange =>
          String.fromUTF8? ⟨exchange.2.toArray⟩) →
        ∀ t ∈ m.told, (answers program machine (m.channel.granted.map (·.2)))[t.turn]? =
          some ⟨t.call, t.answer⟩ := by
  have horderly := h.orderly
  refine ⟨fun entry _ => ⟨entry.2.newline_not_mem_line, entry.2.ofBytes?_line⟩,
    horderly.exists_unsent,
    horderly.lines_prefix, ?_, ?_, ?_⟩
  · intro t ht
    obtain ⟨said, hexchanged, hanswer⟩ := horderly.told t ht
    exact ⟨said, hexchanged.granted, hexchanged.exchanged, hanswer⟩
  · exact fun turn c call => horderly.exists_told
  · exact fun machine program servant => horderly.answers

/-- Two clients wait for the channel at the same time, and the first to get it is told nothing that
makes sense. -/
theorem replies_in_order_of_malformed : ∃ m : Moment Bool, m.Reached ∧
    m.told = [⟨0, true, .version, .error .malformed⟩,
      ⟨1, false, .parse "<a>\n" "A.vue", .ok { descriptor := {} }⟩] ∧
    newline ∉ (Call.parse "<a>\n" "A.vue").line ∧
    Json.ofBytes? .whole (Call.parse "<a>\n" "A.vue").line =
      some (.object [("method", .text "parse"), ("params", parseParameters "<a>\n" "A.vue")]) ∧
    ∀ t ∈ m.told, ∃ said, m.channel.granted[t.turn]? = some (t.client, t.call) ∧
      m.channel.exchanges[t.turn]? = some (t.call.line, said) ∧
        t.answer = t.call.answerTo said := by
  let start : Moment Bool := {}
  let parsing : Call := .parse "<a>\n" "A.vue"
  let asked := (start.enter true (.waiting .version)).enter false (.waiting parsing)
  have hasked : asked.Reached :=
    .tail (.single (.ask start true .version rfl)) (.ask _ false parsing rfl)
  have hwaiting : asked.phase true = .waiting .version := rfl
  have hgarbled : newline ∉ "oops".toUTF8.toList := Text.newline_mem_iff.not.mpr (by decide)
  obtain ⟨m₁, hfirst, hothers, hfree, hgranted, htold⟩ :=
    hasked.orderly.exists_answered hwaiting rfl hgarbled
  have hreached : m₁.Reached := hasked.trans hfirst
  have hwaiting' : m₁.phase false = .waiting parsing := hothers false (by decide)
  have hreply : newline ∉ "\x7b\"result\":\x7b\"descriptor\":\x7b\x7d\x7d\x7d".toUTF8.toList :=
    Text.newline_mem_iff.not.mpr (by decide)
  obtain ⟨m₂, hsecond, -, -, -, htold'⟩ :=
    hreached.orderly.exists_answered hwaiting' hfree hreply
  have hall : m₂.Reached := hreached.trans hsecond
  refine ⟨m₂, hall, ?_, parsing.newline_not_mem_line,
    parsing.ofBytes?_line (Call.legible_parse _ _), (replies_in_order hall).2.2.2.1⟩
  have hmalformed : Call.version.answerTo "oops".toUTF8.toList = .error .malformed := by
    rw [Call.answerTo_text]
    cbv
  have hparsed : parsing.answerTo
      "\x7b\"result\":\x7b\"descriptor\":\x7b\x7d\x7d\x7d".toUTF8.toList =
        .ok { descriptor := {} } := by
    rw [Call.answerTo_text]
    cbv
  rw [htold', htold, hgranted, hmalformed, hparsed]
  rfl

end Moment

end ComponentCompiler.Collaborator
