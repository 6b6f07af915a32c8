import PocketTools.Proofs.Command.Answers
import PocketTools.Proofs.Journal.Room

/-!
# Calls on outputs with limited room

On an output that takes some bytes and then fails, a tool writes a prefix of what it
writes on one that takes everything, and fails as the output does if the prefix is not
the whole. Text is not put in another order, not repeated and not left out, and it makes
no difference in which pieces it is handed to the output and how much of each the output
takes at a time (`report_truncated`).
-/

namespace PocketTools.Command

open Journal

/-- A call on an output with limited room, from the same call on one that takes everything. -/
theorem seen_report_some (room : Nat) (transcript : Transcript Failure Unit) :
    (report (some room) transcript).seen =
      ((report none transcript).written.take room,
        if (report none transcript).written.length ≤ room then (report none transcript).result
        else .error (.output .sinkFull)) := by
  change (written (transcript.within (some room)).acts, (transcript.within (some room)).result) = _
  rw [Transcript.within_some, written_cut]
  rfl

/-- What a call comes to for its user on an output with some room: the bytes written, the
result and the exit status. -/
def outcome (room : Option Nat) (transcript : Transcript Failure Unit) :
    List UInt8 × Except Failure Unit × UInt8 :=
  let report := report room transcript
  (report.written, report.result, statusOf report.result)

/-- Calls that come to the same on an output that takes everything come to the same on every
output. -/
theorem outcome_eq_of_seen_eq {first second : Transcript Failure Unit}
    (same : first.seen = second.seen) (room : Option Nat) :
    outcome room first = outcome room second := by
  have reports : (report room first).seen = (report room second).seen := by
    cases room with
    | none => exact same
    | some room =>
        obtain ⟨bytes, result⟩ := Prod.mk.inj same
        have bytes : (report none first).written = (report none second).written := bytes
        have result : (report none first).result = (report none second).result := result
        rw [seen_report_some, seen_report_some, bytes, result]
  obtain ⟨bytes, result⟩ := Prod.mk.inj reports
  rw [outcome, outcome, bytes, result]

/-- What is seen of a call is what it comes to on an output that takes everything. -/
theorem outcome_none_of_seen {transcript : Transcript Failure Unit} {bytes : List UInt8}
    {result : Except Failure Unit} (seen : transcript.seen = (bytes, result)) :
    outcome none transcript = (bytes, result, statusOf result) := by
  obtain ⟨rfl, rfl⟩ := Prod.mk.inj seen
  rfl

/-- A call that fails before it writes anything does so on every output. -/
theorem outcome_of_seen_error {transcript : Transcript Failure Unit} {failure : Failure}
    (stops : transcript.seen = ([], .error failure)) (room : Option Nat) :
    outcome room transcript = ([], .error failure, failure.status) := by
  have same : transcript.seen = (⟨[], .error failure⟩ : Transcript Failure Unit).seen := stops
  rw [outcome_eq_of_seen_eq same room]
  cases room <;> rfl

/-- The converter fails on its numeral after it has echoed it, and writes nothing else. -/
theorem Binconvert.written_of_numeral_fault {world : World} {call : Invocation String Options}
    {fault : Numeral.Fault} (fails : (run world call).result = .error (.numeral fault)) :
    written (run world call).acts = echo call.subject := by
  have whole := Binconvert.loadsFirst.seen_run world call
  cases loaded : (Settings.loadBinary world.files world.environment Settings.file).result with
  | error broken =>
      rw [loaded] at whole
      have result : (run world call).result = .error (.settings broken) := congrArg Prod.snd whole
      rw [fails] at result
      cases result
  | ok settings =>
      rw [loaded] at whole
      simp only [seen_convertWith, answer] at whole
      cases converted :
          Numeral.convert (call.options.overflow.getD settings.overflow) call.subject with
      | error _ =>
          rw [converted] at whole
          exact congrArg Prod.fst whole
      | ok value =>
          rw [converted] at whole
          have result : (run world call).result = .ok () := congrArg Prod.snd whole
          rw [fails] at result
          cases result

/-- **The truncation law.** On an output with room for `room` bytes a call writes the first
`room` bytes of all that it writes on an output that takes everything. If that is all, the
result and the exit status are the same; if not, the call fails as the output does, with
exit status 1. The same comes of every delivery of the text in pieces. Whatever parts a call
is made of, they take place one after the other, each on the room that those before it left,
up to the first that fails. An output that is full within the converter's echo takes the
place of a fault of the numeral. -/
theorem report_truncated (world : World) (call : Call) (room : Nat) :
    let full := report none (call.run world)
    let truncated := report (some room) (call.run world)
    truncated.written = full.written.take room ∧
    truncated.written.length = min room full.written.length ∧
    (full.written.length ≤ room →
      truncated.result = full.result ∧ statusOf truncated.result = statusOf full.result) ∧
    (room < full.written.length →
      truncated.result = .error (.output .sinkFull) ∧ statusOf truncated.result = 1) ∧
    (∀ pieces, pieces.flatten = full.written →
      (∃ taken complete, Delivery room pieces taken complete) ∧
      ∀ taken complete, Delivery room pieces taken complete →
        truncated.written = taken ∧
          truncated.result = if complete then full.result else .error (.output .sinkFull)) ∧
    (∀ (α : Type) (first : Transcript Failure α) (next : α → Transcript Failure Unit),
      call.run world = first >>= next →
        (call.run world).within (some room) =
          first.within (some room) >>= fun a =>
            (next a).within (some (room - (written first.acts).length))) ∧
    ∀ conversion fault, call = .binconvert conversion → full.result = .error (.numeral fault) →
      truncated.result =
        if (Binconvert.echo conversion.subject).length ≤ room then .error (.numeral fault)
        else .error (.output .sinkFull) := by
  intro full truncated
  have seen : truncated.seen = _ := seen_report_some room (call.run world)
  have bytes : truncated.written = full.written.take room := congrArg Prod.fst seen
  have result : truncated.result =
      if full.written.length ≤ room then full.result else .error (.output .sinkFull) :=
    congrArg Prod.snd seen
  refine ⟨bytes, ?_, fun fits => ?_, fun overflows => ?_,
    fun pieces same => ⟨exists_delivery room pieces, ?_⟩, fun α first next parts => ?_, ?_⟩
  · rw [bytes, List.length_take]
  · rw [result, if_pos fits]
    exact ⟨rfl, rfl⟩
  · rw [result, if_neg (Nat.not_le.mpr overflows)]
    exact ⟨rfl, rfl⟩
  · intro taken complete delivery
    obtain ⟨first, all⟩ := delivery.taken_eq
    rw [same] at first all
    rw [bytes, result, first]
    simp only [all, and_self]
  · rw [parts, Transcript.within_bind]
  · rintro conversion fault rfl fails
    have echoed : full.written = Binconvert.echo conversion.subject :=
      Binconvert.written_of_numeral_fault fails
    rw [result, fails, echoed]

end PocketTools.Command
