import ReportRouting.Mail.Delivery

/-!
Which runs a local program has.

A program is run for one message after the other, up to the first run that fails, and not once
more. A run fails if it cannot be started, if it ends without success, or if its input could not
be written as a whole; of the last two, it is the first that is reported. It also counts as failed
if its end cannot be awaited.
-/

namespace ReportRouting

open Text

/-! ### One run -/

/-- Ways in which a run fails. A run that has ended may do so in two of them. -/
inductive RunEnd.Fails : RunEnd → Prop
  | notStarted (reason : String) : Fails (.notStarted reason)
  | lost (reason : String) : Fails (.lost reason)
  | exited {status : Nat} (unsuccessful : status ≠ 0) (complaint : List UInt8)
      (inputFault : Option String) : Fails (.ended status complaint inputFault)
  | killed (signal : String) (complaint : List UInt8) (inputFault : Option String) :
      Fails (.killed signal complaint inputFault)
  | inputRefused (status : Nat) (complaint : List UInt8) (reason : String) :
      Fails (.ended status complaint (some reason))

/-- What is said about a run that has failed. Whether its input was refused is said only of a run
with the status of success. -/
inductive RunEnd.Reports (program : String) : RunEnd → String → Prop
  | notStarted (reason : String) :
      Reports program (.notStarted reason) ("sendmail: cannot run " ++ program ++ ": " ++ reason)
  | exited {status : Nat} (unsuccessful : status ≠ 0) (complaint : List UInt8)
      (inputFault : Option String) :
      Reports program (.ended status complaint inputFault)
        ("sendmail: " ++ program ++ " exited with exit status: " ++ toString status ++ ": "
          ++ String.ofList (trim (lossy complaint)))
  | killed (signal : String) (complaint : List UInt8) (inputFault : Option String) :
      Reports program (.killed signal complaint inputFault)
        ("sendmail: " ++ program ++ " exited with signal: " ++ signal ++ ": "
          ++ String.ofList (trim (lossy complaint)))
  | inputRefused (complaint : List UInt8) (reason : String) :
      Reports program (.ended 0 complaint (some reason))
        ("sendmail: cannot write message to " ++ program ++ ": " ++ reason)

def RunEnd.IsReported (program : String) (e : RunEnd) (failure : Failure) : Prop :=
  (∃ fault, failure = .delivery fault ∧ e.Reports program fault.message) ∨
    ∃ reason, e = .lost reason ∧ failure = .stream (.refused reason)

variable {program : String} {behave : Behaviour}

theorem RunEnd.not_fails_of_success (complaint : List UInt8) :
    ¬(RunEnd.ended 0 complaint none).Fails := by
  intro hfails
  cases hfails with
  | exited unsuccessful => exact unsuccessful rfl

theorem RunEnd.check_cases (program : String) (e : RunEnd) :
    (¬e.Fails ∧ e.check program = .ok ()) ∨
      ∃ failure, e.Fails ∧ e.IsReported program failure ∧ e.check program = .error failure := by
  cases e with
  | notStarted reason => exact .inr ⟨_, .notStarted reason, .inl ⟨_, rfl, .notStarted reason⟩, rfl⟩
  | lost reason => exact .inr ⟨_, .lost reason, .inr ⟨reason, rfl, rfl⟩, rfl⟩
  | ended status complaint inputFault =>
      by_cases hstatus : status = 0
      · subst hstatus
        cases inputFault with
        | some reason =>
            exact .inr ⟨_, .inputRefused 0 complaint reason,
              .inl ⟨_, rfl, .inputRefused complaint reason⟩, rfl⟩
        | none => exact .inl ⟨not_fails_of_success complaint, rfl⟩
      · exact .inr ⟨_, .exited hstatus complaint inputFault,
          .inl ⟨_, rfl, .exited hstatus complaint inputFault⟩, if_pos (bne_iff_ne.2 hstatus)⟩
  | killed signal complaint inputFault =>
      exact .inr ⟨_, .killed signal complaint inputFault,
        .inl ⟨_, rfl, .killed signal complaint inputFault⟩, rfl⟩

/-! ### Runs for messages -/

/-- How the runs for messages end, if each of them takes place. -/
def endingsFrom (behave : Behaviour) (number : Nat) : List Message → List RunEnd
  | [] => []
  | m :: messages => behave number m.run :: endingsFrom behave (number + 1) messages

theorem exists_of_mem_endingsFrom {number : Nat} {messages : List Message} {e : RunEnd}
    (h : e ∈ endingsFrom behave number messages) : ∃ i run, e = behave i run := by
  induction messages generalizing number with
  | nil => exact absurd h List.not_mem_nil
  | cons m messages ih =>
      rcases List.mem_cons.1 h with rfl | h
      · exact ⟨number, m.run, rfl⟩
      · exact ih h

/-- What the runs for messages can come to: all of them take place, or those up to the first that
fails. -/
theorem runAllFrom_cases (program : String) (behave : Behaviour) (number : Nat)
    (messages : List Message) :
    ((∀ e ∈ endingsFrom behave number messages, ¬e.Fails) ∧
      runAllFrom program behave number messages = (messages.map Message.run, .ok ())) ∨
    ∃ before e after failure, endingsFrom behave number messages = before ++ e :: after ∧
      (∀ earlier ∈ before, ¬earlier.Fails) ∧ e.Fails ∧ e.IsReported program failure ∧
      runAllFrom program behave number messages =
        ((messages.take (before.length + 1)).map Message.run, .error failure) := by
  induction messages generalizing number with
  | nil => exact .inl ⟨fun _ he => absurd he List.not_mem_nil, rfl⟩
  | cons m messages ih =>
      rw [endingsFrom, runAllFrom]
      rcases (behave number m.run).check_cases program with ⟨hfine, hcheck⟩ |
        ⟨failure, hfails, hreported, hcheck⟩
      · rw [hcheck]
        rcases ih (number + 1) with ⟨hrest, hrun⟩ |
          ⟨before, e, after, failure, hsplit, hbefore, hfails, hreported, hrun⟩
        · rw [hrun]
          exact .inl ⟨List.forall_mem_cons.2 ⟨hfine, hrest⟩, rfl⟩
        · rw [hrun, hsplit]
          exact .inr ⟨_ :: before, e, after, failure, rfl,
            List.forall_mem_cons.2 ⟨hfine, hbefore⟩, hfails, hreported, rfl⟩
      · rw [hcheck]
        exact .inr ⟨[], _, _, failure, rfl, List.forall_mem_nil _, hfails, hreported, rfl⟩

theorem runAllFrom_of_no_failure {number : Nat} {messages : List Message}
    (h : ∀ e ∈ endingsFrom behave number messages, ¬e.Fails) :
    runAllFrom program behave number messages = (messages.map Message.run, .ok ()) := by
  rcases runAllFrom_cases program behave number messages with ⟨_, hrun⟩ |
    ⟨before, e, after, _, hsplit, _, hfails, _⟩
  · exact hrun
  · exact absurd hfails (h e (hsplit ▸ List.mem_append_cons_self))

theorem Transport.sendAll_program (outside : Outside) (path : String) (messages : List Message) :
    Transport.sendAll outside messages (.program path) =
      (⟨[], (runAllFrom path (outside.program path) 0 messages).1⟩,
        (runAllFrom path (outside.program path) 0 messages).2) := rfl

/-- Messages go to a program in their order, each in a run with its recipients for arguments and
its text for input. If no run fails, all messages have theirs, and the delivery has succeeded. If
some run fails, the first one that does is the last that takes place, and it is reported. -/
theorem program_is_run_up_to_first_failure (outside : Outside) (path : String)
    (messages : List Message) :
    let endings := endingsFrom (outside.program path) 0 messages
    let delivered := Transport.sendAll outside messages (.program path)
    (delivered.2 = .ok () ↔ ∀ e ∈ endings, ¬e.Fails) ∧
    (delivered.2 = .ok () →
      delivered.1 = ⟨[], messages.map fun m => ⟨m.recipients, m.text⟩⟩) ∧
    ∀ failure, delivered.2 = .error failure →
      ∃ before e after, endings = before ++ e :: after ∧
        (∀ earlier ∈ before, ¬earlier.Fails) ∧ e.Fails ∧
        delivered.1 =
          ⟨[], (messages.take (before.length + 1)).map fun m => ⟨m.recipients, m.text⟩⟩ ∧
        e.IsReported path failure := by
  intro endings delivered
  have hdelivered : delivered = _ := Transport.sendAll_program outside path messages
  rcases runAllFrom_cases path (outside.program path) 0 messages with ⟨hfine, hrun⟩ |
    ⟨before, e, after, failure, hsplit, hbefore, hfails, hreported, hrun⟩
  · rw [hrun] at hdelivered
    rw [hdelivered]
    refine ⟨⟨fun _ => hfine, fun _ => rfl⟩, fun _ => rfl, ?_⟩
    rintro _ ⟨⟩
  · have he : e ∈ endingsFrom (outside.program path) 0 messages :=
      hsplit ▸ List.mem_append_cons_self
    rw [hrun] at hdelivered
    rw [hdelivered]
    refine ⟨⟨?_, fun hfine => absurd hfails (hfine e he)⟩, ?_, ?_⟩
    · rintro ⟨⟩
    · rintro ⟨⟩
    · rintro _ ⟨⟩
      exact ⟨before, e, after, hsplit, hbefore, hfails, rfl, hreported⟩

-- The second of three runs closes its input, complains in bytes that are no text and ends with a
-- status of its own.
example :
    let now : Stamp := ⟨⟨2024, 3, 1, by decide⟩, ⟨12, 30, 0, 0, by decide⟩, 60⟩
    let complaint := 0xFF :: bytesOf " busy\n".toList
    let outside : Outside := ⟨fun _ _ _ => .noAddress, fun _ number _ =>
      if number = 1 then .ended 75 complaint (some "broken pipe") else .ended 0 [] none⟩
    let messages := ["a@site", "b@site", "c@site"].map fun recipient =>
      Message.mk "tagmail@site" [recipient] "" now ""
    let delivered := Transport.sendAll outside messages (.program "mail")
    let said := match delivered.2 with
      | .ok () => ""
      | .error failure => failure.message
    said = "Delivery error: sendmail: mail exited with exit status: 75: \ufffd busy" ∧
      delivered.1.runs.map Run.arguments = [["a@site"], ["b@site"]] := by
  decide +kernel

end ReportRouting
