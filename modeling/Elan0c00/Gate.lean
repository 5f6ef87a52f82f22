import Elan0c00.Framing
import Elan0c00.Session

/-! # What the gate keeps out

The gate looks at the effect tag of a command, the frame is built from its opcode and the
payload. Without a token the frames of the persistent commands stay off the bus exactly in
the sessions whose commands are tagged for what they spell
(`persistent_unreachable_iff`); a command that spells `wipe_sensor` under another tag goes
through (`forgedWipe_reaches_sensor`).
-/

namespace Elan0c00

open Interaction Bytes

/-- The call cannot send the frame of a persistent command: its tag is gated, or there is no
frame, or opcode and payload spell something else. -/
def Call.Harmless (call : Call) : Prop :=
  call.cmd.effect = .persistent ∨ ¬ Proto.Fits call.cmd call.payload ∨
    ¬ Proto.SpellsPersistent call.cmd call.payload

instance (call : Call) : Decidable call.Harmless :=
  inferInstanceAs (Decidable (_ ∨ _ ∨ _))

theorem Call.entry_ne_destructive {call : Call} (tokenless : call.TokenFree) :
    call.entry ≠ .transceiveDestructive := by
  cases call with
  | transceiveDestructive => exact tokenless.elim
  | _ => exact nofun

variable {dev : ElanMoc2}

/-- No frame of a harmless call begins like a persistent command. -/
theorem Finished.not_persistentHeader (finished : Finished dev)
    (tokenless : finished.call.TokenFree) (harmless : finished.call.Harmless)
    {out : List UInt8} (attempted : out ∈ finished.trace.outFrames) :
    ¬ Proto.PersistentHeader out := by
  obtain ⟨outcome, replies, -⟩ := finished.replies
  obtain ⟨allowed, rfl⟩ := replies.eq_encode attempted
  obtain ⟨owner | untagged, fits⟩ := EntryPoint.refusal_eq_none_iff.mp allowed
  · exact absurd owner (Call.entry_ne_destructive tokenless)
  · rw [Proto.persistentHeader_encode_iff]
    rcases harmless with tagged | oversized | other
    · exact absurd tagged untagged
    · exact absurd fits oversized
    · exact other

/-- Every call has a run, and an allowed one has a run that attempts its frame. -/
theorem Call.exists_attempt (dev : ElanMoc2) (call : Call) :
    ∃ finished : Finished dev, finished.call = call ∧
      (call.entry.refusal call.cmd call.payload = none →
        Proto.encode call.cmd call.payload ∈ finished.trace.outFrames) := by
  have asked : ∃ trace e, Asked call.entry call.cmd call.payload trace (.error e) ∧
      (call.entry.refusal call.cmd call.payload = none →
        Proto.encode call.cmd call.payload ∈ trace.outFrames) := by
    cases refusal : call.entry.refusal call.cmd call.payload with
    | some e => exact ⟨[], e, .refused refusal, nofun⟩
    | none =>
        exact ⟨[Bus.sendFailed (Proto.encode call.cmd call.payload) .io], .usb .io,
          .exchanged refusal (.sendFailed .io), fun _ => List.mem_cons_self⟩
  obtain ⟨trace, e, asked, attempted⟩ := asked
  have replies : call.Replies trace (.error e) := by
    unfold Call.Replies
    split
    · rw [Call.entry_of_retries ‹_›] at asked
      exact .settled asked nofun
    · exact asked
  have runs : (call.perform dev).run.Runs trace (.ok (.error e)) :=
    (Call.runs_perform_iff call).mpr ⟨_, replies, rfl⟩
  exact ⟨⟨call, trace, _, runs⟩, rfl, attempted⟩

/-- Calls made one after another have a session that attempts the frame of each allowed one. -/
theorem exists_session (dev : ElanMoc2) (calls : List Call) :
    ∃ session : List (Finished dev), session.map Finished.call = calls ∧
      ∀ call ∈ calls, call.entry.refusal call.cmd call.payload = none →
        Proto.encode call.cmd call.payload ∈ (busTrace session).outFrames := by
  induction calls with
  | nil => exact ⟨[], rfl, nofun⟩
  | cons call calls ih =>
      obtain ⟨session, same, covered⟩ := ih
      obtain ⟨finished, rfl, attempted⟩ := call.exists_attempt dev
      have split : (busTrace (finished :: session)).outFrames =
          finished.trace.outFrames ++ (busTrace session).outFrames :=
        Trace.outFrames_append finished.trace (busTrace session)
      refine ⟨finished :: session, congrArg (finished.call :: ·) same, ?_⟩
      intro other member allowed
      rw [split]
      rcases List.mem_cons.mp member with rfl | later
      · exact List.mem_append_left _ (attempted allowed)
      · exact List.mem_append_right _ (covered other later allowed)

/-- **The gate.** Calls made without a token keep the frames of the persistent commands off
the bus in all their sessions exactly when each of them is harmless. -/
theorem persistent_unreachable_iff (dev : ElanMoc2) (calls : List Call)
    (tokenless : ∀ call ∈ calls, call.TokenFree) :
    (∀ session : List (Finished dev), session.map Finished.call = calls →
      ∀ out ∈ (busTrace session).outFrames, ¬ Proto.PersistentHeader out) ↔
      ∀ call ∈ calls, call.Harmless := by
  constructor
  · intro unreachable call member
    by_contra harmful
    obtain ⟨untagged, fits, spells⟩ : call.cmd.effect ≠ .persistent ∧
        Proto.Fits call.cmd call.payload ∧ Proto.SpellsPersistent call.cmd call.payload := by
      unfold Call.Harmless at harmful
      tauto
    obtain ⟨session, same, covered⟩ := exists_session dev calls
    have allowed : call.entry.refusal call.cmd call.payload = none :=
      EntryPoint.refusal_eq_none_iff.mpr ⟨.inr untagged, fits⟩
    have attempted := covered call member allowed
    exact unreachable session same _ attempted
      ((Proto.persistentHeader_encode_iff call.cmd call.payload).mpr spells)
  · rintro harmless session rfl out attempted
    obtain ⟨event, member, found⟩ := List.mem_filterMap.mp attempted
    obtain ⟨finished, listed, inside⟩ := List.mem_flatMap.mp member
    have called : finished.call ∈ session.map Finished.call := List.mem_map_of_mem listed
    exact finished.not_persistentHeader (tokenless _ called) (harmless _ called)
      (List.mem_filterMap.mpr ⟨event, inside, found⟩)

/-- `wipe_sensor` with the tag changed. -/
def Proto.forgedWipe : Cmd := { Proto.wipeSensor with effect := .readOnly }

theorem persistent_unreachable_iff_abort_forgedWipe :
    (∀ call ∈ [Call.abort, .transceive Proto.forgedWipe []], call.TokenFree) ∧
      ((∀ session : List (Finished ⟨0x0c00, 0, true⟩),
        session.map Finished.call = [.abort, .transceive Proto.forgedWipe []] →
          ∀ out ∈ (busTrace session).outFrames, ¬ Proto.PersistentHeader out) ↔
        ∀ call ∈ [Call.abort, .transceive Proto.forgedWipe []], call.Harmless) := by
  have tokenless : ∀ call ∈ [Call.abort, .transceive Proto.forgedWipe []], call.TokenFree := by
    simp [Call.TokenFree]
  exact ⟨tokenless, persistent_unreachable_iff ⟨0x0c00, 0, true⟩ _ tokenless⟩

/-- Without a token, the frame of `wipe_sensor` goes out and the call returns `Ok`. -/
theorem forgedWipe_reaches_sensor :
    (Call.transceive Proto.forgedWipe []).TokenFree ∧
      ((Call.transceive Proto.forgedWipe []).perform ⟨0x0c00, 0, true⟩).run.Runs
        [Bus.sent [0x40, 0xff, 0x99] ⟨3, Nat.le_refl 3⟩] (.ok (.ok (.bytes []))) ∧
      Proto.PersistentHeader [0x40, 0xff, 0x99] := by
  refine ⟨trivial, ?_, by decide⟩
  have allowed : EntryPoint.refusal .transceive Proto.forgedWipe [] = none := by decide
  have exchange : Exchange Proto.forgedWipe []
      [Bus.sent [0x40, 0xff, 0x99] ⟨3, Nat.le_refl 3⟩] (.ok []) :=
    @Exchange.silent Proto.forgedWipe [] rfl ⟨3, Nat.le_refl 3⟩
  exact (Call.runs_perform_iff _).mpr ⟨_, .exchanged allowed exchange, rfl⟩

end Elan0c00
