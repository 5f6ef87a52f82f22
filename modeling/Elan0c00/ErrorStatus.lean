import Elan0c00.ElanctlFrames
import Elan0c00.Record

/-! # Error statuses

The second byte of a reply is a status, except in the reply to the count query, where it is
the number of enrolled fingers. `finger_info` returns an error status as an error; the count
query has none, and what `identify` and `info` do next depends on the number alone
(`errorStatus_decoded`). A refusal `40 ff` of the count query is the number 255
(`enrolledCount_rejected`).
-/

namespace Elan0c00

open Interaction Bytes

section Queries

variable {dev : ElanMoc2} {trace : Trace} {second : UInt8} {rest : List UInt8}

/-- A framed reply is what its query goes on with. -/
theorem Retried.eq_ok_of_framed {cmd : Cmd} {payload : List UInt8} {attempts : Nat}
    {outcome : Except Error (List UInt8)}
    (allowed : EntryPoint.refusal .transceive cmd payload = none)
    (retried : Retried cmd payload attempts trace outcome)
    (last : trace.lastReply = some (0x40 :: rest)) : outcome = .ok (0x40 :: rest) :=
  (retried.eq_ok_iff allowed).mpr ⟨last, nofun, EntryPoint.accept_magic _ rest⟩

/-- The count is the second byte of the last reply, and there is no other. -/
theorem enrolledCount_eq_ok_iff {known : Except Error UInt8}
    (run : dev.enrolledCount.run.Runs trace (.ok known)) :
    known = .ok second ↔ ∃ rest, trace.lastReply = some (0x40 :: second :: rest) := by
  have allowed : EntryPoint.refusal .transceive Proto.getEnrolledCount [] = none := by decide
  obtain ⟨outcome, retried, same⟩ := runs_enrolledCount_iff.mp run
  obtain rfl := Except.ok.inj same
  constructor
  · intro counted
    cases outcome with
    | error e => exact nomatch counted
    | ok reply =>
        obtain ⟨last, -, accepted⟩ := (retried.eq_ok_iff allowed).mp rfl
        match reply with
        | [] => exact nomatch counted
        | [_] => exact nomatch counted
        | first :: count :: rest =>
            obtain rfl : count = second := Except.ok.inj counted
            have magic : first = 0x40 := by
              by_contra foreign
              have framed : EntryPoint.transceive ≠ .transceiveRaw := nofun
              rw [EntryPoint.accept_of_ne framed foreign] at accepted
              exact nomatch accepted
            rw [magic] at last
            exact ⟨rest, last⟩
  · rintro ⟨rest, last⟩
    rw [retried.eq_ok_of_framed allowed last]
    rfl

/-- An error status of a record is the error returned. -/
theorem fingerInfo_status {index : UInt8} {result : Except Fault (Except Error FingerInfo)}
    (run : (dev.fingerInfo index).run.Runs trace result)
    (last : trace.lastReply = some (0x40 :: second :: rest)) (failing : second &&& 0xF0 ≠ 0) :
    result = .ok (.error (.status (.fromByte second))) := by
  have allowed : EntryPoint.refusal .transceive Proto.fingerInfo [index] = none :=
    EntryPoint.refusal_eq_none _ (by decide) (Proto.fits_fingerInfo index)
  obtain ⟨outcome, retried, rfl⟩ := runs_fingerInfo_iff.mp run
  rw [retried.eq_ok_of_framed allowed last]
  have refused := (decodeFingerInfo_cases dev.pid index (0x40 :: second :: rest)).1 second rfl
  exact congrArg Except.ok (refused failing)

end Queries

namespace Elanctl

variable {dev : ElanMoc2} {trace : Trace}

/-- `identify` is sent on any count but zero. -/
theorem AfterCount.identify_mem_iff {count : Except Error UInt8}
    (after : AfterCount dev count trace) :
    [0x40, 0xff, 0x03] ∈ trace.outFrames ↔ ∃ number, count = .ok number ∧ number ≠ 0 := by
  unfold AfterCount at after
  cases count with
  | error e =>
      rw [after]
      exact iff_of_false nofun nofun
  | ok number =>
      simp only at after
      split at after
      · rw [after]
        refine iff_of_false nofun ?_
        rintro ⟨other, same, nonzero⟩
        exact nonzero ((Except.ok.inj same).symm.trans ‹_›)
      · obtain ⟨ident, reply, rest, rfl, single, -⟩ := after
        refine iff_of_true ?_ ⟨number, rfl, ‹_›⟩
        rw [Trace.outFrames_append, single]
        exact List.mem_append_left _ (List.mem_singleton.mpr rfl)

end Elanctl

open Elanctl

/-- **Error statuses.** `finger_info` returns the error status of its framed reply as an error.
The count query returns the second byte whatever it is; `identify` sends its request exactly
when that byte is there and not zero, and `info` asks for as many slots as it says, at most
`maxPrints`, and for none without it. -/
theorem errorStatus_decoded (dev : ElanMoc2) :
    (∀ index (trace : Trace) result second rest, (dev.fingerInfo index).run.Runs trace result →
      trace.lastReply = some (0x40 :: second :: rest) → second &&& 0xF0 ≠ 0 →
      result = .ok (.error (.status (.fromByte second)))) ∧
    (∀ (trace : Trace) result second rest, dev.enrolledCount.run.Runs trace result →
      trace.lastReply = some (0x40 :: second :: rest) → result = .ok (.ok second)) ∧
    (∀ (trace : Trace) result, (Elanctl.run .identify dev).run.Runs trace result →
      ∃ (cnt after : Trace) (count : Except Error UInt8), trace.transfers = cnt ++ after ∧
        dev.enrolledCount.run.Runs cnt (.ok count) ∧
        ([0x40, 0xff, 0x03] ∈ after.outFrames ↔
          ∃ second rest, cnt.lastReply = some (0x40 :: second :: rest) ∧ second ≠ 0)) ∧
    (∀ (trace : Trace) result, (Elanctl.run .info dev).run.Runs trace result →
      ∃ (fw cnt slots : Trace) (count : Except Error UInt8), trace.transfers = fw ++ (cnt ++ slots) ∧
        fw.outFrames = [[0x40, 0x19]] ∧ dev.enrolledCount.run.Runs cnt (.ok count) ∧
        (∀ (second : UInt8) rest, cnt.lastReply = some (0x40 :: second :: rest) →
          SlotQueries (slotsBelow (min second.toNat Proto.maxPrints)) slots) ∧
        ((∀ second rest, cnt.lastReply ≠ some (0x40 :: second :: rest)) → slots = [])) := by
  refine ⟨?_, ?_, ?_, ?_⟩
  · intro index trace result second rest run last failing
    exact fingerInfo_status run last failing
  · intro trace result second rest run last
    obtain ⟨outcome, -, rfl⟩ := runs_enrolledCount_iff.mp run
    exact congrArg Except.ok ((enrolledCount_eq_ok_iff run).mpr ⟨rest, last⟩)
  · intro trace result run
    obtain ⟨cnt, after, count, split, -, cntRun, follows⟩ := frames_of_runs run
    refine ⟨cnt, after, count, split, cntRun, ?_⟩
    rw [follows.identify_mem_iff]
    constructor
    · rintro ⟨second, counted, nonzero⟩
      obtain ⟨rest, last⟩ := (enrolledCount_eq_ok_iff cntRun).mp counted
      exact ⟨second, rest, last, nonzero⟩
    · rintro ⟨second, rest, last, nonzero⟩
      exact ⟨second, (enrolledCount_eq_ok_iff cntRun).mpr ⟨rest, last⟩, nonzero⟩
  · intro trace result run
    obtain ⟨fw, cnt, slots, count, split, single, -, cntRun, queries⟩ := frames_of_runs run
    refine ⟨fw, cnt, slots, count, split, single, cntRun, ?_, ?_⟩
    · intro second rest last
      rw [(enrolledCount_eq_ok_iff cntRun).mpr ⟨rest, last⟩] at queries
      exact queries
    · intro none
      cases count with
      | ok second =>
          obtain ⟨rest, last⟩ := (enrolledCount_eq_ok_iff cntRun).mp rfl
          exact absurd last (none second rest)
      | error e =>
          cases queries
          rfl

/-- The refusal that a sensor really sends, as the reply to the count query. -/
theorem enrolledCount_rejected :
    (ElanMoc2.enrolledCount ⟨0x0c00, 0, true⟩).run.Runs
      [Bus.sentWhole [0x40, 0xff, 0x04],
        Bus.received Proto.getEnrolledCount ⟨[0x40, 0xff], by decide⟩] (.ok (.ok 0xff)) ∧
      Status.fromByte 0xff = .rejected := by
  have allowed : EntryPoint.refusal .transceive Proto.getEnrolledCount [] = none := by decide
  have exchange : Exchange Proto.getEnrolledCount [] _ (.ok [0x40, 0xff]) :=
    .received (by decide) ⟨_, Nat.le_refl _⟩ ⟨[0x40, 0xff], by decide⟩
  have retried := FirstReply.retried allowed rfl (@FirstReply.now _ _ _ 2 _ exchange)
  exact ⟨runs_enrolledCount_iff.mpr ⟨_, retried, rfl⟩, rfl⟩

end Elan0c00
