import Elan0c00.Sensor

/-! # What `identify` shows

On a synchronous sensor the slot and the user id in the line of a match are those of the
finger matched in the same run, however `finger_info` treats the slot it is asked for: the
sensor has just identified that slot (`Sensor.identify_shows_match`).
-/

namespace Elan0c00.Sensor

open Interaction Bytes

variable {dev : ElanMoc2} {conduct : Conduct} {before after : Sensor dev.pid} {trace : Trace}

/-- Right after a match, `finger_info` of the matched slot shows what it stores. -/
theorem shown_of_identified {sensor : Sensor dev.pid} {slot : Slot}
    (identified : sensor.lastIdentified = some slot) :
    sensor.shown conduct (UInt8.ofNat slot) = sensor.slots slot := by
  unfold shown
  cases conduct.honoursSlot with
  | true => rw [if_pos rfl, slot?_ofNat, Option.bind_some]
  | false => rw [if_neg nofun, identified, Option.bind_some]

/-- A match that is reported was made by the sensor and leaves it with that slot. -/
theorem identify_matches {ident : Trace} {first status : UInt8} {rest : List UInt8}
    (run : (dev.transceive Proto.identify []).run.Runs ident (.ok (.ok (first :: status :: rest))))
    (ordinary : status &&& 0xF0 = 0)
    (path : Path (environment dev.pid conduct) before ident after) :
    ∃ slot : Slot, status = UInt8.ofNat slot ∧ (before.slots slot).isSome ∧
      after.slots = before.slots ∧ after.lastIdentified = some slot ∧
      after.matched = before.matched ++ [slot] := by
  have asked := runs_transceive_iff.mp run
  obtain ⟨full, middle, answers, reply, rfl⟩ := exchange_answers (by decide) asked.exchange path
  rcases answers_identify answers with rfl | ⟨slot, occupied, rfl, rfl⟩ | ⟨other, failing, rfl⟩
  · exact nomatch reply
  · have named : status = UInt8.ofNat slot := (List.cons.inj (List.cons.inj reply).2).1
    exact ⟨slot, named, occupied, rfl, rfl, rfl⟩
  · have named : status = other := (List.cons.inj (List.cons.inj reply).2).1
    rw [named] at ordinary
    exact absurd ordinary failing

/-- The only runs that report a match: a count, a match and the query of its slot. -/
theorem matchedSlot_run {inner : Trace} {known : Except Error Unit} {s : UInt8} {shown : String}
    (run : Elanctl.IdentifyRun dev inner known)
    (printed : Line.matchedSlot s shown ∈ inner.lines) :
    ∃ cnt count ident first rest part info,
      inner = cnt ++ Bus.printed (.fingersEnrolled count) :: Bus.printed .placeFinger ::
        (ident ++ Bus.printed (.identified (first :: s :: rest) (.ok s)) ::
          (part ++ [Bus.printed (.matchedSlot s shown)])) ∧
      dev.enrolledCount.run.Runs cnt (.ok (.ok count)) ∧
      (dev.transceive Proto.identify []).run.Runs ident (.ok (.ok (first :: s :: rest))) ∧
      s &&& 0xF0 = 0 ∧ (dev.fingerInfo s).run.Runs part (.ok (.ok info)) ∧
      shown = info.userIdDisplay := by
  cases run with
  | uncounted cntRun =>
      rw [Trace.lines_eq_nil (Elanctl.enrolledCount_query cntRun).1] at printed
      exact nomatch printed
  | empty cntRun =>
      rw [Trace.lines_append, Trace.lines_eq_nil (Elanctl.enrolledCount_query cntRun).1] at printed
      simp at printed
  | waited nonzero cntRun identRun matched =>
      have identSilent := Trace.lines_eq_nil
        (Elanctl.perform_single dev .transceive (by decide) (by decide) identRun).1
      rw [Trace.lines_append, Trace.lines_eq_nil (Elanctl.enrolledCount_query cntRun).1,
        Bus.lines_printed, Bus.lines_printed, Trace.lines_append, identSilent] at printed
      cases matched with
      | refused failing => simp at printed
      | short short => simp at printed
      | failed aborted =>
          rw [Bus.lines_printed, Trace.lines_eq_nil (Elanctl.abort_single aborted).1] at printed
          simp at printed
      | @slot first status rest part info ordinary asked =>
          rw [Bus.lines_printed, Trace.lines_append,
            Trace.lines_eq_nil (Elanctl.fingerInfo_query asked).1] at printed
          cases info with
          | error e => simp [Elanctl.matchedLine] at printed
          | ok info =>
              obtain ⟨rfl, rfl⟩ : s = status ∧ shown = info.userIdDisplay := by
                simpa [Elanctl.matchedLine] using printed
              exact ⟨_, _, _, _, _, _, _, rfl, cntRun, identRun, ordinary, asked, rfl⟩

/-- **The line of a match.** If `elanctl identify` prints that slot `s` matched and its user
id, then the sensor matched that slot in this run, and the user id is the one it stores. -/
theorem identify_shows_match (dev : ElanMoc2) (conduct : Conduct) (before after : Sensor dev.pid)
    (trace : Trace) (result : Except Fault (Except Error Elanctl.ExitCode)) (s : UInt8)
    (shown : String)
    (run : Executes (environment dev.pid conduct) (Elanctl.run .identify dev).run before trace
      result after)
    (printed : Line.matchedSlot s shown ∈ trace.lines) :
    ∃ (slot : Slot) (userId : UserId dev.pid), s = UInt8.ofNat slot ∧
      after.matched = before.matched ++ [slot] ∧ before.slots slot = some userId ∧
      shown = FingerInfo.userIdDisplay { index := s, userId := userId.bytes } := by
  obtain ⟨runs, path⟩ := run
  obtain ⟨inner, last, rfl, ⟨known, described⟩, ended⟩ := Elanctl.runs_run runs
  have inside : Line.matchedSlot s shown ∈ Trace.lines inner := by
    rw [Bus.lines_printed, Trace.lines_append] at printed
    rcases ended with rfl | ⟨e, rfl⟩
    · simpa using printed
    · simpa using printed
  obtain ⟨cnt, count, ident, first, rest, part, info, rfl, cntRun, identRun, ordinary, asked,
    rfl⟩ := matchedSlot_run described inside
  rw [path_printed_iff] at path
  obtain ⟨listed, head, lastPath⟩ := Path.append_iff.mp path
  obtain ⟨counted, cntPath, middle⟩ := Path.append_iff.mp head
  rw [path_printed_iff, path_printed_iff] at middle
  obtain ⟨identified, identPath, tail⟩ := Path.append_iff.mp middle
  rw [path_printed_iff] at tail
  obtain ⟨asked', partPath, finished⟩ := Path.append_iff.mp tail
  rw [path_printed_iff, Path.nil_iff] at finished
  have unchanged : after = listed := by
    rcases ended with rfl | ⟨e, rfl⟩
    · exact Path.nil_iff.mp lastPath
    · rw [path_printed_iff, Path.nil_iff] at lastPath
      exact lastPath
  obtain ⟨cntSlots, -, cntMatched⟩ := query_frame (Elanctl.enrolledCount_query cntRun).2
    (by decide) (by decide) cntPath
  obtain ⟨slot, rfl, -, identSlots, last', matched⟩ := identify_matches identRun ordinary identPath
  obtain ⟨-, -, partMatched⟩ := query_frame (Elanctl.fingerInfo_query asked).2
    (Elanctl.not_persistentHeader_fingerInfo _) nofun partPath
  have reported := fingerInfo_answers asked partPath
  rw [report, shown_of_identified last', identSlots, cntSlots] at reported
  cases stored : before.slots slot with
  | none =>
      rw [stored] at reported
      rcases reported with wrong | ⟨⟨e, wrong⟩, -⟩
      · exact nomatch wrong
      · exact nomatch wrong
  | some userId =>
      rw [stored] at reported
      rcases reported with right | ⟨⟨e, wrong⟩, -⟩
      · cases right
        refine ⟨slot, userId, rfl, ?_, stored, rfl⟩
        rw [unchanged, finished, partMatched, matched, cntMatched]
      · exact nomatch wrong

/-- One finger, in slot 2. -/
def oneFinger : Sensor 0x0c00 where
  slots slot := if slot = 2 then some ⟨[0x46, 0x32], by decide, by decide⟩ else none
  lastIdentified := none
  reply := []
  matched := []

/-- The transfers and lines of a match in slot 2. -/
def oneMatch : Trace :=
  [Bus.printed (.opened 0x0c00),
    Bus.sentWhole [0x40, 0xff, 0x04],
    Bus.received Proto.getEnrolledCount ⟨[0x40, 1], by decide⟩,
    Bus.printed (.fingersEnrolled 1), Bus.printed .placeFinger,
    Bus.sentWhole [0x40, 0xff, 0x03],
    Bus.received Proto.identify ⟨[0x40, 2], by decide⟩,
    Bus.printed (.identified [0x40, 2] (.ok 2)),
    Bus.sentWhole [0x40, 0xff, 0x12, 2],
    Bus.received Proto.fingerInfo ⟨Proto.record 0x0c00 0 0 [0x46, 0x32], Nat.le_refl 64⟩,
    Bus.printed (.matchedSlot 2 (FingerInfo.userIdDisplay ⟨2, [0x46, 0x32]⟩))]

theorem identify_shows_match_oneFinger :
    ∃ (slot : Slot) (userId : UserId 0x0c00), (2 : UInt8) = UInt8.ofNat slot ∧
      [2] = [] ++ [slot] ∧ oneFinger.slots slot = some userId ∧
      FingerInfo.userIdDisplay ⟨2, [0x46, 0x32]⟩ =
        FingerInfo.userIdDisplay { index := 2, userId := userId.bytes } := by
  let dev : ElanMoc2 := ⟨0x0c00, 0, true⟩
  have cntRun : dev.enrolledCount.run.Runs
      [Bus.sentWhole [0x40, 0xff, 0x04],
        Bus.received Proto.getEnrolledCount ⟨[0x40, 1], by decide⟩] (.ok (.ok 1)) := by
    have exchange := @Exchange.received Proto.getEnrolledCount [] (by decide)
      ⟨3, Nat.le_refl 3⟩ ⟨[0x40, 1], by decide⟩
    have asked := Asked.exchanged (by decide : EntryPoint.refusal .transceive _ _ = none) exchange
    exact runs_enrolledCount_iff.mpr ⟨_, .settled asked nofun, rfl⟩
  have identRun : (dev.transceive Proto.identify []).run.Runs
      [Bus.sentWhole [0x40, 0xff, 0x03],
        Bus.received Proto.identify ⟨[0x40, 2], by decide⟩] (.ok (.ok [0x40, 2])) := by
    have exchange := @Exchange.received Proto.identify [] (by decide)
      ⟨3, Nat.le_refl 3⟩ ⟨[0x40, 2], by decide⟩
    exact runs_transceive_iff.mpr (.exchanged (by decide) exchange)
  have infoRun : (dev.fingerInfo 2).run.Runs
      [Bus.sentWhole [0x40, 0xff, 0x12, 2],
        Bus.received Proto.fingerInfo ⟨Proto.record 0x0c00 0 0 [0x46, 0x32], Nat.le_refl 64⟩]
      (.ok (.ok ⟨2, [0x46, 0x32]⟩)) := by
    have exchange := @Exchange.received Proto.fingerInfo [2] (by decide)
      ⟨4, Nat.le_refl 4⟩ ⟨Proto.record 0x0c00 0 0 [0x46, 0x32], Nat.le_refl 64⟩
    have asked := Asked.exchanged (by decide : EntryPoint.refusal .transceive _ _ = none) exchange
    exact runs_fingerInfo_iff.mpr ⟨_, .settled asked nofun, rfl⟩
  have run : (Elanctl.run .identify dev).run.Runs oneMatch (.ok (.ok .success)) := by
    refine runs_println_bind_iff.mpr ⟨_, rfl, ?_⟩
    refine (Elanctl.body_safe .identify).runs_outcome_bind_iff.mpr
      ⟨.ok (), oneMatch.tail, [], rfl, ?_, Fallible.runs_pure_iff.mpr ⟨rfl, rfl⟩⟩
    refine enrolledCount_safe.runs_bind_iff.mpr (.inr ⟨1, _, _, rfl, cntRun, ?_⟩)
    refine runs_println_bind_iff.mpr ⟨_, rfl, runs_println_bind_iff.mpr ⟨_, rfl, ?_⟩⟩
    refine (Elanctl.transceive_safe _ _).runs_outcome_bind_iff.mpr ⟨_, _, _, rfl, identRun, ?_⟩
    refine runs_println_bind_iff.mpr ⟨_, rfl, ?_⟩
    exact (fingerInfo_safe 2).runs_outcome_bind_iff.mpr
      ⟨_, _, _, rfl, infoRun, runs_println_iff.mpr ⟨rfl, rfl⟩⟩
  have path : Path (environment 0x0c00 ⟨false, false, false⟩) oneFinger oneMatch
      { oneFinger with lastIdentified := some 2, matched := [2] } :=
    .cons rfl (.cons ⟨_, _, .count rfl, rfl⟩ (.cons ⟨by decide, rfl⟩ (.cons rfl (.cons rfl
      (.cons ⟨_, _, @Answers.identified _ _ _ _ 2 rfl rfl, rfl⟩ (.cons ⟨by decide, rfl⟩ (.cons rfl
        (.cons ⟨_, _, @Answers.record _ _ _ _ 2 0 0 ⟨[0x46, 0x32], by decide, by decide⟩ rfl rfl
          rfl, rfl⟩ (.cons ⟨rfl, rfl⟩ (.cons rfl (.nil _)))))))))))
  have lines : oneMatch.lines = [.opened 0x0c00, .fingersEnrolled 1, .placeFinger,
      .identified [0x40, 2] (.ok 2),
      .matchedSlot 2 (FingerInfo.userIdDisplay ⟨2, [0x46, 0x32]⟩)] := rfl
  have printed : Line.matchedSlot 2 (FingerInfo.userIdDisplay ⟨2, [0x46, 0x32]⟩) ∈
      oneMatch.lines := by
    rw [lines]
    exact List.mem_of_mem_getLast? rfl
  exact identify_shows_match dev ⟨false, false, false⟩ oneFinger _ oneMatch _ 2 _ ⟨run, path⟩
    printed

end Elan0c00.Sensor
