import Elan0c00.Identify
import Elan0c00.Snapshot

/-! # What `identify` says among other processes

A process has its turn with every sensor (`Running.exists_turn`), so a match that `elanctl identify`
has printed was made by a sensor in that turn, also if the process was killed afterwards: the line
comes after the exchanges it is about (`Elanctl.CommandRun.exists_match`).
-/

namespace Elan0c00

open Interaction Bytes

namespace Sensor

variable {conduct : Conduct} {dev : ElanMoc2} {before after : Sensor dev.pid} {cnt ident part : Trace}
  {count first status : UInt8} {rest : List UInt8} {info : FingerInfo}

/-- Everything before the line of a match: a count, a match and the query of its slot. -/
def beforeMatch (cnt : Trace) (count : UInt8) (ident : Trace) (reply : List UInt8) (status : UInt8)
    (part : Trace) : Trace :=
  cnt ++ Bus.printed (.fingersEnrolled count) :: Bus.printed .placeFinger ::
    (ident ++ Bus.printed (.identified reply (.ok status)) :: part)

/-- What leads to the line of a match is a match of the sensor, with the user id it stores. -/
theorem match_of_path (cntRun : dev.enrolledCount.run.Runs cnt (.ok (.ok count)))
    (identRun : (dev.transceive Proto.identify []).run.Runs ident
      (.ok (.ok (first :: status :: rest))))
    (ordinary : status &&& 0xF0 = 0)
    (asked : (dev.fingerInfo status).run.Runs part (.ok (.ok info)))
    (path : Path (environment dev.pid conduct) before
      (beforeMatch cnt count ident (first :: status :: rest) status part) after) :
    ∃ (slot : Slot) (userId : UserId dev.pid), status = UInt8.ofNat slot ∧
      after.matched = before.matched ++ [slot] ∧ before.slots slot = some userId ∧
      info = ⟨status, userId.bytes⟩ := by
  obtain ⟨counted, cntPath, middle⟩ := Path.append_iff.mp path
  rw [path_printed_iff, path_printed_iff] at middle
  obtain ⟨identified, identPath, tail⟩ := Path.append_iff.mp middle
  rw [path_printed_iff] at tail
  obtain ⟨cntSlots, -, cntMatched⟩ := query_frame (Elanctl.enrolledCount_query cntRun).2
    (by decide) (by decide) cntPath
  obtain ⟨slot, rfl, occupied, identSlots, last, matched⟩ :=
    identify_matches identRun ordinary identPath
  obtain ⟨-, -, partMatched⟩ := query_frame (Elanctl.fingerInfo_query asked).2
    (Elanctl.not_persistentHeader_fingerInfo _) nofun tail
  obtain ⟨userId, stored⟩ := Option.isSome_iff_exists.mp occupied
  refine ⟨slot, userId, rfl, by rw [partMatched, matched, cntMatched], by rw [← cntSlots, stored],
    ?_⟩
  rcases fingerInfo_answers asked tail with right | ⟨⟨e, wrong⟩, -⟩
  · rw [report, shown_of_identified last, identSlots, stored] at right
    exact Except.ok.inj right
  · cases wrong

end Sensor

/-! ### Where the line of a match stands -/

/-- A first occurrence is where every beginning that has one has it. -/
theorem exists_of_prefix {α : Type} {first second before after : List α} {item : α}
    (same : first ++ second = before ++ item :: after) (member : item ∈ first)
    (fresh : item ∉ before) : ∃ rest, first = before ++ item :: rest ∧ rest ++ second = after := by
  rcases List.append_eq_append_iff.mp same with ⟨more, rfl, -⟩ | ⟨more, rfl, tail⟩
  · exact absurd (List.mem_append_left more member) fresh
  · cases more with
    | nil =>
        rw [List.append_nil] at member
        exact absurd member fresh
    | cons other more =>
        obtain ⟨rfl, rfl⟩ := List.cons.inj tail
        exact ⟨more, rfl, rfl⟩

namespace Elanctl

theorem mem_texts_iff {text : Text} {trace : SysTrace} :
    text ∈ Sys.texts trace ↔ Sys.printed text ∈ trace := by
  constructor
  · intro member
    obtain ⟨⟨request, answer⟩, inside, said⟩ := List.mem_filterMap.mp member
    cases request with
    | print other =>
        cases said
        exact inside
    | _ => cases said
  · exact fun inside => List.mem_filterMap.mpr ⟨_, inside, rfl⟩

/-- A run of `identify` that prints a match, up to the line. -/
theorem CommandRun.exists_match {whole : SysTrace} {code : ExitCode} {s : UInt8} {shown : String}
    (run : CommandRun .identify whole code)
    (printed : Text.line (.matchedSlot s shown) ∈ Sys.texts whole) :
    ∃ (opening : UsbTrace) (me : Opened) (cnt ident part : Trace) (count first : UInt8)
      (rest : List UInt8) (info : FingerInfo) (later : SysTrace),
      openElanMoc2.run.Runs opening (.ok (.ok me)) ∧
        me.enrolledCount.run.Runs cnt (.ok (.ok count)) ∧
        (me.transceive Proto.identify []).run.Runs ident (.ok (.ok (first :: s :: rest))) ∧
        s &&& 0xF0 = 0 ∧ (me.fingerInfo s).run.Runs part (.ok (.ok info)) ∧
        shown = info.userIdDisplay ∧
        whole = opening.map usbWords.event ++
          (Bus.printed (.opened me.pid) ::
            Sensor.beforeMatch cnt count ident (first :: s :: rest) s part).map
              (sensorWords me.handle).event ++
          Sys.printed (.line (.matchedSlot s shown)) :: later ∧
        ∀ dev, World.transfersTo dev later = [] := by
  cases run with
  | @unopened opening e attempt =>
      rw [Sys.texts_append, Sys.texts_usbWords] at printed
      cases List.mem_singleton.mp printed
  | @ran opening dropping inner me known attempt body drop =>
      rw [Sys.texts_append, Sys.texts_append, Sys.texts_usbWords, Sys.texts_usbWords,
        Sys.texts_sensorWords, List.append_nil, List.nil_append] at printed
      obtain ⟨_, member, same⟩ := List.mem_map.mp printed
      cases same
      rw [Bus.lines_printed, Trace.lines_append] at member
      have inside : Line.matchedSlot s shown ∈ Trace.lines inner := by
        cases known <;> simpa [failedLines] using member
      obtain ⟨known', described⟩ := described_of_body body
      obtain ⟨cnt, count, ident, first, rest, part, info, rfl, cntRun, identRun, ordinary, asked,
        rfl⟩ := Sensor.matchedSlot_run described inside
      refine ⟨opening, me, cnt, ident, part, count, first, rest, info,
        ((failedLines known).map Bus.printed).map (sensorWords me.handle).event ++
          dropping.map usbWords.event, attempt, cntRun, identRun, ordinary, asked, rfl, ?_, ?_⟩
      · unfold Sensor.beforeMatch
        simp only [List.map_append, List.map_cons, List.append_assoc, List.cons_append,
          List.nil_append]
        rfl
      · intro dev
        rw [World.transfersTo_append, World.transfersTo_usbWords, List.append_nil]
        cases known <;> rfl

/-- The line does not come earlier. -/
theorem matchedSlot_not_mem {opening : UsbTrace} {me : Opened} {cnt ident part : Trace}
    {count first s : UInt8} {rest : List UInt8} {info : FingerInfo} {shown : String}
    (cntRun : me.enrolledCount.run.Runs cnt (.ok (.ok count)))
    (identRun : (me.transceive Proto.identify []).run.Runs ident (.ok (.ok (first :: s :: rest))))
    (asked : (me.fingerInfo s).run.Runs part (.ok (.ok info))) :
    Sys.printed (.line (.matchedSlot s shown)) ∉ opening.map usbWords.event ++
      (Bus.printed (.opened me.pid) ::
        Sensor.beforeMatch cnt count ident (first :: s :: rest) s part).map
          (sensorWords me.handle).event := by
  have silent := Trace.lines_eq_nil (enrolledCount_query cntRun).1
  have still := Trace.lines_eq_nil
    (perform_single _ .transceive (by decide) (by decide) identRun).1
  have quiet := Trace.lines_eq_nil (fingerInfo_query asked).1
  rw [← mem_texts_iff, Sys.texts_append, Sys.texts_usbWords, Sys.texts_sensorWords]
  unfold Sensor.beforeMatch
  simp [silent, still, quiet]

/-- What leads to the line, for the sensor of the device opened. -/
theorem match_of_sensor {pids : UsbDevice → UInt16} {conduct : UsbDevice → Conduct}
    {opening : UsbTrace} {me : Opened} {cnt ident part : Trace}
    {count first s : UInt8} {rest : List UInt8} {info : FingerInfo}
    {before after : Sensor (pids me.handle.device)}
    (sensor : me.toElanMoc2 = ⟨pids me.handle.device, 0, true⟩)
    (cntRun : me.enrolledCount.run.Runs cnt (.ok (.ok count)))
    (identRun : (me.transceive Proto.identify []).run.Runs ident (.ok (.ok (first :: s :: rest))))
    (ordinary : s &&& 0xF0 = 0)
    (asked : (me.fingerInfo s).run.Runs part (.ok (.ok info)))
    (path : Path (Sensor.environment (pids me.handle.device) (conduct me.handle.device)) before
      (World.transfersTo me.handle.device (opening.map usbWords.event ++
        (Bus.printed (.opened me.pid) ::
          Sensor.beforeMatch cnt count ident (first :: s :: rest) s part).map
            (sensorWords me.handle).event)) after) :
    ∃ (slot : Slot) (userId : UserId (pids me.handle.device)), s = UInt8.ofNat slot ∧
      after.matched = before.matched ++ [slot] ∧ before.slots slot = some userId ∧
      info = ⟨s, userId.bytes⟩ := by
  rw [World.transfersTo_append, World.transfersTo_usbWords, World.transfersTo_sensorWords,
    List.nil_append, Sensor.path_transfers_iff, Sensor.path_printed_iff] at path
  rw [sensor] at cntRun identRun asked
  exact Sensor.match_of_path cntRun identRun ordinary asked path

end Elanctl

namespace OneMatch

/-- The transfers and lines of a match of the finger listed. -/
def matching (handle : DeviceHandle) : SysTrace :=
  [Bus.printed (.opened 0x0c00),
    Bus.sentWhole [0x40, 0xff, 0x04], Bus.received Proto.getEnrolledCount
      ⟨_, TwoListings.oneFinger_fits⟩,
    Bus.printed (.fingersEnrolled 1), Bus.printed .placeFinger,
    Bus.sentWhole [0x40, 0xff, 0x03], Bus.received Proto.identify ⟨[0x40, 0], by decide⟩,
    Bus.printed (.identified [0x40, 0] (.ok 0)),
    Bus.sentWhole [0x40, 0xff, 0x12, 0],
    Bus.received Proto.fingerInfo ⟨_, OneSensor.record_fits⟩,
    Bus.printed (.matchedSlot 0 (FingerInfo.userIdDisplay ⟨0, [0x46]⟩))].map
      (sensorWords handle).event

def processes : Bool → Process
  | false => .elanctl ["elanctl", "info"]
  | true => .elanctl ["elanctl", "identify"]

/-- While a listing has the sensor, an `identify` finds it. The listing is killed, and the
`identify` has shown its match and not yet released the interface. -/
def trace : List (Bool × Event SysAnswer) :=
  TwoListings.traceWith (matching (OneSensor.handle 1))

theorem lives_identify : (Process.elanctl ["elanctl", "identify"]).Lives (own true trace) := by
  rw [trace, TwoListings.own_second]
  refine @Process.Lives.running _ _ ([Usb.released (OneSensor.handle 1) 0 (.ok ()),
    Usb.closed (OneSensor.handle 1)].map usbWords.event) ⟨.ok .success, ?_⟩
  repeat constructor

theorem exists_path_matching (now : World fun _ => 0x0c00)
    (same : now.sensors = TwoListings.found.sensors) :
    ∃ after, Path (World.env (fun _ => 0x0c00) fun _ => Sensor.ideal true) now
      (matching (OneSensor.handle 1)) after := by
  obtain ⟨interfaces, live, sensors, claimed_live⟩ := now
  obtain rfl := same
  open World in
  refine exists_path_printed (exists_path_exchange (.count rfl) TwoListings.count_found ?_)
  refine exists_path_printed (exists_path_printed ?_)
  refine exists_path_exchange (@Sensor.Answers.identified _ _ _ _ 0 rfl rfl) (by decide) ?_
  refine exists_path_printed (exists_path_exchange
    (@Sensor.Answers.record _ _ _ _ 0 0 0 Sensor.oneByte rfl rfl rfl) (by decide) ?_)
  exact exists_path_printed ⟨_, .nil _⟩

theorem exists_running : ∃ after, Running processes (fun _ => Sensor.ideal true)
    TwoListings.found trace after := by
  obtain ⟨after, path⟩ := TwoListings.exists_path exists_path_matching
  refine ⟨after, ?_, path⟩
  rintro (_ | _)
  · exact .gone (TwoListings.over_first _)
  · exact lives_identify

end OneMatch

namespace Running

variable {ι : Type} [DecidableEq ι] {pids : UsbDevice → UInt16} {conduct : UsbDevice → Conduct}
  {processes : ι → Process} {before after : World pids} {trace : List (ι × Event SysAnswer)}

/-- **A match that is shown was made.** Whatever else runs on the machine, and whether `elanctl
identify` has finished, is running, was killed or ended in a panic: if it has printed that a slot
matched, then in its turn with a sensor this slot was matched, no other was, and the user id printed
is the one the sensor stored for it from the beginning. -/
theorem match_witnessed {i : ι} {args : List String} {s : UInt8} {shown : String}
    (running : Running processes conduct before trace after)
    (own_args : processes i = .elanctl args) (asked : args[1]? = some "identify")
    (printed : Text.line (.matchedSlot s shown) ∈ Sys.texts (own i trace)) :
    ∃ (dev : UsbDevice) (start finish : Sensor (pids dev)) (slot : Slot)
      (userId : UserId (pids dev)), World.Turn conduct before trace after i start finish ∧
        finish.matched = start.matched ++ [slot] ∧ s = UInt8.ofNat slot ∧
        (before.sensors dev).slots slot = some userId ∧
        shown = FingerInfo.userIdDisplay ⟨s, userId.bytes⟩ := by
  obtain ⟨done, rest, calls, same, begun⟩ := Process.exists_begun (running.lives i)
  rw [own_args] at begun
  obtain ⟨result, run⟩ := begun
  obtain ⟨code, -, described⟩ := Elanctl.runs_main run
  have inside : Text.line (.matchedSlot s shown) ∈ Sys.texts done := by
    rw [same, Sys.texts_append, Sys.texts_usbWords, List.append_nil] at printed
    exact printed
  have whole : Text.line (.matchedSlot s shown) ∈ Sys.texts (done ++ rest) := by
    rw [Sys.texts_append]
    exact List.mem_append_left _ inside
  obtain ⟨opening, me, cnt, ident, part, count, first, tail, info, later, attempt, cntRun, identRun,
    ordinary, query, rfl, split, quiet⟩ :=
      (described.runs_command asked (by decide)).exists_match whole
  -- Also a process that was killed printed the line after the match.
  obtain ⟨since, rfl, since_rest⟩ := exists_of_prefix split (Elanctl.mem_texts_iff.mp inside)
    (Elanctl.matchedSlot_not_mem cntRun identRun query)
  have silent : World.transfersTo me.handle.device since = [] := by
    have none := quiet me.handle.device
    rw [← since_rest, World.transfersTo_append] at none
    exact (List.append_eq_nil_iff.mp none).1
  have sensor : me.toElanMoc2 = ⟨pids me.handle.device, 0, true⟩ := by
    refine Elanctl.sensor_of_opened attempt fun event member => ?_
    refine World.named_of_path running.path event
      (List.mem_map_of_mem (f := Prod.snd) (mem_own_iff.mp (?_ : event ∈ own i trace)))
    rw [same]
    exact List.mem_append_left _ (List.mem_append_left _ (List.mem_append_left _ member))
  obtain ⟨start, finish, turn⟩ := running.exists_turn i me.handle.device
  have mine := turn
  obtain ⟨-, -, -, -, path, -⟩ := mine
  rw [same, World.transfersTo_append, World.transfersTo_append,
    World.transfersTo_usbWords, List.append_nil, World.transfersTo_printed, silent,
    List.append_nil] at path
  obtain ⟨slot, userId, named, matched, stored, rfl⟩ :=
    Elanctl.match_of_sensor sensor cntRun identRun ordinary query path
  rw [running.slots_of_turn turn] at stored
  exact ⟨_, start, finish, slot, userId, turn, matched, named, stored, rfl⟩

/-- The listing that was killed does not touch the match. -/
theorem match_witnessed_oneMatch : ∃ after, Running OneMatch.processes
    (fun _ => Sensor.ideal true) TwoListings.found OneMatch.trace after ∧
      ∃ (dev : UsbDevice) (start finish : Sensor 0x0c00) (slot : Slot) (userId : UserId 0x0c00),
        @World.Turn _ _ (fun _ => 0x0c00) (fun _ => Sensor.ideal true) TwoListings.found
          OneMatch.trace after true dev start finish ∧
        finish.matched = start.matched ++ [slot] ∧ (0 : UInt8) = UInt8.ofNat slot ∧
        (TwoListings.found.sensors dev).slots slot = some userId ∧
        FingerInfo.userIdDisplay ⟨0, [0x46]⟩ = FingerInfo.userIdDisplay ⟨0, userId.bytes⟩ := by
  obtain ⟨after, running⟩ := OneMatch.exists_running
  have printed : Text.line (.matchedSlot 0 (FingerInfo.userIdDisplay ⟨0, [0x46]⟩)) ∈
      Sys.texts (own true OneMatch.trace) := by
    repeat constructor
  exact ⟨after, running, running.match_witnessed rfl rfl printed⟩

end Running

end Elan0c00
