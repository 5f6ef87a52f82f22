import Elan0c00.Brackets
import Elan0c00.Listing
import Elan0c00.Processes

/-! # What the processes do to each other

Nothing that lasts. However `elanctl` and the probe are started, interleaved and killed, a sensor
sees the transfers of one process after another (`Running.exists_order`), so that none can come
between another's request and its reply; interface 0 changes hands only after it has been given
back; the user ids a sensor stores stay as they are; and once all processes are over, what they
had open is closed and what they had claimed is free.
-/

namespace Elan0c00

open Interaction Bytes

namespace World

variable {pids : UsbDevice → UInt16} {conduct : UsbDevice → Conduct} {before after : World pids}
  {dev : UsbDevice} {iface : UInt8} {trace : SysTrace}

/-- The transfers to a device are uses of the device. -/
theorem transfersTo_uses {ι : Type} {policies : ι → Policy} (dev : UsbDevice) (events : SysTrace) :
    transfersTo dev ((discipline policies).uses dev events) = transfersTo dev events := by
  unfold transfersTo Discipline.uses
  rw [List.filterMap_filter]
  apply List.filterMap_congr
  rintro ⟨request, answer⟩ -
  by_cases used : (discipline policies).used ⟨request, answer⟩ = some dev
  · exact if_pos (decide_eq_true used)
  · rw [if_neg (fun decided => used (of_decide_eq_true decided))]
    cases request with
    | writeBulk handle endpoint buf timeout =>
        exact (if_neg fun same => used (congrArg some same)).symm
    | readBulk handle endpoint len timeout =>
        exact (if_neg fun same => used (congrArg some same)).symm
    | _ => rfl

/-- A driver stays bound unless it is detached. -/
theorem bound_of_path (path : Path (env pids conduct) before trace after) :
    after.interfaces.bound dev iface = true ↔
      before.interfaces.bound dev iface = true ∧
        ∀ handle : DeviceHandle, handle.device = dev →
          usbWords.event (Usb.detached handle iface (.ok ())) ∉ trace := by
  induction path with
  | nil => simp
  | @cons before middle after request answer rest step tail ih =>
      have here : middle.interfaces.bound dev iface = true ↔
          before.interfaces.bound dev iface = true ∧
            ∀ handle : DeviceHandle, handle.device = dev →
              (⟨request, answer⟩ : Event SysAnswer) ≠
                usbWords.event (Usb.detached handle iface (.ok ())) := by
        cases request with
        | usb call =>
            obtain ⟨-, interfaces, -, -⟩ := step
            rw [interfaces, Interfaces.bound_after]
            refine and_congr_right fun _ => forall_congr' fun handle => forall_congr' fun _ => ?_
            refine not_congr ⟨?_, ?_⟩
            · intro same
              rw [← same]
              rfl
            · intro same
              cases same
              rfl
        | writeBulk =>
            rw [step.1]
            exact (and_iff_left (by rintro _ _ ⟨⟩)).symm
        | readBulk =>
            rw [step.1]
            exact (and_iff_left (by rintro _ _ ⟨⟩)).symm
        | _ =>
            obtain rfl := step
            exact (and_iff_left (by rintro _ _ ⟨⟩)).symm
      rw [ih, here, and_assoc]
      refine and_congr_right fun _ => ?_
      simp only [List.mem_cons, not_or, imp_and, forall_and, ne_comm, ne_eq]

/-- What is offered to one device is offered. -/
theorem sent_of_transfersTo {out : List UInt8}
    (sent : out ∈ Trace.outFrames (transfersTo dev trace)) : out ∈ Sys.outFrames trace := by
  obtain ⟨transfer, inside, offered⟩ := List.mem_filterMap.mp sent
  obtain ⟨⟨request, answer⟩, member, seen⟩ := List.mem_filterMap.mp inside
  refine List.mem_filterMap.mpr ⟨_, member, ?_⟩
  cases request with
  | writeBulk handle endpoint buf timeout =>
      obtain ⟨-, same⟩ := Option.ite_none_right_eq_some.mp seen
      cases same
      exact offered
  | readBulk handle endpoint len timeout =>
      obtain ⟨-, same⟩ := Option.ite_none_right_eq_some.mp seen
      cases same
      cases offered
  | _ => cases seen

end World

/-! ### Who may identify -/

namespace Elanctl

variable {dev : ElanMoc2} {trace : Trace} {out : List UInt8}

theorem SlotQueries.eq_of_mem {slots : List UInt8} (queries : SlotQueries slots trace)
    (attempted : out ∈ trace.outFrames) : ∃ i, out = [0x40, 0xff, 0x12, i] := by
  induction queries with
  | nil => cases attempted
  | cons query _ ih =>
      rw [Trace.outFrames_append, List.mem_append] at attempted
      rcases attempted with inside | later
      · exact ⟨_, query.eq_of_mem inside⟩
      · exact ih later

/-- Only the command `identify` asks the sensor to identify. -/
theorem Frames.eq_identify {command : Command} (frames : Frames dev command trace)
    (attempted : [0x40, 0xff, 0x03] ∈ trace.outFrames) : command = .identify := by
  cases command with
  | identify => rfl
  | info =>
      obtain ⟨fw, cnt, slots, count, rfl, single, query, -, queries⟩ := frames
      rw [Trace.outFrames_append, Trace.outFrames_append, single] at attempted
      rcases List.mem_append.mp attempted with first | rest
      · exact absurd first (by decide)
      · rcases List.mem_append.mp rest with second | third
        · exact absurd (query.eq_of_mem second) (by decide)
        · obtain ⟨i, same⟩ := queries.eq_of_mem third
          cases same
  | dump =>
      change trace.outFrames = _ at frames
      rw [frames] at attempted
      rcases List.mem_cons.mp attempted with same | rest
      · cases same
      · rcases List.mem_cons.mp rest with same | slots
        · cases same
        · obtain ⟨i, -, same⟩ := List.mem_map.mp slots
          cases same
  | collision =>
      change trace.outFrames = _ at frames
      rw [frames] at attempted
      cases List.mem_singleton.mp attempted

theorem CommandRun.eq_identify {command : Command} {trace : SysTrace} {code : ExitCode}
    (run : CommandRun command trace code) (attempted : [0x40, 0xff, 0x03] ∈ Sys.outFrames trace) :
    command = .identify := by
  cases run with
  | unopened attempt =>
      rw [Sys.outFrames_append, Sys.outFrames_usbWords] at attempted
      cases attempted
  | @ran opening dropping inner dev known attempt body drop =>
      rw [Sys.outFrames_append, Sys.outFrames_append, Sys.outFrames_usbWords,
        Sys.outFrames_usbWords, Sys.outFrames_sensorWords, List.nil_append, List.append_nil]
        at attempted
      have frames := (described_of_body body).frames
      have failed : Trace.outFrames ((failedLines known).map Bus.printed) = [] := by
        cases known <;> rfl
      have sent : [0x40, 0xff, 0x03] ∈ Trace.outFrames (Trace.transfers inner) := by
        rw [Trace.outFrames_transfers]
        rw [← Trace.outFrames_transfers, Bus.transfers_printed, Trace.outFrames_transfers,
          Trace.outFrames_append, failed, List.append_nil] at attempted
        exact attempted
      exact frames.eq_identify sent

/-- A run that asks the sensor to identify was started with the word `identify`. -/
theorem identify_of_runs {args : List String} {trace : SysTrace} {result : Except Fault ExitCode}
    (run : (main args).Runs trace result) (sent : [0x40, 0xff, 0x03] ∈ Sys.outFrames trace) :
    args[1]? = some "identify" := by
  obtain ⟨code, -, run⟩ := runs_main run
  cases run with
  | ran asked known run =>
      obtain rfl := run.eq_identify sent
      simp only [List.mem_cons, Prod.mk.injEq, reduceCtorEq, and_false, and_true, false_or,
        or_false, List.not_mem_nil] at known
      rw [asked, known]
  | helped => cases sent
  | unknown => cases sent

end Elanctl

namespace Process

variable {process : Process} {trace : SysTrace} {out : List UInt8}

/-- What a process has sent, it sends when it runs to its end. -/
theorem finishes_of_sent (lives : process.Lives trace) (sent : out ∈ Sys.outFrames trace) :
    ∃ whole, process.Finishes whole ∧ out ∈ Sys.outFrames whole := by
  obtain ⟨done, rest, calls, rfl, run⟩ := exists_begun lives
  rw [Sys.outFrames_append, Sys.outFrames_usbWords, List.append_nil] at sent
  refine ⟨_, run, ?_⟩
  rw [Sys.outFrames_append]
  exact List.mem_append_left _ sent

/-- A process that asks a sensor to identify is an `elanctl identify`. -/
theorem identify_of_lives (lives : process.Lives trace)
    (sent : [0x40, 0xff, 0x03] ∈ Sys.outFrames trace) :
    ∃ args, process = .elanctl args ∧ args[1]? = some "identify" := by
  obtain ⟨whole, run, inside⟩ := finishes_of_sent lives sent
  cases process with
  | elanctl args =>
      obtain ⟨result, run⟩ := run
      exact ⟨args, rfl, Elanctl.identify_of_runs run inside⟩
  | probe =>
      obtain ⟨phase, accepted, -⟩ := accepted_of_finishes run
      cases frames_of_watch accepted inside

end Process

/-! ### Two processes on one machine -/

namespace TwoListings

open OneSensor

/-- The first exchange after the claim. -/
def begun (handle : DeviceHandle) : SysTrace :=
  [Bus.printed (.opened 0x0c00), Bus.printed .readOnlyQueries,
    Bus.sentWhole [0x40, 0x19], Bus.received Proto.getFwVer ⟨_, version_fits⟩].map
      (sensorWords handle).event

theorem oneFinger_fits : ([0x40, 1] : List UInt8).length ≤ Proto.getEnrolledCount.inLen :=
  Nat.le_refl 2

/-- The rest of a listing of one slot. -/
def listed (handle : DeviceHandle) : SysTrace :=
  [Bus.printed (.fwVersion ⟨1, 2, (1, 2)⟩),
    Bus.sentWhole [0x40, 0xff, 0x04], Bus.received Proto.getEnrolledCount ⟨_, oneFinger_fits⟩,
    Bus.printed (.enrolledCount 1), Bus.printed .enrolledSlots,
    Bus.sentWhole [0x40, 0xff, 0x12, 0],
    Bus.received Proto.fingerInfo ⟨_, record_fits⟩,
    Bus.printed (.slot 0 (FingerInfo.userIdDisplay ⟨0, [0x46]⟩) 1)].map
      (sensorWords handle).event ++
  [Usb.released handle 0 (.ok ()), Usb.closed handle].map usbWords.event

theorem finishes (handle : DeviceHandle) (driver : Bool) :
    (Process.elanctl ["elanctl", "info"]).Finishes
      (finding handle ++ opening handle driver ++ claim handle ::
        (begun handle ++ listed handle)) := by
  refine ⟨.ok .success, ?_⟩
  cases driver <;> repeat constructor

/-- The second finds the sensor while the first has it. -/
def between : List (Bool × Event SysAnswer) :=
  (begun (handle 0)).map (Prod.mk false) ++
    (finding (handle 1) ++ opening (handle 1) false).map (Prod.mk true) ++
      [(false, usbWords.event (Usb.closed (handle 0)))]

/-- The first is killed when it has its first reply. What the second does after its claim is
left open. -/
def traceWith (later : SysTrace) : List (Bool × Event SysAnswer) :=
  (finding (handle 0) ++ opening (handle 0) true).map (Prod.mk false) ++
    (false, claim (handle 0)) ::
      (between ++ (true, claim (handle 1)) :: later.map (Prod.mk true))

/-- A sensor with one finger, and a driver bound to it. -/
def found : World fun _ => 0x0c00 where
  interfaces := ⟨fun _ _ => true, fun _ _ => false⟩
  live _ := false
  sensors _ := Sensor.blank.store 0 (some Sensor.oneByte)
  claimed_live := by rintro _ _ ⟨⟩

theorem answers_version (sensor : Sensor 0x0c00) :
    Sensor.Answers (Sensor.ideal true) sensor [0x40, 0x19] [1, 2] sensor :=
  .other (by decide) (by decide) (by rintro _ ⟨⟩) (by decide)

/-- When the second has its claim, the sensors are as they were found. -/
theorem exists_path {later : SysTrace}
    (goes : ∀ now : World fun _ => 0x0c00, now.sensors = found.sensors →
      ∃ after, Path (World.env (fun _ => 0x0c00) fun _ => Sensor.ideal true) now later after) :
    ∃ after, Path (World.env (fun _ => 0x0c00) fun _ => Sensor.ideal true) found
      ((traceWith later).map Prod.snd) after := by
  open World in
  have second : (later.map (Prod.mk true)).map Prod.snd = later := by simp
  -- finding, opening with a driver, claiming, and the first exchange
  refine exists_path_call trivial (exists_path_call trivial (exists_path_call rfl ?_))
  refine exists_path_call rfl (exists_path_call rfl (exists_path_call trivial ?_))
  refine exists_path_call trivial (exists_path_call ⟨rfl, fun _ _ _ => rfl⟩ ?_)
  refine exists_path_printed (exists_path_printed ?_)
  refine exists_path_exchange (answers_version _) rfl ?_
  -- the second up to its claim, which is granted once the handle of the first is closed
  refine exists_path_call trivial (exists_path_call trivial (exists_path_call rfl ?_))
  refine exists_path_call rfl (exists_path_call rfl (exists_path_call trivial ?_))
  refine exists_path_call trivial (exists_path_call ⟨rfl, fun other _ _ => ?_⟩ ?_)
  · change (decide (other = handle 0 ∧ (0 : UInt8) = 0) && !decide (other = handle 0)) = false
    by_cases same : other = handle 0 <;> simp [same]
  · rw [second]
    exact goes _ (Function.update_eq_self ..)

def listing : SysTrace := begun (handle 1) ++ listed (handle 1)

/-- The second lists what the sensor has. -/
def trace : List (Bool × Event SysAnswer) := traceWith listing

theorem count_found : ([0x40, 1] : List UInt8) =
    [0x40, UInt8.ofNat (found.sensors ⟨0⟩).count] := by
  decide

/-- A listing goes on from there. -/
theorem exists_path_listing (now : World fun _ => 0x0c00) (same : now.sensors = found.sensors) :
    ∃ after, Path (World.env (fun _ => 0x0c00) fun _ => Sensor.ideal true) now
      listing after := by
  obtain ⟨interfaces, live, sensors, claimed_live⟩ := now
  obtain rfl := same
  open World in
  have record (sensor : Sensor 0x0c00)
      (shown : sensor.shown (Sensor.ideal true) 0 = some Sensor.oneByte) :
      Sensor.Answers (Sensor.ideal true) sensor [0x40, 0xff, 0x12, 0]
        (Proto.record 0x0c00 0 0 [0x46]) sensor :=
    .record rfl shown rfl
  refine exists_path_printed (exists_path_printed ?_)
  refine exists_path_exchange (answers_version _) rfl (exists_path_printed ?_)
  refine exists_path_exchange (.count rfl) count_found ?_
  refine exists_path_printed (exists_path_printed ?_)
  refine exists_path_exchange (record _ rfl) (by decide) ?_
  refine exists_path_printed (exists_path_call trivial (exists_path_call trivial ?_))
  exact ⟨_, .nil _⟩

theorem own_first (later : SysTrace) : own false (traceWith later) =
    finding (handle 0) ++ opening (handle 0) true ++ claim (handle 0) :: begun (handle 0) ++
      Process.closings [handle 0] := by
  have other : true ≠ false := nofun
  unfold traceWith between
  simp only [own_append, own_cons_self, own_cons_other other, own_map_mk_self,
    own_map_mk_other other, List.nil_append, List.append_assoc, List.cons_append]
  rfl

theorem own_second (later : SysTrace) : own true (traceWith later) =
    finding (handle 1) ++ opening (handle 1) false ++ claim (handle 1) :: later := by
  have other : false ≠ true := nofun
  unfold traceWith between
  simp only [own_append, own_cons_self, own_cons_other other, own_map_mk_self,
    own_map_mk_other other, List.nil_append]
  rfl

theorem over_first (later : SysTrace) :
    (Process.elanctl ["elanctl", "info"]).Over (own false (traceWith later)) := by
  rw [own_first]
  refine @Process.Over.killed _ _ (listed (handle 0)) ?_
  rw [List.append_assoc]
  exact finishes (handle 0) true

theorem over_second : (Process.elanctl ["elanctl", "info"]).Over
    (own true trace) := by
  rw [trace, own_second]
  exact .finished (finishes (handle 1) false)

theorem exists_running : ∃ after, Running (fun _ => .elanctl ["elanctl", "info"])
    (fun _ => Sensor.ideal true) found trace after := by
  obtain ⟨after, path⟩ := exists_path exists_path_listing
  refine ⟨after, ?_, path⟩
  rintro (_ | _)
  · exact .gone (over_first _)
  · exact .gone over_second

end TwoListings

/-- **Brackets.** A process that is over, whether it finished, was killed or ended in a panic, has
opened a device only after reading that it is supported, has made its bulk and control transfers
only through a handle with a granted claim of interface 0 that it had not given back, and has its
handle closed. -/
theorem Process.over_bracketed {process : Process} {trace : SysTrace} (gone : process.Over trace) :
    Bracketed process.policy.supports trace := by
  obtain ⟨phase, accepted, ended⟩ := accepted_of_over gone
  exact bracketed_of_watch accepted ended

/-- The first listing, which was killed. -/
theorem Process.over_bracketed_listing :
    Bracketed Elanctl.policy.supports (own false TwoListings.trace) :=
  over_bracketed (TwoListings.over_first _)

/-! ### Running processes -/

namespace Running

variable {ι : Type} [DecidableEq ι] {pids : UsbDevice → UInt16} {conduct : UsbDevice → Conduct}
  {processes : ι → Process} {before after : World pids} {trace : List (ι × Event SysAnswer)}
  {i j : ι} {handle handle' : DeviceHandle} {dev : UsbDevice}

/-- The processes are a pool, and have custody of what they hold. -/
theorem exists_pool (running : Running processes conduct before trace after) :
    ∃ states, (discipline fun i => (processes i).policy).Pool Phase.start trace states ∧
      Custody before after states :=
  Custody.exists_pool (fun i => Process.accepted_of_lives (running.lives i)) running.path

theorem exists_order (running : Running processes conduct before trace after) (dev : UsbDevice) :
    ∃ order : List ι, order.Nodup ∧
      World.transfersTo dev (trace.map Prod.snd) =
        order.flatMap (fun i => World.transfersTo dev (own i trace)) ∧
      ∀ i, i ∉ order → World.transfersTo dev (own i trace) = [] := by
  obtain ⟨states, pool, -⟩ := running.exists_pool
  obtain ⟨order, serial⟩ := pool.exists_serial rfl dev
  refine ⟨order, serial.distinct, ?_, fun i absent => ?_⟩
  · rw [← World.transfersTo_uses, serial.serial, World.transfersTo, List.filterMap_flatMap]
    exact List.flatMap_congr fun i _ => World.transfersTo_uses dev _
  · rw [← World.transfersTo_uses, serial.absent i absent]
    rfl

/-- **One process after another.** However the processes are interleaved, and whenever some of
them are killed, a sensor sees all the bulk transfers of one process, then all those of the next. -/
theorem sensor_serial (running : Running processes conduct before trace after)
    (dev : UsbDevice) :
    ∃ order : List ι, order.Nodup ∧
      (∀ i, World.transfersTo dev (own i trace) ≠ [] → i ∈ order) ∧
      World.transfersTo dev (trace.map Prod.snd) =
        order.flatMap (fun i => World.transfersTo dev (own i trace)) ∧
      Path (Sensor.environment (pids dev) (conduct dev)) (before.sensors dev)
        (order.flatMap fun i => World.transfersTo dev (own i trace)) (after.sensors dev) := by
  obtain ⟨order, distinct, serial, absent⟩ := running.exists_order dev
  refine ⟨order, distinct, fun i some => ?_, serial, ?_⟩
  · by_contra outside
    exact some (absent i outside)
  · rw [← serial]
    exact World.path_sensor running.path dev

/-- The two listings. -/
theorem sensor_serial_listings : ∃ after, Running (fun _ => .elanctl ["elanctl", "info"])
    (fun _ => Sensor.ideal true) TwoListings.found TwoListings.trace after ∧
      ∃ order : List Bool, order.Nodup ∧
        (∀ i, World.transfersTo ⟨0⟩ (own i TwoListings.trace) ≠ [] → i ∈ order) ∧
        World.transfersTo ⟨0⟩ (TwoListings.trace.map Prod.snd) =
          order.flatMap (fun i => World.transfersTo ⟨0⟩ (own i TwoListings.trace)) ∧
        Path (Sensor.environment 0x0c00 (Sensor.ideal true)) (TwoListings.found.sensors ⟨0⟩)
          (order.flatMap fun i => World.transfersTo ⟨0⟩ (own i TwoListings.trace))
          (after.sensors ⟨0⟩) := by
  obtain ⟨after, running⟩ := TwoListings.exists_running
  exact ⟨after, running, running.sensor_serial ⟨0⟩⟩

/-- What is sent, one of the processes sends. -/
theorem own_of_sent {out : List UInt8} (sent : out ∈ Sys.outFrames (trace.map Prod.snd)) :
    ∃ i, out ∈ Sys.outFrames (own i trace) := by
  obtain ⟨event, member, offered⟩ := List.mem_filterMap.mp sent
  obtain ⟨⟨i, _⟩, inside, rfl⟩ := List.mem_map.mp member
  exact ⟨i, List.mem_filterMap.mpr ⟨_, mem_own_iff.mpr inside, offered⟩⟩

/-- No process sends a persistent command. -/
theorem harmless_own (running : Running processes conduct before trace after) (i : ι) :
    ∀ out ∈ Sys.outFrames (own i trace), ¬ Proto.PersistentHeader out := by
  intro out inside
  obtain ⟨phase, accepted⟩ := Process.accepted_of_lives (running.lives i)
  have allowed := frames_of_watch accepted inside
  cases own : processes i with
  | elanctl args =>
      rw [own] at allowed
      exact of_decide_eq_true allowed
  | probe =>
      rw [own] at allowed
      cases allowed

theorem harmless (running : Running processes conduct before trace after) :
    ∀ out ∈ Sys.outFrames (trace.map Prod.snd), ¬ Proto.PersistentHeader out := by
  intro out sent
  obtain ⟨i, inside⟩ := own_of_sent sent
  exact running.harmless_own i out inside

/-- **Nothing stored changes.** At any time the user ids every sensor stores are those it stored
before the processes were started, and what it identified last is what it had identified unless
an `elanctl identify` is among them. -/
theorem slots_kept (running : Running processes conduct before trace after) (dev : UsbDevice) :
    (after.sensors dev).slots = (before.sensors dev).slots ∧
      ((∀ i args, processes i = .elanctl args → args[1]? ≠ some "identify") →
        (after.sensors dev).lastIdentified = (before.sensors dev).lastIdentified ∧
        (after.sensors dev).matched = (before.sensors dev).matched) := by
  obtain ⟨slots, kept⟩ := Sensor.path_frame (World.path_sensor running.path dev) fun out sent =>
    running.harmless out (World.sent_of_transfersTo sent)
  refine ⟨slots, fun none => kept fun sent => ?_⟩
  obtain ⟨i, inside⟩ := own_of_sent (World.sent_of_transfersTo sent)
  obtain ⟨args, same, asked⟩ := Process.identify_of_lives (running.lives i) inside
  exact none i args same asked

/-- The two listings leave the finger and the match as they are. -/
theorem slots_kept_listings : ∃ after, Running (fun _ => .elanctl ["elanctl", "info"])
    (fun _ => Sensor.ideal true) TwoListings.found TwoListings.trace after ∧
      (after.sensors ⟨0⟩).slots = (TwoListings.found.sensors ⟨0⟩).slots ∧
        (after.sensors ⟨0⟩).matched = [] := by
  obtain ⟨after, running⟩ := TwoListings.exists_running
  obtain ⟨slots, kept⟩ := running.slots_kept ⟨0⟩
  refine ⟨after, running, slots, (kept ?_).2⟩
  rintro i args same asked
  cases same
  exact absurd asked (by decide)

/-- The processes in the middle of what they do. -/
theorem exists_pool_between {first second : List (ι × Event SysAnswer)}
    (running : Running processes conduct before (first ++ second) after) :
    ∃ states now, (discipline fun i => (processes i).policy).Pool Phase.start first states ∧
      Custody before now states ∧ Path (World.env pids conduct) now (second.map Prod.snd) after ∧
      ∀ i, ∃ phase,
        (lifecycle (processes i).policy).watch (states i) (own i second) = some phase := by
  have path := running.path
  rw [List.map_append] at path
  obtain ⟨now, head, tail⟩ := Path.append_iff.mp path
  have accepted : ∀ i, ∃ middle phase,
      (lifecycle (processes i).policy).watch Phase.start (own i first) = some middle ∧
        (lifecycle (processes i).policy).watch middle (own i second) = some phase := by
    intro i
    obtain ⟨phase, whole⟩ := Process.accepted_of_lives (running.lives i)
    rw [own_append] at whole
    obtain ⟨middle, early, late⟩ := Monitor.watch_append_iff.mp whole
    exact ⟨middle, phase, early, late⟩
  obtain ⟨states, pool, custody⟩ := Custody.exists_pool
    (fun i => (accepted i).imp fun _ ⟨_, early, _⟩ => early) head
  refine ⟨states, now, pool, custody, tail, fun i => ?_⟩
  obtain ⟨middle, phase, early, late⟩ := accepted i
  obtain rfl := Option.some.inj (early.symm.trans (pool.watch_own i))
  exact ⟨phase, late⟩

/-- A claim that was granted puts the process in possession. -/
theorem holding_of_claimed {states : ι → Phase} {policies : ι → Policy}
    {earlier : List (ι × Event SysAnswer)}
    (pool : (discipline policies).Pool Phase.start
      (earlier ++ [(i, usbWords.event (Usb.claimed handle 0 (.ok ())))]) states) :
    states i = .holding handle := by
  have whole := pool.watch_own i
  rw [own_snoc_self] at whole
  obtain ⟨phase, -, tail⟩ := Monitor.watch_append_iff.mp whole
  obtain ⟨_, step, same⟩ := Monitor.watch_cons_iff.mp tail
  cases same
  generalize states i = now at step ⊢
  cases lifecycle_iff.mp step with
  | claims => rfl

/-- Only the process that has a handle releases or closes it. -/
theorem eq_of_gives {first rest : List (ι × Event SysAnswer)} {event : Event SysAnswer}
    {phase : Phase} (running : Running processes conduct before (first ++ (j, event) :: rest) after)
    (come : (lifecycle (processes i).policy).watch Phase.start (own i first) = some phase)
    (mine : phase.handle? = some handle)
    (gives : act event = .releases handle 0 ∨ act event = .closes handle) : j = i := by
  obtain ⟨states, now, pool, custody, -, accepted⟩ := running.exists_pool_between
  obtain rfl := Option.some.inj ((pool.watch_own i).symm.trans come)
  obtain ⟨phase, tail⟩ := accepted j
  rw [own_cons_self] at tail
  obtain ⟨next, step, -⟩ := Monitor.watch_cons_iff.mp tail
  rw [lifecycle_iff] at step
  have theirs : (states j).handle? = some handle := by
    generalize states j = now at step ⊢
    rcases gives with gives | gives
    · rw [gives] at step
      cases step with
      | releases => rfl
    · rw [gives] at step
      cases step with
      | closes own => exact own
  exact custody.apart j i handle theirs mine

/-- From its claim until it closes the handle, a process has it. -/
theorem has_since {first early rest : List (ι × Event SysAnswer)}
    (running : Running processes conduct before
      (first ++ [(i, usbWords.event (Usb.claimed handle 0 (.ok ())))] ++ (early ++ rest)) after)
    (kept : usbWords.event (Usb.closed handle) ∉ own i early) :
    ∃ phase, (lifecycle (processes i).policy).watch Phase.start
        (own i (first ++ [(i, usbWords.event (Usb.claimed handle 0 (.ok ())))] ++ early)) =
          some phase ∧ (phase = .holding handle ∨ phase = .released handle) := by
  obtain ⟨states, now, pool, -, -, accepted⟩ := running.exists_pool_between
  obtain ⟨_, whole⟩ := accepted i
  rw [own_append] at whole
  obtain ⟨phase, since, -⟩ := Monitor.watch_append_iff.mp whole
  refine ⟨phase, ?_, ?_⟩
  · rw [own_append]
    exact Monitor.watch_append_iff.mpr ⟨_, pool.watch_own i, since⟩
  · refine watch_claimed since (.inl (holding_of_claimed pool)) fun event member closes => ?_
    rw [of_act closes] at member
    exact kept member

/-- Nobody claims through a handle that was claimed through. -/
theorem not_claims {first rest : List (ι × Event SysAnswer)} {phase : Phase}
    (running : Running processes conduct before
      (first ++ (j, usbWords.event (Usb.claimed handle 0 (.ok ()))) :: rest) after)
    (come : (lifecycle (processes i).policy).watch Phase.start (own i first) = some phase)
    (has : phase = .holding handle ∨ phase = .released handle) : False := by
  obtain ⟨states, _, pool, custody, -, accepted⟩ := running.exists_pool_between
  obtain rfl := Option.some.inj ((pool.watch_own i).symm.trans come)
  obtain ⟨_, tail⟩ := accepted j
  rw [own_cons_self] at tail
  obtain ⟨next, step, -⟩ := Monitor.watch_cons_iff.mp tail
  rw [lifecycle_iff] at step
  generalize opened : states j = theirs at step
  cases step with
  | claims =>
      have mine : (states i).handle? = some handle := by
        rcases has with has | has <;> rw [has] <;> rfl
      -- One handle is had by one process, and a process claims once.
      have one := custody.apart i j handle mine (by rw [opened]; rfl)
      rw [← one] at opened
      rcases has with has | has <;> cases has.symm.trans opened

/-- **Interface 0 changes hands only when it is given back.** Between two granted claims of it on
one device, the process that had the first was granted its release or has closed. -/
theorem exclusive {first middle last : List (ι × Event SysAnswer)}
    (running : Running processes conduct before
      (first ++ (i, usbWords.event (Usb.claimed handle 0 (.ok ()))) ::
        (middle ++ (j, usbWords.event (Usb.claimed handle' 0 (.ok ()))) :: last)) after)
    (same : handle.device = handle'.device) :
    ∃ event ∈ own i middle, event = usbWords.event (Usb.released handle 0 (.ok ())) ∨
      event = usbWords.event (Usb.closed handle) := by
  by_contra kept
  have open_ : usbWords.event (Usb.closed handle) ∉ own i middle := fun member =>
    kept ⟨_, member, .inr rfl⟩
  rw [← List.singleton_append, ← List.append_assoc] at running
  -- In between nobody gives the interface back: only the first process could.
  have quiet : ∀ event ∈ middle.map Prod.snd,
      event ≠ usbWords.event (Usb.released handle 0 (.ok ())) ∧
        event ≠ usbWords.event (Usb.closed handle) := by
    intro event member
    obtain ⟨⟨k, _⟩, inside, rfl⟩ := List.mem_map.mp member
    obtain ⟨early, late, rfl⟩ := List.append_of_mem inside
    rw [own_append, List.mem_append, not_or] at open_
    rw [List.append_assoc early] at running
    obtain ⟨phase, come, has⟩ := running.has_since open_.1
    have mine : phase.handle? = some handle := by rcases has with rfl | rfl <;> rfl
    rw [← List.append_assoc] at running
    refine ⟨?_, ?_⟩
    · rintro rfl
      obtain rfl := running.eq_of_gives come mine (.inl rfl)
      exact kept ⟨_, mem_own_iff.mpr inside, .inl rfl⟩
    · rintro rfl
      obtain rfl := running.eq_of_gives come mine (.inr rfl)
      exact kept ⟨_, mem_own_iff.mpr inside, .inr rfl⟩
  obtain ⟨states, now, pool, custody, path, -⟩ := running.exists_pool_between
  have claimed := custody.holds i handle (holding_of_claimed pool)
  rw [List.map_append] at path
  obtain ⟨_, between, later⟩ := Path.append_iff.mp path
  have claimed' := World.claims_of_path between claimed quiet
  obtain ⟨_, ⟨⟨-, free⟩, -⟩, -⟩ := Path.cons_iff.mp later
  by_cases equal : handle = handle'
  · subst equal
    obtain ⟨phase, come, has⟩ := running.has_since open_
    rw [← List.append_assoc] at running
    exact running.not_claims come has
  · rw [free handle equal same] at claimed'
    cases claimed'

/-- The second listing claims what the first had claimed, which was closed when it was killed. -/
theorem exclusive_listings : ∃ after, Running (fun _ => .elanctl ["elanctl", "info"])
    (fun _ => Sensor.ideal true) TwoListings.found TwoListings.trace after ∧
      ∃ event ∈ own false TwoListings.between,
        event = usbWords.event (Usb.released (OneSensor.handle 0) 0 (.ok ())) ∨
          event = usbWords.event (Usb.closed (OneSensor.handle 0)) := by
  obtain ⟨after, running⟩ := TwoListings.exists_running
  exact ⟨after, running, exclusive running rfl⟩

/-- **What was found is left.** Once every process is over, the handles in use
and the claims are those that were found, and so are the kernel drivers, but for those `elanctl`
detached from interface 0. -/
theorem restored (running : Running processes conduct before trace after)
    (gone : ∀ i, (processes i).Over (own i trace)) :
    after.live = before.live ∧ after.interfaces.claims = before.interfaces.claims ∧
      ∀ dev iface, after.interfaces.bound dev iface = true ↔
        before.interfaces.bound dev iface = true ∧
          ∀ i args (handle : DeviceHandle), processes i = .elanctl args → handle.device = dev →
            iface = 0 → usbWords.event (Usb.detached handle 0 (.ok ())) ∉ own i trace := by
  obtain ⟨states, pool, custody⟩ := running.exists_pool
  have ended : ∀ i, (states i).handle? = none := by
    intro i
    obtain ⟨phase, accepted, ended⟩ := Process.accepted_of_over (gone i)
    obtain rfl := Option.some.inj ((pool.watch_own i).symm.trans accepted)
    exact ended
  have kept := fun handle => custody.kept handle fun i => by
    rw [ended i]
    rintro ⟨⟩
  refine ⟨funext fun handle => (kept handle).1, funext fun handle => (kept handle).2,
    fun dev iface => ?_⟩
  rw [World.bound_of_path running.path]
  refine and_congr_right fun _ => ⟨?_, ?_⟩
  · rintro never i args handle - here rfl inside
    exact never handle here (List.mem_map_of_mem (f := Prod.snd) (mem_own_iff.mp inside))
  · intro never handle here inside
    obtain ⟨⟨i, _⟩, member, rfl⟩ := List.mem_map.mp inside
    have mine := mem_own_iff.mpr member
    obtain ⟨phase, accepted⟩ := Process.accepted_of_lives (running.lives i)
    obtain ⟨allowed, rfl⟩ := detaches_of_watch accepted mine
    cases own : processes i with
    | elanctl args => exact never i args handle own here rfl mine
    | probe =>
        rw [own] at allowed
        cases allowed

/-- After the two listings nothing is open or claimed, and the driver of interface 0 is gone. -/
theorem restored_listings : ∃ after, Running (fun _ => .elanctl ["elanctl", "info"])
    (fun _ => Sensor.ideal true) TwoListings.found TwoListings.trace after ∧
      after.live = TwoListings.found.live ∧
        after.interfaces.claims = TwoListings.found.interfaces.claims ∧
          after.interfaces.bound ⟨0⟩ 0 = false ∧ after.interfaces.bound ⟨0⟩ 1 = true := by
  obtain ⟨after, running⟩ := TwoListings.exists_running
  obtain ⟨live, claims, bound⟩ := running.restored fun i => by
    cases i with
    | false => exact TwoListings.over_first _
    | true => exact TwoListings.over_second
  refine ⟨after, running, live, claims, ?_, (bound ⟨0⟩ 1).mpr ⟨rfl, ?_⟩⟩
  · rw [Bool.eq_false_iff]
    intro still
    refine ((bound ⟨0⟩ 0).mp still).2 false _ (OneSensor.handle 0) rfl rfl rfl ?_
    rw [TwoListings.trace, TwoListings.own_first]
    simp [OneSensor.opening]
  · rintro i args handle - - ⟨⟩

end Running

end Elan0c00
