import Elan0c00.Finding
import Elan0c00.Isolation
import Elan0c00.Listing

/-! # What `info` shows among other processes

A process sees its sensor as if it were alone with it (`Running.exists_alone`): other processes
have their transfers before or after, and a reply they left unread is dropped (`Sensor`). So what
`elanctl info` has printed of the slots by the time it is looked at, whether it is still running or
has been killed, is true of one state of the sensor, and of the user ids that were stored from the
beginning.
-/

namespace Elan0c00

open Interaction Bytes

/-! ### Alone with the sensors -/

/-- A descriptor that is read names the product of the device. -/
def Named (pids : UsbDevice → UInt16) (event : Event SysAnswer) : Prop :=
  ∀ dev d, event = usbWords.event (Usb.described dev (.ok d)) → d.productId = pids dev

/-- The sensors as the environment of one process. -/
def alone (pids : UsbDevice → UInt16) (conduct : UsbDevice → Conduct) :
    Environment SysAnswer (Sensors pids) :=
  fun before request answer after => Named pids ⟨request, answer⟩ ∧
    ∀ dev, Path (Sensor.environment (pids dev) (conduct dev)) (before dev)
      (World.transfersTo dev [⟨request, answer⟩]) (after dev)

section Alone

variable {pids : UsbDevice → UInt16} {conduct : UsbDevice → Conduct} {before after : Sensors pids}
  {trace : SysTrace} {dev : UsbDevice} {handle : DeviceHandle}

end Alone

/-- What the kernel answers names the products. -/
theorem World.named_of_path {pids : UsbDevice → UInt16} {conduct : UsbDevice → Conduct}
    {before after : World pids} {trace : SysTrace}
    (path : Path (World.env pids conduct) before trace after) :
    ∀ event ∈ trace, Named pids event := by
  induction path with
  | nil => exact List.forall_mem_nil _
  | cons step tail ih =>
      refine List.forall_mem_cons.mpr ⟨?_, ih⟩
      intro dev d same
      cases same
      exact step.1

namespace World

variable {handle : DeviceHandle}

/-- Opening and dropping transfer nothing. -/
theorem transfersTo_usbWords (dev : UsbDevice) (trace : UsbTrace) :
    transfersTo dev (trace.map usbWords.event) = [] := by
  apply List.filterMap_eq_nil_iff.mpr
  intro event member
  obtain ⟨call, _, rfl⟩ := List.mem_map.mp member
  rfl

/-- Printing transfers nothing. -/
theorem transfersTo_printed (dev : UsbDevice) (text : Text) (rest : SysTrace) :
    transfersTo dev (Sys.printed text :: rest) = transfersTo dev rest := rfl

/-- Through a handle the library transfers to the device of the handle. -/
theorem transfersTo_sensorWords (handle : DeviceHandle) (trace : Trace) :
    transfersTo handle.device (trace.map (sensorWords handle).event) = trace.transfers := by
  unfold transfersTo Trace.transfers
  rw [List.filterMap_map, ← List.filterMap_eq_filter]
  apply List.filterMap_congr
  rintro ⟨request, answer⟩ -
  cases request with
  | println => rfl
  | _ => exact if_pos rfl

end World

/-- Printing a line does not reach the sensor. -/
theorem Sensor.path_transfers_iff {pid : UInt16} {conduct : Conduct} {before after : Sensor pid}
    {trace : Trace} :
    Path (environment pid conduct) before trace.transfers after ↔
      Path (environment pid conduct) before trace after := by
  induction trace generalizing before with
  | nil => rfl
  | cons event rest ih =>
      rcases event with ⟨request, answer⟩
      have onward :
          Path (environment pid conduct) before (⟨request, answer⟩ :: Trace.transfers rest) after ↔
            Path (environment pid conduct) before (⟨request, answer⟩ :: rest) after := by
        rw [Path.cons_iff, Path.cons_iff]
        exact exists_congr fun middle => and_congr_right fun _ => ih
      cases request with
      | println line => exact ih.trans path_printed_iff.symm
      | _ => exact onward

namespace Elanctl

variable {command : Command} {pids : UsbDevice → UInt16} {conduct : UsbDevice → Conduct}
  {before after : Sensors pids} {trace : SysTrace} {code : ExitCode}

/-- The sensor opened is that of the device. -/
theorem sensor_of_opened {opening : UsbTrace} {me : Opened}
    (attempt : openElanMoc2.run.Runs opening (.ok (.ok me)))
    (named : ∀ event ∈ opening.map usbWords.event, Named pids event) :
    me.toElanMoc2 = ⟨pids me.handle.device, 0, true⟩ := by
  obtain ⟨ctx, seen, d, d', rest, preparing, rfl, -, -, -, same⟩ :=
    runs_openElanMoc2_ok_iff.mp attempt
  have product : d'.productId = pids me.handle.device := by
    refine named _ ?_ me.handle.device d' rfl
    simp
  rw [same, product]

end Elanctl

/-- The turn of a process with a sensor: its transfers have no other process's between them. -/
def World.Turn {ι : Type} [DecidableEq ι] {pids : UsbDevice → UInt16}
    (conduct : UsbDevice → Conduct) (before : World pids) (trace : List (ι × Event SysAnswer))
    (after : World pids) (i : ι) {dev : UsbDevice} (start finish : Sensor (pids dev)) : Prop :=
  ∃ early late : Trace,
    transfersTo dev (trace.map Prod.snd) = early ++ transfersTo dev (own i trace) ++ late ∧
      Path (Sensor.environment (pids dev) (conduct dev)) (before.sensors dev) early start ∧
      Path (Sensor.environment (pids dev) (conduct dev)) start
        (transfersTo dev (own i trace)) finish ∧
      Path (Sensor.environment (pids dev) (conduct dev)) finish late (after.sensors dev)

namespace Running

variable {ι : Type} [DecidableEq ι] {pids : UsbDevice → UInt16} {conduct : UsbDevice → Conduct}
  {processes : ι → Process} {before after : World pids} {trace : List (ι × Event SysAnswer)}

/-- A process has its turn with every sensor. -/
theorem exists_turn (running : Running processes conduct before trace after) (i : ι)
    (dev : UsbDevice) :
    ∃ start finish : Sensor (pids dev), World.Turn conduct before trace after i start finish := by
  obtain ⟨order, -, serial, absent⟩ := running.exists_order dev
  have path := World.path_sensor running.path dev
  by_cases member : i ∈ order
  · obtain ⟨first, last, rfl⟩ := List.append_of_mem member
    rw [List.flatMap_append, List.flatMap_cons, ← List.append_assoc] at serial
    rw [serial] at path
    obtain ⟨finish, path, late⟩ := Path.append_iff.mp path
    obtain ⟨start, early, mine⟩ := Path.append_iff.mp path
    exact ⟨start, finish, _, _, serial, early, mine, late⟩
  · refine ⟨_, _, [], _, ?_, .nil _, absent i member ▸ .nil _, path⟩
    rw [absent i member]
    rfl

/-- What is stored when a process has its turn was stored from the beginning. -/
theorem slots_of_turn {dev : UsbDevice} {i : ι} {start finish : Sensor (pids dev)}
    (running : Running processes conduct before trace after)
    (turn : World.Turn conduct before trace after i start finish) :
    start.slots = (before.sensors dev).slots := by
  obtain ⟨early, late, serial, path, -⟩ := turn
  refine (Sensor.path_frame path fun out sent => ?_).1
  have whole : out ∈ Trace.outFrames (World.transfersTo dev (trace.map Prod.snd)) := by
    rw [serial, Trace.outFrames_append, Trace.outFrames_append]
    exact List.mem_append_left _ (List.mem_append_left _ sent)
  exact running.harmless out (World.sent_of_transfersTo whole)

end Running

end Elan0c00
