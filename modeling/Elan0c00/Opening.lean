import Elan0c00.Device

/-! # Opening and dropping the sensor

Opening takes a fixed list of libusb calls, each of which may fail; a kernel driver that is
reported active is detached before interface 0 is claimed. On an early return what has been
built so far is dropped. `openRun_of_runs` lists the runs there are, with the calls made in
each; a dropped sensor releases its interface once and closes its handle (`runs_drop_iff`).
-/

namespace Elan0c00

open Interaction Interaction.Fallible Bytes

/-- A libusb context. -/
structure Context where
  number : Nat
  deriving DecidableEq, Repr

/-- A device on the bus. -/
structure UsbDevice where
  number : Nat
  deriving DecidableEq, Repr

/-- What a device descriptor is read for. -/
structure DeviceDescriptor where
  vendorId : UInt16
  productId : UInt16
  deriving DecidableEq, Repr

/-- An open handle to a device. -/
structure DeviceHandle where
  device : UsbDevice
  number : Nat
  deriving DecidableEq, Repr

/-- One call to libusb made by opening or dropping the sensor. -/
inductive UsbRequest where
  | newContext
  | devices (ctx : Context)
  | deviceDescriptor (dev : UsbDevice)
  | openDevice (dev : UsbDevice)
  | kernelDriverActive (handle : DeviceHandle) (iface : UInt8)
  | detachKernelDriver (handle : DeviceHandle) (iface : UInt8)
  | claimInterface (handle : DeviceHandle) (iface : UInt8)
  | releaseInterface (handle : DeviceHandle) (iface : UInt8)
  | close (handle : DeviceHandle)
  deriving DecidableEq, Repr

/-- What a call returns. -/
def UsbAnswer : UsbRequest → Type
  | .newContext => Except UsbError Context
  | .devices _ => Except UsbError (List UsbDevice)
  | .deviceDescriptor _ => Except UsbError DeviceDescriptor
  | .openDevice dev => Except UsbError {handle : DeviceHandle // handle.device = dev}
  | .kernelDriverActive _ _ => Except UsbError Bool
  | .detachKernelDriver _ _ => Except UsbError Unit
  | .claimInterface _ _ => Except UsbError Unit
  | .releaseInterface _ _ => Except UsbError Unit
  | .close _ => Unit

abbrev UsbM := Fallible UsbAnswer Fault Error

abbrev UsbTrace := List (Event UsbAnswer)

def newContext : UsbM Context :=
  Fallible.request .newContext fun answer : Except UsbError Context => answer.mapError .usb

def Context.devices (ctx : Context) : UsbM (List UsbDevice) :=
  Fallible.request (.devices ctx)
    fun answer : Except UsbError (List UsbDevice) => answer.mapError .usb

namespace UsbDevice

def deviceDescriptor (dev : UsbDevice) : UsbM (Except UsbError DeviceDescriptor) :=
  Fallible.request (.deviceDescriptor dev) .ok

def openDevice (dev : UsbDevice) : UsbM DeviceHandle :=
  Fallible.request (.openDevice dev)
    fun answer : Except UsbError {handle : DeviceHandle // handle.device = dev} =>
      (answer.map Subtype.val).mapError .usb

end UsbDevice

namespace DeviceHandle

def kernelDriverActive (handle : DeviceHandle) (iface : UInt8) : UsbM (Except UsbError Bool) :=
  Fallible.request (.kernelDriverActive handle iface) .ok

def detachKernelDriver (handle : DeviceHandle) (iface : UInt8) : UsbM Unit :=
  Fallible.request (.detachKernelDriver handle iface)
    fun answer : Except UsbError Unit => answer.mapError .usb

def claimInterface (handle : DeviceHandle) (iface : UInt8) : UsbM Unit :=
  Fallible.request (.claimInterface handle iface)
    fun answer : Except UsbError Unit => answer.mapError .usb

def releaseInterface (handle : DeviceHandle) (iface : UInt8) : UsbM (Except UsbError Unit) :=
  Fallible.request (.releaseInterface handle iface) .ok

/-- What dropping a handle does. -/
def close (handle : DeviceHandle) : UsbM Unit :=
  Fallible.request (.close handle) fun _ => .ok ()

end DeviceHandle

/-- A sensor with the handle it is reached through. -/
structure Opened extends ElanMoc2 where
  handle : DeviceHandle

namespace Opened

/-- Dropping a sensor drops its handle last. What rusb does itself when a handle is dropped, which
includes releasing what it counts as claimed, is the event of closing it. -/
def drop (me : Opened) : UsbM Unit := do
  if me.claimed then
    -- What the release is answered is discarded.
    let _ ← me.handle.releaseInterface me.interface
  me.handle.close

end Opened

/-- The loop of `find`. -/
def findAmong : List UsbDevice → UsbM UsbDevice
  | [] => throw .notFound
  | dev :: rest => do
      let .ok d ← dev.deviceDescriptor | findAmong rest
      if d.vendorId = Proto.vid ∧ d.productId ∈ Proto.supportedPids then
        return dev
      findAmong rest

/-- The first attached sensor whose product the driver claims. -/
def findElanMoc2 (ctx : Context) : UsbM UsbDevice := do
  findAmong (← ctx.devices)

/-- `ElanMoc2::open`. An early return drops what there is by then: the handle, or the sensor whose
interface is not claimed yet. -/
def openElanMoc2 : UsbM Opened := do
  let ctx ← newContext
  let dev ← findElanMoc2 ctx
  let d ← settle ((← dev.deviceDescriptor).mapError .usb)
  let pid := d.productId
  let handle ← dev.openDevice
  let interface : UInt8 := 0
  onFailure handle.close do
    if (← handle.kernelDriverActive interface).toOption.getD false then
      handle.detachKernelDriver interface
  let me : Opened := { pid, interface, claimed := false, handle }
  onFailure me.drop (me.handle.claimInterface interface)
  return { me with claimed := true }

/-! ### The calls of a run -/

namespace Usb

def opened (handle : DeviceHandle) : Event UsbAnswer :=
  ⟨.openDevice handle.device,
    (.ok ⟨handle, rfl⟩ : Except UsbError {same : DeviceHandle // same.device = handle.device})⟩

/-- A kernel driver has been asked for. -/
def active (handle : DeviceHandle) (iface : UInt8) (answer : Except UsbError Bool) :
    Event UsbAnswer :=
  ⟨.kernelDriverActive handle iface, answer⟩

def detached (handle : DeviceHandle) (iface : UInt8) (answer : Except UsbError Unit) :
    Event UsbAnswer :=
  ⟨.detachKernelDriver handle iface, answer⟩

def claimed (handle : DeviceHandle) (iface : UInt8) (answer : Except UsbError Unit) :
    Event UsbAnswer :=
  ⟨.claimInterface handle iface, answer⟩

def released (handle : DeviceHandle) (iface : UInt8) (answer : Except UsbError Unit) :
    Event UsbAnswer :=
  ⟨.releaseInterface handle iface, answer⟩

def closed (handle : DeviceHandle) : Event UsbAnswer := ⟨.close handle, ()⟩

/-- The call changes who holds an interface or whether a driver is bound to it. -/
def changes : UsbRequest → Bool
  | .detachKernelDriver _ _ => true
  | .claimInterface _ _ => true
  | .releaseInterface _ _ => true
  | .close _ => true
  | _ => false

/-- Calls that change nothing. -/
def Quiet (trace : UsbTrace) : Prop := ∀ event ∈ trace, changes event.op = false

theorem quiet_nil : Quiet [] := fun _ member => nomatch member

theorem Quiet.append {first second : UsbTrace} (one : Quiet first) (other : Quiet second) :
    Quiet (first ++ second) := by
  intro event member
  rcases List.mem_append.mp member with early | late
  · exact one event early
  · exact other event late

end Usb

/-- The calls between opening a handle and claiming the interface, if none of them is an error
that ends the opening. -/
inductive Prepares (handle : DeviceHandle) : UsbTrace → Prop where
  | left (answer : Except UsbError Bool) (idle : answer ≠ .ok true) :
      Prepares handle [Usb.active handle 0 answer]
  | detached :
      Prepares handle [Usb.active handle 0 (.ok true), Usb.detached handle 0 (.ok ())]

/-- The runs of `openElanMoc2`: up to the opening of a handle nothing changes, and a handle
that has been opened is closed again unless the interface was claimed. -/
inductive OpenRun : UsbTrace → Except Fault (Except Error Opened) → Prop where
  | unopened {queries : UsbTrace} (quiet : Usb.Quiet queries) (error : Error) :
      OpenRun queries (.ok (.error error))
  | undetached {queries : UsbTrace} (quiet : Usb.Quiet queries) (handle : DeviceHandle)
      (e : UsbError) :
      OpenRun
        (queries ++ Usb.opened handle :: [Usb.active handle 0 (.ok true),
          Usb.detached handle 0 (.error e), Usb.closed handle])
        (.ok (.error (.usb e)))
  | unclaimed {queries preparing : UsbTrace} (quiet : Usb.Quiet queries) (handle : DeviceHandle)
      (prepares : Prepares handle preparing) (e : UsbError) :
      OpenRun
        (queries ++ Usb.opened handle ::
          (preparing ++ [Usb.claimed handle 0 (.error e), Usb.closed handle]))
        (.ok (.error (.usb e)))
  | claimed {queries preparing : UsbTrace} (quiet : Usb.Quiet queries) (handle : DeviceHandle)
      (prepares : Prepares handle preparing) (pid : UInt16) :
      OpenRun (queries ++ Usb.opened handle :: (preparing ++ [Usb.claimed handle 0 (.ok ())]))
        (.ok (.ok { pid, interface := 0, claimed := true, handle }))

theorem OpenRun.after_quiet {queries trace : UsbTrace} {result : Except Fault (Except Error Opened)}
    (quiet : Usb.Quiet queries) (run : OpenRun trace result) :
    OpenRun (queries ++ trace) result := by
  cases run with
  | unopened later error => exact .unopened (quiet.append later) error
  | undetached later handle e =>
      rw [← List.append_assoc]
      exact .undetached (quiet.append later) handle e
  | unclaimed later handle prepares e =>
      rw [← List.append_assoc]
      exact .unclaimed (quiet.append later) handle prepares e
  | claimed later handle prepares pid =>
      rw [← List.append_assoc]
      exact .claimed (quiet.append later) handle prepares pid

section Runs

variable {α β : Type} {trace : UsbTrace}

/-- The program returns or fails, and changes nothing. -/
def Asks (program : UsbM α) : Prop :=
  ∀ trace result, program.run.Runs trace result →
    Usb.Quiet trace ∧ ∃ known, result = .ok known

theorem asks_settle (known : Except Error α) : Asks (settle known) := by
  intro trace result run
  obtain ⟨rfl, rfl⟩ := runs_settle_iff.mp run
  exact ⟨Usb.quiet_nil, known, rfl⟩

theorem asks_request {op : UsbRequest} {read : UsbAnswer op → Except Error α}
    (quiet : Usb.changes op = false) : Asks (Fallible.request op read) := by
  intro trace result run
  obtain ⟨answer, rfl, rfl⟩ := runs_request_iff.mp run
  exact ⟨List.forall_mem_singleton.mpr quiet, read answer, rfl⟩

theorem Asks.bind {program : UsbM α} {rest : α → UsbM β} (asks : Asks program)
    (later : ∀ value, Asks (rest value)) : Asks (program >>= rest) := by
  intro trace result run
  rcases runs_bind_iff.mp run with
    ⟨fault, head, rfl⟩ | ⟨error, head, rfl⟩ | ⟨value, first, second, rfl, head, tail⟩
  · obtain ⟨_, known, impossible⟩ := asks _ _ head
    cases impossible
  · exact ⟨(asks _ _ head).1, .error error, rfl⟩
  · obtain ⟨quiet, finished⟩ := later value _ _ tail
    exact ⟨(asks _ _ head).1.append quiet, finished⟩

theorem asks_findAmong (devs : List UsbDevice) : Asks (findAmong devs) := by
  induction devs with
  | nil => exact asks_settle (.error .notFound)
  | cons dev rest ih =>
      refine (asks_request rfl).bind fun answer => ?_
      cases answer with
      | error e => exact ih
      | ok d =>
          by_cases supported : d.vendorId = Proto.vid ∧ d.productId ∈ Proto.supportedPids
          · simp only [if_pos supported]
            exact asks_settle (.ok dev)
          · simp only [if_neg supported]
            exact ih

theorem asks_findElanMoc2 (ctx : Context) : Asks (findElanMoc2 ctx) :=
  (asks_request rfl).bind asks_findAmong

/-- Calls that change nothing may come before what is known to be a run of the opening. -/
theorem Asks.openRun {program : UsbM α} {rest : α → UsbM Opened}
    {result : Except Fault (Except Error Opened)} (asks : Asks program)
    (later : ∀ value trace result, (rest value).run.Runs trace result → OpenRun trace result)
    (run : (program >>= rest).run.Runs trace result) : OpenRun trace result := by
  rcases runs_bind_iff.mp run with
    ⟨fault, head, rfl⟩ | ⟨error, head, rfl⟩ | ⟨value, first, second, rfl, head, tail⟩
  · obtain ⟨_, known, impossible⟩ := asks _ _ head
    cases impossible
  · exact .unopened (asks _ _ head).1 error
  · exact (later value _ _ tail).after_quiet (asks _ _ head).1

/-- A handle is closed before the error is passed on. -/
theorem runs_close_throw_iff {handle : DeviceHandle} {error : Error}
    {result : Except Fault (Except Error α)} :
    (handle.close >>= fun _ => throw error).run.Runs trace result ↔
      trace = [Usb.closed handle] ∧ result = .ok (.error error) := by
  refine runs_request_bind_iff.trans ?_
  constructor
  · rintro ⟨_, tail, rfl, ⟨_, impossible, _⟩ | ⟨_, _, ended⟩⟩
    · cases impossible
    · obtain ⟨rfl, rfl⟩ := runs_settle_iff.mp ended
      exact ⟨rfl, rfl⟩
  · rintro ⟨rfl, rfl⟩
    exact ⟨(), [], rfl, .inr ⟨(), rfl, runs_settle_iff.mpr ⟨rfl, rfl⟩⟩⟩

/-- A driver is detached exactly if it is reported active. -/
theorem runs_prepare {handle : DeviceHandle} {result : Except Fault (Except Error Unit)}
    (run : (do
      if (← handle.kernelDriverActive 0).toOption.getD false then
        handle.detachKernelDriver 0 : UsbM Unit).run.Runs trace result) :
    (Prepares handle trace ∧ result = .ok (.ok ())) ∨
      ∃ e, trace = [Usb.active handle 0 (.ok true), Usb.detached handle 0 (.error e)] ∧
        result = .ok (.error (.usb e)) := by
  obtain ⟨answer, tail, rfl, ⟨_, impossible, _⟩ | ⟨_, same, run⟩⟩ := runs_request_bind_iff.mp run
  · cases impossible
  cases same
  by_cases present : answer = .ok true
  · subst present
    obtain ⟨answer, rfl, rfl⟩ := runs_request_iff.mp run
    cases answer with
    | error e => exact .inr ⟨e, rfl, rfl⟩
    | ok _ => exact .inl ⟨.detached, rfl⟩
  · have idle : (Except.toOption answer).getD false = false := by
      rcases answer with e | _ | _
      · rfl
      · rfl
      · exact absurd rfl present
    rw [idle] at run
    obtain ⟨rfl, rfl⟩ := runs_pure_iff.mp run
    exact .inl ⟨.left answer present, rfl⟩

theorem runs_claimInterface_iff {handle : DeviceHandle} {iface : UInt8}
    {result : Except Fault (Except Error Unit)} :
    (handle.claimInterface iface).run.Runs trace result ↔
      ∃ answer : Except UsbError Unit, trace = [Usb.claimed handle iface answer] ∧
        result = .ok (answer.mapError .usb) :=
  runs_request_iff

theorem safe_claimInterface {handle : DeviceHandle} {iface : UInt8} :
    Safe (handle.claimInterface iface) := by
  intro trace fault run
  obtain ⟨answer, _, impossible⟩ := runs_claimInterface_iff.mp run
  cases impossible

theorem safe_prepare {handle : DeviceHandle} :
    Safe (do
      if (← handle.kernelDriverActive 0).toOption.getD false then
        handle.detachKernelDriver 0 : UsbM Unit) := by
  intro trace fault run
  obtain ⟨_, impossible⟩ | ⟨_, _, impossible⟩ := runs_prepare run
  · cases impossible
  · cases impossible

/-- A part of the opening that fails is followed by the closing of the handle, otherwise by
the rest. -/
theorem runs_onFailure_close_bind {handle : DeviceHandle} {program : UsbM Unit}
    (safe : Safe program) {rest : Unit → UsbM α} {result : Except Fault (Except Error α)}
    (run : (onFailure handle.close program >>= rest).run.Runs trace result) :
    (∃ error first, program.run.Runs first (.ok (.error error)) ∧
      trace = first ++ [Usb.closed handle] ∧ result = .ok (.error error)) ∨
      ∃ first second, trace = first ++ second ∧ program.run.Runs first (.ok (.ok ())) ∧
        (rest ()).run.Runs second result := by
  -- Three ways the sequence ends, in each the part faults, returns or fails; two of the nine
  -- agree on the result.
  rcases runs_bind_iff.mp run with
    ⟨fault, head, rfl⟩ | ⟨error, head, rfl⟩ | ⟨_, first, second, rfl, head, tail⟩
  all_goals rcases runs_onFailure_iff.mp head with
    ⟨_, part, same⟩ | ⟨_, part, same⟩ | ⟨error', front, last, rfl, part, close⟩
  · exact absurd part (safe _ _)
  · cases same
  · cases (runs_close_throw_iff.mp close).2
  · exact absurd part (safe _ _)
  · cases same
  · obtain ⟨rfl, same⟩ := runs_close_throw_iff.mp close
    cases same
    exact .inl ⟨error, front, part, rfl, rfl⟩
  · exact absurd part (safe _ _)
  · exact .inr ⟨first, second, rfl, part, tail⟩
  · cases (runs_close_throw_iff.mp close).2

/-- What follows a handle that is ready to be claimed. -/
theorem openRun_of_claim {handle : DeviceHandle} {preparing : UsbTrace} {pid : UInt16}
    {result : Except Fault (Except Error Opened)} (prepares : Prepares handle preparing)
    (run : (do
      onFailure handle.close (handle.claimInterface 0)
      return { pid, interface := 0, claimed := true, handle } : UsbM Opened).run.Runs trace
        result) :
    OpenRun (Usb.opened handle :: (preparing ++ trace)) result := by
  rcases runs_onFailure_close_bind safe_claimInterface run with
    ⟨error, first, claim, rfl, rfl⟩ | ⟨first, second, rfl, claim, ended⟩
  · obtain ⟨answer, rfl, same⟩ := runs_claimInterface_iff.mp claim
    cases answer with
    | error e =>
        cases same
        exact .unclaimed Usb.quiet_nil handle prepares e
    | ok _ => cases same
  · obtain ⟨answer, rfl, same⟩ := runs_claimInterface_iff.mp claim
    obtain ⟨rfl, rfl⟩ := runs_pure_iff.mp ended
    cases answer with
    | error e => cases same
    | ok _ => exact .claimed Usb.quiet_nil handle prepares pid

/-- Every run of the opening is one of those listed, and none of them faults. -/
theorem openRun_of_runs {result : Except Fault (Except Error Opened)}
    (run : openElanMoc2.run.Runs trace result) : OpenRun trace result := by
  refine (asks_request rfl).openRun (fun ctx trace result run => ?_) run
  refine (asks_findElanMoc2 ctx).openRun (fun dev trace result run => ?_) run
  refine (asks_request rfl).openRun (fun answer trace result run => ?_) run
  refine (asks_settle _).openRun (fun d trace result run => ?_) run
  obtain ⟨answer, tail, rfl, ⟨e, failed, rfl, rfl⟩ | ⟨_, same, run⟩⟩ :=
    runs_request_mapError_bind_iff.mp run
  · exact .unopened (List.forall_mem_singleton.mpr rfl) (.usb e)
  cases answer with
  | error e => cases same
  | ok opened =>
      obtain ⟨handle, rfl⟩ := opened
      cases same
      rcases runs_onFailure_close_bind safe_prepare run with
        ⟨error, first, prepare, rfl, rfl⟩ | ⟨preparing, second, rfl, prepare, claim⟩
      · obtain ⟨_, impossible⟩ | ⟨e, rfl, same⟩ := runs_prepare prepare
        · cases impossible
        · cases same
          exact .undetached Usb.quiet_nil handle e
      · obtain ⟨prepares, _⟩ | ⟨_, _, impossible⟩ := runs_prepare prepare
        · exact openRun_of_claim prepares claim
        · cases impossible

theorem runs_close_iff {handle : DeviceHandle} {result : Except Fault (Except Error Unit)} :
    handle.close.run.Runs trace result ↔ trace = [Usb.closed handle] ∧ result = .ok (.ok ()) := by
  refine runs_request_iff.trans ?_
  constructor
  · rintro ⟨_, rfl, rfl⟩
    exact ⟨rfl, rfl⟩
  · rintro ⟨rfl, rfl⟩
    exact ⟨(), rfl, rfl⟩

/-- Whatever the release is answered, the handle is closed after it. -/
theorem runs_drop_iff {me : Opened} (claimed : me.claimed = true)
    {result : Except Fault (Except Error Unit)} :
    me.drop.run.Runs trace result ↔
      ∃ answer, trace = [Usb.released me.handle me.interface answer, Usb.closed me.handle] ∧
        result = .ok (.ok ()) := by
  unfold Opened.drop
  rw [if_pos claimed]
  refine runs_request_bind_iff.trans ?_
  constructor
  · rintro ⟨answer, tail, rfl, ⟨_, impossible, _⟩ | ⟨_, _, close⟩⟩
    · cases impossible
    · obtain ⟨rfl, rfl⟩ := runs_close_iff.mp close
      exact ⟨answer, rfl, rfl⟩
  · rintro ⟨answer, rfl, rfl⟩
    exact ⟨answer, _, rfl, .inr ⟨answer, rfl, runs_close_iff.mpr ⟨rfl, rfl⟩⟩⟩

end Runs

end Elan0c00
