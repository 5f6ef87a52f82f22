import Elan0c00.Interaction.Monitor
import Elan0c00.Opening

/-! # Which sensor is opened

Of the devices libusb lists, the first whose descriptor can be read and names a supported product.
`runs_openElanMoc2_ok_iff` gives all calls of an opening that returns a sensor,
`runs_openElanMoc2_notFound_iff` those of one that finds none.
-/

namespace Elan0c00

open Interaction Interaction.Fallible Bytes

/-- The descriptor is that of a supported sensor. -/
def DeviceDescriptor.Supported (d : DeviceDescriptor) : Prop :=
  d.vendorId = Proto.vid ∧ d.productId ∈ Proto.supportedPids

namespace Usb

def contextMade (ctx : Context) : Event UsbAnswer :=
  ⟨.newContext, (.ok ctx : Except UsbError Context)⟩

def listed (ctx : Context) (devs : List UsbDevice) : Event UsbAnswer :=
  ⟨.devices ctx, (.ok devs : Except UsbError (List UsbDevice))⟩

def described (dev : UsbDevice) (answer : Except UsbError DeviceDescriptor) : Event UsbAnswer :=
  ⟨.deviceDescriptor dev, answer⟩

end Usb

/-- Devices with what the reading of their descriptors was answered. -/
abbrev Readings := List (UsbDevice × Except UsbError DeviceDescriptor)

namespace Readings

def trace (seen : Readings) : UsbTrace := seen.map fun entry => Usb.described entry.1 entry.2

/-- None of them was found to be a sensor. -/
def Passed (seen : Readings) : Prop := ∀ entry ∈ seen, ∀ d, entry.2 = .ok d → ¬ d.Supported

end Readings

section Search

variable {devs rest : List UsbDevice} {dev : UsbDevice} {trace : UsbTrace}
  {outcome : Except Error UsbDevice}

/-- The search through a list of devices, with what it read. -/
inductive Search : List UsbDevice → UsbTrace → Except Error UsbDevice → Prop where
  | exhausted : Search [] [] (.error .notFound)
  | passed {dev : UsbDevice} {rest : List UsbDevice} {answer : Except UsbError DeviceDescriptor}
      {trace : UsbTrace} {outcome : Except Error UsbDevice}
      (other : ∀ d, answer = .ok d → ¬ d.Supported) (later : Search rest trace outcome) :
      Search (dev :: rest) (Usb.described dev answer :: trace) outcome
  | found {dev : UsbDevice} {rest : List UsbDevice} {d : DeviceDescriptor}
      (supported : d.Supported) : Search (dev :: rest) [Usb.described dev (.ok d)] (.ok dev)

theorem runs_findAmong_iff {result : Except Fault (Except Error UsbDevice)} :
    (findAmong devs).run.Runs trace result ↔
      ∃ outcome, result = .ok outcome ∧ Search devs trace outcome := by
  induction devs generalizing trace with
  | nil =>
      refine runs_settle_iff.trans ⟨?_, ?_⟩
      · rintro ⟨rfl, rfl⟩
        exact ⟨_, rfl, .exhausted⟩
      · rintro ⟨_, rfl, ⟨⟩⟩
        exact ⟨rfl, rfl⟩
  | cons dev rest ih =>
      refine runs_request_bind_iff.trans ⟨?_, ?_⟩
      · rintro ⟨answer, tail, rfl, ⟨_, impossible, _⟩ | ⟨_, same, run⟩⟩
        · cases impossible
        cases same
        cases answer with
        | error e =>
            obtain ⟨outcome, rfl, later⟩ := ih.mp run
            exact ⟨outcome, rfl, .passed (by rintro _ ⟨⟩) later⟩
        | ok d =>
            by_cases supported : d.vendorId = Proto.vid ∧ d.productId ∈ Proto.supportedPids
            · simp only [if_pos supported] at run
              obtain ⟨rfl, rfl⟩ := runs_pure_iff.mp run
              exact ⟨_, rfl, .found supported⟩
            · simp only [if_neg supported] at run
              obtain ⟨outcome, rfl, later⟩ := ih.mp run
              refine ⟨outcome, rfl, .passed ?_ later⟩
              rintro _ ⟨⟩
              exact supported
      · rintro ⟨outcome, rfl, search⟩
        cases search with
        | @passed _ _ answer trace _ other later =>
            refine ⟨answer, trace, rfl, .inr ⟨answer, rfl, ?_⟩⟩
            have onward := ih.mpr ⟨outcome, rfl, later⟩
            cases answer with
            | error e => exact onward
            | ok d =>
                have unsupported : ¬ (d.vendorId = Proto.vid ∧ d.productId ∈ Proto.supportedPids) :=
                  other d rfl
                simp only [if_neg unsupported]
                exact onward
        | @found _ _ d supported =>
            have supports : d.vendorId = Proto.vid ∧ d.productId ∈ Proto.supportedPids := supported
            refine ⟨.ok d, [], rfl, .inr ⟨.ok d, rfl, ?_⟩⟩
            simp only [if_pos supports]
            exact runs_pure_iff.mpr ⟨rfl, rfl⟩

/-- What is found comes first among the supported. -/
theorem search_ok_iff : Search devs trace (.ok dev) ↔
    ∃ (seen : Readings) (d : DeviceDescriptor) (rest : List UsbDevice),
      devs = seen.map Prod.fst ++ dev :: rest ∧
        trace = seen.trace ++ [Usb.described dev (.ok d)] ∧ seen.Passed ∧ d.Supported := by
  constructor
  · intro search
    generalize same : (.ok dev : Except Error UsbDevice) = outcome at search
    induction search with
    | exhausted => cases same
    | @passed other rest answer trace outcome unsupported later ih =>
        obtain ⟨seen, d, last, rfl, rfl, passed, supported⟩ := ih same
        exact ⟨(other, answer) :: seen, d, last, rfl, rfl,
          List.forall_mem_cons.mpr ⟨unsupported, passed⟩, supported⟩
    | @found _ rest d supported =>
        cases same
        exact ⟨[], d, rest, rfl, rfl, List.forall_mem_nil _, supported⟩
  · rintro ⟨seen, d, rest, rfl, rfl, passed, supported⟩
    induction seen with
    | nil => exact .found supported
    | cons entry seen ih =>
        obtain ⟨unsupported, passed⟩ := List.forall_mem_cons.mp passed
        exact .passed unsupported (ih passed)

/-- Nothing is found where every device was passed over. -/
theorem search_error_iff {e : Error} : Search devs trace (.error e) ↔
    e = .notFound ∧ ∃ seen : Readings, devs = seen.map Prod.fst ∧ trace = seen.trace ∧
      seen.Passed := by
  constructor
  · intro search
    generalize same : (.error e : Except Error UsbDevice) = outcome at search
    induction search with
    | exhausted =>
        cases same
        exact ⟨rfl, [], rfl, rfl, List.forall_mem_nil _⟩
    | @passed other rest answer trace outcome unsupported later ih =>
        obtain ⟨rfl, seen, rfl, rfl, passed⟩ := ih same
        exact ⟨rfl, (other, answer) :: seen, rfl, rfl,
          List.forall_mem_cons.mpr ⟨unsupported, passed⟩⟩
    | found => cases same
  · rintro ⟨rfl, seen, rfl, rfl, passed⟩
    induction seen with
    | nil => exact .exhausted
    | cons entry seen ih =>
        obtain ⟨unsupported, passed⟩ := List.forall_mem_cons.mp passed
        exact .passed unsupported (ih passed)

end Search

section Opening

variable {α : Type} {trace : UsbTrace}

theorem mapError_eq_ok_iff {known : Except UsbError α} {value : α} :
    known.mapError Error.usb = .ok value ↔ known = .ok value := by
  cases known with
  | error e => constructor <;> rintro ⟨⟩
  | ok other => exact ⟨fun same => congrArg _ (Except.ok.inj same), congrArg _⟩

/-- A call that returned a value. -/
theorem runs_call_ok_iff {op : UsbRequest} (read : UsbAnswer op → Except UsbError α) {value : α} :
    (Fallible.request op fun answer => (read answer).mapError .usb : UsbM α).run.Runs trace
        (.ok (.ok value)) ↔
      ∃ answer, trace = [⟨op, answer⟩] ∧ read answer = .ok value := by
  refine runs_request_iff.trans (exists_congr fun answer => and_congr_right fun _ => ?_)
  rw [Except.ok.injEq, eq_comm, mapError_eq_ok_iff]

theorem runs_newContext_ok_iff {ctx : Context} :
    newContext.run.Runs trace (.ok (.ok ctx)) ↔ trace = [Usb.contextMade ctx] := by
  refine (@runs_call_ok_iff _ _ .newContext id _).trans ⟨?_, ?_⟩
  · rintro ⟨_, rfl, rfl⟩
    rfl
  · rintro rfl
    exact ⟨_, rfl, rfl⟩

theorem runs_devices_ok_iff {ctx : Context} {devs : List UsbDevice} :
    ctx.devices.run.Runs trace (.ok (.ok devs)) ↔ trace = [Usb.listed ctx devs] := by
  refine (@runs_call_ok_iff _ _ (.devices ctx) id _).trans ⟨?_, ?_⟩
  · rintro ⟨_, rfl, rfl⟩
    rfl
  · rintro rfl
    exact ⟨_, rfl, rfl⟩

theorem runs_openDevice_ok_iff {dev : UsbDevice} {handle : DeviceHandle} :
    dev.openDevice.run.Runs trace (.ok (.ok handle)) ↔
      handle.device = dev ∧ trace = [Usb.opened handle] := by
  refine (@runs_call_ok_iff _ _ (.openDevice dev) (fun answer => answer.map Subtype.val) _).trans
    ⟨?_, ?_⟩
  · rintro ⟨answer, rfl, same⟩
    cases answer with
    | error e => cases same
    | ok opened =>
        obtain ⟨_, rfl⟩ := opened
        cases same
        exact ⟨rfl, rfl⟩
  · rintro ⟨rfl, rfl⟩
    exact ⟨_, rfl, rfl⟩

/-- A reading of a descriptor that has to succeed. -/
theorem runs_descriptor_bind_ok_iff {dev : UsbDevice} {rest : DeviceDescriptor → UsbM α}
    {value : α} :
    (do rest (← settle ((← dev.deviceDescriptor).mapError .usb)) : UsbM α).run.Runs trace
        (.ok (.ok value)) ↔
      ∃ d tail, trace = Usb.described dev (.ok d) :: tail ∧
        (rest d).run.Runs tail (.ok (.ok value)) := by
  refine runs_bind_ok_iff.trans ⟨?_, ?_⟩
  · rintro ⟨answer, _, _, rfl, read, settled⟩
    obtain ⟨_, rfl, same⟩ := runs_request_iff.mp read
    cases same
    obtain ⟨d, _, tail, rfl, settles, run⟩ := runs_bind_ok_iff.mp settled
    obtain ⟨rfl, known⟩ := runs_settle_iff.mp settles
    obtain rfl := mapError_eq_ok_iff.mp (Except.ok.inj known).symm
    exact ⟨d, tail, rfl, run⟩
  · rintro ⟨d, tail, rfl, run⟩
    exact ⟨.ok d, [_], tail, rfl, runs_request_iff.mpr ⟨.ok d, rfl, rfl⟩,
      runs_bind_ok_iff.mpr ⟨d, [], tail, rfl, runs_settle_iff.mpr ⟨rfl, rfl⟩, run⟩⟩

theorem runs_prepare_ok_iff {handle : DeviceHandle} :
    (do
      if (← handle.kernelDriverActive 0).toOption.getD false then
        handle.detachKernelDriver 0 : UsbM Unit).run.Runs trace (.ok (.ok ())) ↔
      Prepares handle trace := by
  constructor
  · intro run
    rcases runs_prepare run with ⟨prepares, -⟩ | ⟨e, -, impossible⟩
    · exact prepares
    · cases impossible
  · intro prepares
    refine runs_bind_ok_iff.mpr ?_
    cases prepares with
    | left answer idle =>
        refine ⟨answer, [Usb.active handle 0 answer], [], rfl,
          runs_request_iff.mpr ⟨answer, rfl, rfl⟩, ?_⟩
        rcases answer with e | _ | _
        · exact .ret _
        · exact .ret _
        · exact absurd rfl idle
    | detached =>
        exact ⟨.ok true, [_], [_], rfl, runs_request_iff.mpr ⟨.ok true, rfl, rfl⟩,
          runs_request_iff.mpr ⟨.ok (), rfl, rfl⟩⟩

theorem runs_claim_ok_iff {handle : DeviceHandle} :
    (handle.claimInterface 0).run.Runs trace (.ok (.ok ())) ↔
      trace = [Usb.claimed handle 0 (.ok ())] := by
  refine (@runs_call_ok_iff _ _ (.claimInterface handle 0) id _).trans ⟨?_, ?_⟩
  · rintro ⟨_, rfl, rfl⟩
    rfl
  · rintro rfl
    exact ⟨_, rfl, rfl⟩

theorem runs_find_ok_iff {ctx : Context} {dev : UsbDevice} :
    (findElanMoc2 ctx).run.Runs trace (.ok (.ok dev)) ↔
      ∃ devs tail, trace = Usb.listed ctx devs :: tail ∧ Search devs tail (.ok dev) := by
  refine runs_bind_ok_iff.trans ⟨?_, ?_⟩
  · rintro ⟨devs, _, tail, rfl, listed, found⟩
    obtain rfl := runs_devices_ok_iff.mp listed
    obtain ⟨_, same, search⟩ := runs_findAmong_iff.mp found
    cases same
    exact ⟨devs, tail, rfl, search⟩
  · rintro ⟨devs, tail, rfl, search⟩
    exact ⟨devs, [_], tail, rfl, runs_devices_ok_iff.mpr rfl,
      runs_findAmong_iff.mpr ⟨_, rfl, search⟩⟩

/-- **The sensor that is opened.** All calls of an opening that returns a sensor: of the devices
listed, those before the one opened were unreadable or unsupported. -/
theorem runs_openElanMoc2_ok_iff {me : Opened} :
    openElanMoc2.run.Runs trace (.ok (.ok me)) ↔
      ∃ (ctx : Context) (seen : Readings) (d d' : DeviceDescriptor) (rest : List UsbDevice)
        (preparing : UsbTrace),
        trace = Usb.contextMade ctx ::
            Usb.listed ctx (seen.map Prod.fst ++ me.handle.device :: rest) :: (seen.trace ++
              Usb.described me.handle.device (.ok d) :: Usb.described me.handle.device (.ok d') ::
                Usb.opened me.handle :: (preparing ++ [Usb.claimed me.handle 0 (.ok ())])) ∧
          seen.Passed ∧ d.Supported ∧ Prepares me.handle preparing ∧
          me = { pid := d'.productId, interface := 0, claimed := true, handle := me.handle } := by
  constructor
  · intro run
    obtain ⟨ctx, _, _, rfl, made, searching⟩ := runs_bind_ok_iff.mp run
    obtain rfl := runs_newContext_ok_iff.mp made
    obtain ⟨dev, _, _, rfl, finds, reading⟩ := runs_bind_ok_iff.mp searching
    obtain ⟨devs, _, rfl, found⟩ := runs_find_ok_iff.mp finds
    obtain ⟨seen, d, rest, rfl, rfl, passed, supported⟩ := search_ok_iff.mp found
    obtain ⟨d', _, rfl, opening⟩ := runs_descriptor_bind_ok_iff.mp reading
    obtain ⟨handle, _, _, rfl, opened, preparing⟩ := runs_bind_ok_iff.mp opening
    obtain ⟨rfl, rfl⟩ := runs_openDevice_ok_iff.mp opened
    obtain ⟨_, _, _, rfl, prepared, claiming⟩ := runs_bind_ok_iff.mp preparing
    have prepares := runs_prepare_ok_iff.mp (runs_onFailure_ok_iff.mp prepared)
    obtain ⟨_, _, _, rfl, claimed, ended⟩ := runs_bind_ok_iff.mp claiming
    obtain rfl := runs_claim_ok_iff.mp (runs_onFailure_ok_iff.mp claimed)
    obtain ⟨rfl, same⟩ := runs_pure_iff.mp ended
    cases same
    refine ⟨ctx, seen, d, d', rest, _, ?_, passed, supported, prepares, rfl⟩
    simp only [List.append_assoc, List.cons_append, List.nil_append, List.append_nil]
  · rintro ⟨ctx, seen, d, d', rest, preparing, rfl, passed, supported, prepares, same⟩
    have found : Search (seen.map Prod.fst ++ me.handle.device :: rest)
        (seen.trace ++ [Usb.described me.handle.device (.ok d)]) (.ok me.handle.device) :=
      search_ok_iff.mpr ⟨seen, d, rest, rfl, rfl, passed, supported⟩
    have parts : seen.trace ++ Usb.described me.handle.device (.ok d) ::
          Usb.described me.handle.device (.ok d') :: Usb.opened me.handle ::
            (preparing ++ [Usb.claimed me.handle 0 (.ok ())]) =
        (seen.trace ++ [Usb.described me.handle.device (.ok d)]) ++
          Usb.described me.handle.device (.ok d') :: ([Usb.opened me.handle] ++
            (preparing ++ ([Usb.claimed me.handle 0 (.ok ())] ++ []))) := by
      simp only [List.append_assoc, List.cons_append, List.nil_append, List.append_nil]
    rw [parts]
    refine runs_bind_ok_iff.mpr ⟨ctx, [_], _, rfl, runs_newContext_ok_iff.mpr rfl, ?_⟩
    refine runs_bind_ok_iff.mpr ⟨_, _ :: (_ ++ [_]), _, rfl,
      runs_find_ok_iff.mpr ⟨_, _, rfl, found⟩, ?_⟩
    refine runs_descriptor_bind_ok_iff.mpr ⟨d', _, rfl, ?_⟩
    refine runs_bind_ok_iff.mpr ⟨_, _, _, rfl, runs_openDevice_ok_iff.mpr ⟨rfl, rfl⟩, ?_⟩
    refine runs_bind_ok_iff.mpr ⟨(), _, _, rfl,
      runs_onFailure_ok_iff.mpr (runs_prepare_ok_iff.mpr prepares), ?_⟩
    refine runs_bind_ok_iff.mpr ⟨(), _, _, rfl,
      runs_onFailure_ok_iff.mpr (runs_claim_ok_iff.mpr rfl), ?_⟩
    exact runs_pure_iff.mpr ⟨rfl, congrArg _ (congrArg _ same)⟩

/-! ### No sensor -/

/-- Every error of the program is one of libusb. -/
def FailsByUsb (program : UsbM α) : Prop :=
  Meets (fun _ _ => some ()) () program (fun e _ => ∃ cause, e = Error.usb cause) fun _ _ => True

theorem FailsByUsb.bind {β : Type} {program : UsbM α} {rest : α → UsbM β}
    (first : FailsByUsb program) (later : ∀ value, FailsByUsb (rest value)) :
    FailsByUsb (program >>= rest) :=
  Meets.bind first fun value _ _ => later value

theorem failsByUsb_pure (value : α) : FailsByUsb (pure value) :=
  meets_pure trivial

theorem failsByUsb_settle (known : Except UsbError α) : FailsByUsb (settle (known.mapError .usb)) :=
  meets_settle <| by
    cases known with
    | error e => exact ⟨e, rfl⟩
    | ok value => trivial

theorem failsByUsb_request {op : UsbRequest} (read : UsbAnswer op → Except UsbError α) :
    FailsByUsb (Fallible.request op fun answer => (read answer).mapError .usb) :=
  meets_request fun answer => ⟨(), rfl, by
    cases read answer with
    | error e => exact ⟨e, rfl⟩
    | ok value => trivial⟩

theorem failsByUsb_ask {op : UsbRequest} (read : UsbAnswer op → α) :
    FailsByUsb (Fallible.request op fun answer => .ok (read answer)) :=
  meets_request fun _ => ⟨(), rfl, trivial⟩

theorem FailsByUsb.onFailure {program : UsbM α} {cleanup : UsbM Unit}
    (fails : FailsByUsb program) (quiet : FailsByUsb cleanup) :
    FailsByUsb (onFailure cleanup program) := by
  refine Meets.onFailure fails fun error middle byUsb => ?_
  exact Meets.mono quiet (fun _ _ => id) fun _ _ _ => byUsb

theorem FailsByUsb.not_notFound {program : UsbM α} (fails : FailsByUsb program) :
    ¬ program.run.Runs trace (.ok (.error .notFound)) := by
  intro run
  obtain ⟨_, _, same, -, ended⟩ := fails _ _ run
  cases same
  obtain ⟨_, impossible⟩ := ended
  cases impossible

/-- **No sensor.** All calls of an opening that finds none: every device listed was unreadable or
unsupported. -/
theorem runs_openElanMoc2_notFound_iff :
    openElanMoc2.run.Runs trace (.ok (.error .notFound)) ↔
      ∃ (ctx : Context) (seen : Readings),
        trace = Usb.contextMade ctx :: Usb.listed ctx (seen.map Prod.fst) :: seen.trace ∧
          seen.Passed := by
  constructor
  · intro run
    rcases runs_bind_error_iff.mp run with failed | ⟨ctx, _, _, rfl, made, searching⟩
    · exact absurd failed (@failsByUsb_request _ .newContext id).not_notFound
    obtain rfl := runs_newContext_ok_iff.mp made
    rcases runs_bind_error_iff.mp searching with failed | ⟨dev, _, _, rfl, finds, reading⟩
    · rcases runs_bind_error_iff.mp failed with failed | ⟨devs, _, _, rfl, listed, found⟩
      · exact absurd failed (@failsByUsb_request _ (.devices ctx) id).not_notFound
      obtain rfl := runs_devices_ok_iff.mp listed
      obtain ⟨_, same, search⟩ := runs_findAmong_iff.mp found
      cases same
      obtain ⟨-, seen, rfl, rfl, passed⟩ := search_error_iff.mp search
      exact ⟨ctx, seen, rfl, passed⟩
    · refine absurd reading (FailsByUsb.not_notFound ?_)
      refine (failsByUsb_ask id).bind fun answer => (failsByUsb_settle answer).bind fun d => ?_
      refine (failsByUsb_request _).bind fun handle : DeviceHandle => ?_
      have closes : FailsByUsb handle.close := failsByUsb_ask _
      refine (FailsByUsb.onFailure ?_ closes).bind fun _ => ?_
      · refine (failsByUsb_ask id).bind fun active => ?_
        split
        · exact @failsByUsb_request _ (.detachKernelDriver handle 0) id
        · exact failsByUsb_pure ()
      · have claims : FailsByUsb (handle.claimInterface 0) :=
          @failsByUsb_request _ (.claimInterface handle 0) id
        exact (claims.onFailure closes).bind fun _ => failsByUsb_pure _
  · rintro ⟨ctx, seen, rfl, passed⟩
    have search : Search (seen.map Prod.fst) seen.trace (.error .notFound) :=
      search_error_iff.mpr ⟨rfl, seen, rfl, rfl, passed⟩
    refine runs_bind_error_iff.mpr (.inr ⟨ctx, [_], _, rfl, runs_newContext_ok_iff.mpr rfl, ?_⟩)
    refine runs_bind_error_iff.mpr (.inl (runs_bind_error_iff.mpr (.inr ?_)))
    exact ⟨_, [_], _, rfl, runs_devices_ok_iff.mpr rfl, runs_findAmong_iff.mpr ⟨_, rfl, search⟩⟩

/-- **Which sensor is opened.** An opening that returns a sensor opens the first device of the
list whose descriptor reads as that of a supported sensor, and no other, and takes the product id
from a second reading. It finds no sensor exactly if every device listed was unreadable or
unsupported. -/
theorem openElanMoc2_finds_iff (trace : UsbTrace) :
    (∀ me : Opened, openElanMoc2.run.Runs trace (.ok (.ok me)) ↔
      ∃ (ctx : Context) (seen : Readings) (d d' : DeviceDescriptor) (rest : List UsbDevice)
        (preparing : UsbTrace),
        trace = Usb.contextMade ctx ::
            Usb.listed ctx (seen.map Prod.fst ++ me.handle.device :: rest) :: (seen.trace ++
              Usb.described me.handle.device (.ok d) :: Usb.described me.handle.device (.ok d') ::
                Usb.opened me.handle :: (preparing ++ [Usb.claimed me.handle 0 (.ok ())])) ∧
          seen.Passed ∧ d.Supported ∧ Prepares me.handle preparing ∧
          me = { pid := d'.productId, interface := 0, claimed := true, handle := me.handle }) ∧
      (openElanMoc2.run.Runs trace (.ok (.error .notFound)) ↔
        ∃ (ctx : Context) (seen : Readings),
          trace = Usb.contextMade ctx :: Usb.listed ctx (seen.map Prod.fst) :: seen.trace ∧
            seen.Passed) :=
  ⟨fun _ => runs_openElanMoc2_ok_iff, runs_openElanMoc2_notFound_iff⟩

end Opening

end Elan0c00
