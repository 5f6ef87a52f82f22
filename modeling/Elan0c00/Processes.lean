import Elan0c00.ElanctlMain
import Elan0c00.ProbeMain
import Elan0c00.World

/-! # Processes on one machine

Any number of `elanctl` and probe processes at once, their requests interleaved in any order, each
of them finished, still running, killed at any point or ended by the panic of a print that failed.
A killed process does no more; the kernel closes what it had open. A panic drops what is alive
first. The invariant `Custody` ties the phases of the processes to the machine:
whoever is in the phase `holding` does hold the interface, and what no process has open is as it
was found. From it the processes are a pool in which a device is given to one at a time.
-/

namespace Elan0c00

open Interaction Bytes

/-- A program of this repository, with its arguments. -/
inductive Process where
  | elanctl (args : List String)
  | probe

namespace Process

def policy : Process → Policy
  | .elanctl _ => Elanctl.policy
  | .probe => Probe.policy

/-- The process runs to its end. -/
def Finishes : Process → SysTrace → Prop
  | .elanctl args, trace => ∃ result, (Elanctl.main args).Runs trace result
  | .probe, trace => ∃ result, Probe.main.run.Runs trace result

/-- The handles open after an act. -/
def openAfter (handles : List DeviceHandle) : Act → List DeviceHandle
  | .opens _ (some handle) => handle :: handles
  | .closes handle => handles.erase handle
  | _ => handles

/-- The handles opened and not closed. -/
def stillOpen (trace : SysTrace) : List DeviceHandle :=
  trace.foldl (fun handles event => openAfter handles (act event)) []

/-- What the kernel does to the handles of a process that was killed. -/
def closings (handles : List DeviceHandle) : SysTrace :=
  (handles.map Usb.closed).map usbWords.event

/-- What a panic does before it ends a process, by the handles open: `elanctl` drops its sensor,
the probe its handle. -/
inductive Unwinds : Process → List DeviceHandle → UsbTrace → Prop where
  | nothing (process : Process) : Unwinds process [] []
  | sensor {args : List String} {me : Opened} {calls : UsbTrace} (interface : me.interface = 0)
      (claimed : me.claimed = true) (drop : me.drop.run.Runs calls (.ok (.ok ()))) :
      Unwinds (.elanctl args) [me.handle] calls
  | handle (handle : DeviceHandle) : Unwinds .probe [handle] [Usb.closed handle]

/-- What a process has done so far, and that it will do no more: it has finished, was killed, or a
print failed that was to come next. -/
inductive Over (process : Process) : SysTrace → Prop where
  | finished {trace : SysTrace} (run : process.Finishes trace) : Over process trace
  | killed {done rest : SysTrace} (run : process.Finishes (done ++ rest)) :
      Over process (done ++ closings (stillOpen done))
  | unprinted {done rest : SysTrace} {text : Text} {calls : UsbTrace}
      (run : process.Finishes (done ++ Sys.printed text :: rest))
      (unwinds : process.Unwinds (stillOpen done) calls) :
      Over process (done ++ calls.map usbWords.event)

/-- What a process has done so far. -/
inductive Lives (process : Process) : SysTrace → Prop where
  | running {done rest : SysTrace} (run : process.Finishes (done ++ rest)) : Lives process done
  | gone {trace : SysTrace} (gone : process.Over trace) : Lives process trace

variable {process : Process} {trace done rest : SysTrace} {policy : Policy} {phase after : Phase}

theorem openAfter_step {act : Act} (step : phase.Step policy act after) :
    openAfter phase.handle?.toList act = after.handle?.toList := by
  cases step with
  | closes own =>
      rw [own]
      exact List.erase_cons_head ..
  | _ => rfl

/-- The phase knows what is open. -/
theorem foldl_openAfter (accepted : (lifecycle policy).watch phase trace = some after) :
    trace.foldl (fun handles event => openAfter handles (act event)) phase.handle?.toList =
      after.handle?.toList := by
  induction trace generalizing phase with
  | nil =>
      cases accepted
      rfl
  | cons event rest ih =>
      obtain ⟨middle, step, tail⟩ := Monitor.watch_cons_iff.mp accepted
      rw [List.foldl_cons, openAfter_step (lifecycle_iff.mp step)]
      exact ih tail

theorem accepted_of_finishes (run : process.Finishes trace) :
    ∃ phase, (lifecycle process.policy).watch Phase.start trace = some phase ∧ phase.Ended := by
  cases process with
  | elanctl args =>
      obtain ⟨result, ran⟩ := run
      obtain ⟨_, phase, _, accepted, ended⟩ := Elanctl.meets_main args trace result ran
      exact ⟨phase, accepted, ended⟩
  | probe =>
      obtain ⟨result, ran⟩ := run
      obtain ⟨known, phase, _, accepted, ended⟩ := Probe.meets_main trace result ran
      cases known <;> exact ⟨phase, accepted, ended⟩

/-- What a panic does has its place in the life of the process. -/
theorem accepted_of_unwinds {text : Text} {calls : UsbTrace}
    (run : process.Finishes (done ++ Sys.printed text :: rest))
    (accepted : (lifecycle process.policy).watch Phase.start done = some phase)
    (unwinds : process.Unwinds phase.handle?.toList calls) :
    ∃ after, (lifecycle process.policy).watch phase (calls.map usbWords.event) = some after ∧
      after.Ended := by
  generalize own : phase.handle?.toList = handles at unwinds
  cases unwinds with
  | nothing => exact ⟨phase, rfl, Option.toList_eq_nil_iff.mp own⟩
  | @sensor args me calls interface claimed drop =>
      obtain ⟨result, ran⟩ := run
      have mine : phase.handle? = some me.handle := Option.toList_eq_singleton_iff.mp own
      rcases Elanctl.droppable_of_runs ran accepted with ended | ⟨handle, rfl⟩
      · rw [ended] at mine
        cases mine
      · obtain rfl := Option.some.inj mine
        obtain ⟨_, after, -, dropped, rfl⟩ := meets_drop interface claimed _ _
          (Program.runs_translate_iff.mpr ⟨calls, rfl, drop⟩)
        exact ⟨.closed, dropped, rfl⟩
  | handle handle =>
      refine ⟨.closed, Monitor.watch_cons_iff.mpr ⟨_, lifecycle_iff.mpr (.closes ?_), rfl⟩, rfl⟩
      exact Option.toList_eq_singleton_iff.mp own

theorem accepted_of_over (gone : process.Over trace) :
    ∃ phase, (lifecycle process.policy).watch Phase.start trace = some phase ∧ phase.Ended := by
  cases gone with
  | finished run => exact accepted_of_finishes run
  | @killed done rest run =>
      obtain ⟨_, whole, _⟩ := accepted_of_finishes run
      obtain ⟨phase, accepted⟩ := Monitor.watch_prefix whole
      have handles : stillOpen done = phase.handle?.toList := foldl_openAfter accepted
      rw [handles]
      cases own : phase.handle? with
      | none =>
          refine ⟨phase, ?_, own⟩
          change (lifecycle process.policy).watch Phase.start (done ++ []) = _
          rw [List.append_nil]
          exact accepted
      | some handle =>
          refine ⟨.closed, Monitor.watch_append_iff.mpr ⟨phase, accepted, ?_⟩, rfl⟩
          exact Monitor.watch_cons_iff.mpr ⟨_, lifecycle_iff.mpr (.closes own), rfl⟩
  | @unprinted done rest text calls run unwinds =>
      obtain ⟨_, whole, _⟩ := accepted_of_finishes run
      obtain ⟨phase, accepted⟩ := Monitor.watch_prefix whole
      have handles : stillOpen done = phase.handle?.toList := foldl_openAfter accepted
      rw [handles] at unwinds
      obtain ⟨after, dropped, ended⟩ := accepted_of_unwinds run accepted unwinds
      exact ⟨after, Monitor.watch_append_iff.mpr ⟨phase, accepted, dropped⟩, ended⟩

theorem accepted_of_lives (lives : process.Lives trace) :
    ∃ phase, (lifecycle process.policy).watch Phase.start trace = some phase := by
  cases lives with
  | running run =>
      obtain ⟨_, whole, _⟩ := accepted_of_finishes run
      exact Monitor.watch_prefix whole
  | gone gone =>
      obtain ⟨phase, accepted, _⟩ := accepted_of_over gone
      exact ⟨phase, accepted⟩

/-- What a process has done is the beginning of a run to its end, and then calls that drop what it
had open. -/
theorem exists_begun (lives : process.Lives trace) :
    ∃ (done rest : SysTrace) (calls : UsbTrace),
      trace = done ++ calls.map usbWords.event ∧ process.Finishes (done ++ rest) := by
  cases lives with
  | running run => exact ⟨trace, _, [], (List.append_nil trace).symm, run⟩
  | gone gone =>
      cases gone with
      | finished run =>
          refine ⟨trace, [], [], (List.append_nil trace).symm, ?_⟩
          rw [List.append_nil]
          exact run
      | killed run => exact ⟨_, _, _, rfl, run⟩
      | unprinted run => exact ⟨_, _, _, rfl, run⟩

end Process

/-! ### Custody -/

section Custody

variable {ι : Type} {pids : UsbDevice → UInt16} {conduct : UsbDevice → Conduct}

/-- What the phases of the processes say of the machine, that was found as `found`. -/
structure Custody (found now : World pids) (states : ι → Phase) : Prop where
  live : ∀ i handle, (states i).handle? = some handle → now.live handle = true
  fresh : ∀ i handle, (states i).handle? = some handle → found.live handle = false
  apart : ∀ i j handle, (states i).handle? = some handle → (states j).handle? = some handle → i = j
  holds : ∀ i handle, states i = .holding handle → now.interfaces.claims handle 0 = true
  kept : ∀ handle, (∀ i, (states i).handle? ≠ some handle) →
    now.live handle = found.live handle ∧
      now.interfaces.claims handle = found.interfaces.claims handle

/-- Who is said to hold a device holds it through a handle. -/
theorem Phase.holding_of_stage {phase : Phase} {dev : UsbDevice}
    (stage : phase.stage = .holding dev) :
    ∃ handle, phase = .holding handle ∧ handle.device = dev := by
  cases phase with
  | holding handle =>
      cases stage
      exact ⟨handle, rfl, rfl⟩
  | _ => cases stage

namespace Custody

theorem start (found : World pids) : Custody found found fun _ : ι => Phase.start where
  live _ _ own := by cases own
  fresh _ _ own := by cases own
  apart _ _ _ own := by cases own
  holds _ _ own := by cases own
  kept _ _ := ⟨rfl, rfl⟩

variable [DecidableEq ι] {found now next : World pids} {states : ι → Phase} {i j : ι}
  {after : Phase} {policy : Policy} {act : Act}

/-- A step that changes neither the handles nor the claims, of a process that keeps its handle. -/
theorem unmoved (custody : Custody found now states) (same : after.handle? = (states i).handle?)
    (holding : ∀ handle, after = .holding handle → states i = .holding handle)
    (live : next.live = now.live) (claims : next.interfaces.claims = now.interfaces.claims) :
    Custody found next (Function.update states i after) := by
  have handles : ∀ j, (Function.update states i after j).handle? = (states j).handle? := by
    intro j
    by_cases own : j = i
    · rw [own, Function.update_self, same]
    · rw [Function.update_of_ne own]
  have held : ∀ j handle, Function.update states i after j = .holding handle →
      states j = .holding handle := by
    intro j handle holds
    by_cases own : j = i
    · rw [own, Function.update_self] at holds
      rw [own]
      exact holding handle holds
    · rwa [Function.update_of_ne own] at holds
  constructor
  · simpa only [handles, live] using custody.live
  · simpa only [handles] using custody.fresh
  · simpa only [handles] using custody.apart
  · intro j handle holds
    rw [claims]
    exact custody.holds j handle (held j handle holds)
  · simpa only [handles, live, claims] using custody.kept

/-- A step of a process with its own handle, which no other process has. -/
theorem moved (custody : Custody found now states) (handle : DeviceHandle)
    (before : ∀ other, (states i).handle? = some other → other = handle)
    (later : ∀ other, after.handle? = some other → other = handle)
    (alone : ∀ j, j ≠ i → (states j).handle? ≠ some handle)
    (others : ∀ other, other ≠ handle → next.live other = now.live other ∧
      next.interfaces.claims other = now.interfaces.claims other)
    (live : after.handle? = some handle → next.live handle = true)
    (fresh : found.live handle = false)
    (holds : after = .holding handle → next.interfaces.claims handle 0 = true)
    (ended : after.handle? ≠ some handle → next.live handle = false) :
    Custody found next (Function.update states i after) := by
  have different : ∀ j, j ≠ i → ∀ other, (states j).handle? = some other → other ≠ handle := by
    rintro j elsewhere other own rfl
    exact alone j elsewhere own
  constructor
  · intro j other own
    by_cases here : j = i
    · rw [here, Function.update_self] at own
      obtain rfl := later other own
      exact live own
    · rw [Function.update_of_ne here] at own
      rw [(others other (different j here other own)).1]
      exact custody.live j other own
  · intro j other own
    by_cases here : j = i
    · rw [here, Function.update_self] at own
      rwa [later other own]
    · rw [Function.update_of_ne here] at own
      exact custody.fresh j other own
  · intro j k other own own'
    by_cases here : j = i
    · subst here
      rw [Function.update_self] at own
      by_contra apart
      rw [Function.update_of_ne (Ne.symm apart)] at own'
      exact different k (Ne.symm apart) other own' (later other own)
    · rw [Function.update_of_ne here] at own
      by_cases there : k = i
      · rw [there, Function.update_self] at own'
        exact absurd (later other own') (different j here other own)
      · rw [Function.update_of_ne there] at own'
        exact custody.apart j k other own own'
  · intro j other held
    by_cases here : j = i
    · rw [here, Function.update_self] at held
      obtain rfl := later other (by rw [held]; rfl)
      exact holds held
    · rw [Function.update_of_ne here] at held
      have own : (states j).handle? = some other := by rw [held]; rfl
      rw [(others other (different j here other own)).2]
      exact custody.holds j other held
  · intro other nobody
    by_cases same : other = handle
    · subst same
      have closed : after.handle? ≠ some other := by
        have mine := nobody i
        rwa [Function.update_self] at mine
      have dead := ended closed
      refine ⟨dead.trans fresh.symm, ?_⟩
      -- What is claimed is claimed through a handle in use, here as in the beginning.
      rw [next.claims_of_dead dead, found.claims_of_dead fresh]
    · obtain ⟨sameLive, sameClaims⟩ := others other same
      rw [sameLive, sameClaims]
      refine custody.kept other fun j own => ?_
      by_cases here : j = i
      · subst here
        exact same (before other own)
      · have theirs := nobody j
        rw [Function.update_of_ne here] at theirs
        exact theirs own

/-- **Custody is kept** by every step of every process. -/
theorem step (custody : Custody found now states) (step : (states i).Step policy act after)
    (effect : World.Effect now next act) : Custody found next (Function.update states i after) := by
  generalize own : states i = phase at step
  have mine : ∀ handle, (states i).handle? = some handle →
      ∀ j, j ≠ i → (states j).handle? ≠ some handle :=
    fun handle has j elsewhere has' => elsewhere (custody.apart j i handle has' has)
  cases step with
  | neutral => exact custody.unmoved (by rw [own]) (by simp [own]) effect.1 effect.2
  | describes => exact custody.unmoved (by rw [own]; rfl) (by simp) effect.1 effect.2
  | unopened => exact custody.unmoved (by rw [own]) (by simp) effect.1 effect.2
  | asks => exact custody.unmoved (by rw [own]) (by simp) effect.1 effect.2
  | detaches => exact custody.unmoved (by rw [own]) (by simp) effect.1 effect.2
  | refused => exact custody.unmoved (by rw [own]) (by simp) effect.1 effect.2
  | controls => exact custody.unmoved (by rw [own]) (by simp [own]) effect.1 effect.2
  | sends => exact custody.unmoved (by rw [own]) (by simp [own]) effect.1 effect.2
  | receives => exact custody.unmoved (by rw [own]) (by simp [own]) effect.1 effect.2
  | opens known handle =>
      obtain ⟨unused, live, claims⟩ := effect
      have nobody : ∀ j, (states j).handle? ≠ some handle := by
        intro j has
        rw [custody.live j handle has] at unused
        cases unused
      have fresh : found.live handle = false := by
        rw [← (custody.kept handle nobody).1]
        exact unused
      refine custody.moved handle ?_ ?_ (fun j _ => nobody j) ?_ ?_ fresh ?_ ?_
      · intro other has
        rw [own] at has
        cases has
      · rintro _ ⟨⟩
        rfl
      · intro other different
        refine ⟨?_, congrFun claims other⟩
        rw [Bool.eq_iff_iff, live other]
        exact or_iff_left different
      · intro _
        exact (live handle).mpr (.inr rfl)
      · rintro ⟨⟩
      · intro closed
        exact absurd rfl closed
  | claims handle =>
      obtain ⟨-, live, claims⟩ := effect
      have has : (states i).handle? = some handle := by rw [own]; rfl
      refine custody.moved handle ?_ ?_ (mine handle has) ?_ ?_
        (custody.fresh i handle has) ?_ ?_
      · intro other has'
        exact Option.some.inj (has'.symm.trans has)
      · rintro _ ⟨⟩
        rfl
      · intro other different
        refine ⟨congrFun live other, ?_⟩
        funext iface
        rw [Bool.eq_iff_iff, claims other iface]
        exact or_iff_left fun same => different same.1
      · intro _
        rw [live]
        exact custody.live i handle has
      · intro _
        exact (claims handle 0).mpr (.inr ⟨rfl, rfl⟩)
      · intro closed
        exact absurd rfl closed
  | releases handle =>
      obtain ⟨live, claims⟩ := effect
      have has : (states i).handle? = some handle := by rw [own]; rfl
      refine custody.moved handle ?_ ?_ (mine handle has) ?_ ?_
        (custody.fresh i handle has) ?_ ?_
      · intro other has'
        exact Option.some.inj (has'.symm.trans has)
      · rintro _ ⟨⟩
        rfl
      · intro other different
        exact ⟨congrFun live other, claims other different⟩
      · intro _
        rw [live]
        exact custody.live i handle has
      · rintro ⟨⟩
      · intro closed
        exact absurd rfl closed
  | @closes _ handle has =>
      obtain ⟨live, claims⟩ := effect
      rw [← own] at has
      refine custody.moved handle ?_ ?_ (mine handle has) ?_ ?_
        (custody.fresh i handle has) ?_ ?_
      · intro other has'
        exact Option.some.inj (has'.symm.trans has)
      · rintro _ ⟨⟩
      · intro other different
        constructor
        · rw [Bool.eq_iff_iff, live other]
          exact and_iff_left different
        · funext iface
          rw [Bool.eq_iff_iff, claims other iface]
          exact and_iff_left different
      · rintro ⟨⟩
      · rintro ⟨⟩
      · intro _
        rw [Bool.eq_false_iff]
        intro used
        exact ((live handle).mp used).2 rfl

omit [DecidableEq ι] in
/-- A device that is being taken is held by nobody. -/
theorem granted (custody : Custody found now states) (step : (states i).Step policy act after)
    (effect : World.Effect now next act) {dev : UsbDevice} (holds : after.stage = .holding dev)
    (newly : (states i).stage ≠ .holding dev) (j : ι) : (states j).stage ≠ .holding dev := by
  intro theirs
  generalize own : states i = phase at step newly
  cases step with
  | claims handle =>
      cases holds
      obtain ⟨other, held, same⟩ := Phase.holding_of_stage theirs
      have claimed := custody.holds j other held
      by_cases equal : other = handle
      · subst equal
        have one := custody.apart i j other (by rw [own]; rfl) (by rw [held]; rfl)
        rw [one, held] at own
        cases own
      · rw [effect.1 other equal same] at claimed
        cases claimed
  | neutral => exact newly holds
  | controls => exact newly holds
  | sends => exact newly holds
  | receives => exact newly holds
  | _ => cases holds

end Custody

/-- Lives on one machine, step by step. -/
inductive Lived [DecidableEq ι] (policies : ι → Policy) (conduct : UsbDevice → Conduct)
    (found : World pids) : List (ι × Event SysAnswer) → (ι → Phase) → World pids → Prop where
  | start : Lived policies conduct found [] (fun _ => Phase.start) found
  | step {trace : List (ι × Event SysAnswer)} {states : ι → Phase} {now next : World pids} {i : ι}
      {event : Event SysAnswer} {after : Phase}
      (earlier : Lived policies conduct found trace states now)
      (taken : (states i).Step (policies i) (act event) after)
      (moved : World.env pids conduct now event.op event.answer next) :
      Lived policies conduct found (trace ++ [(i, event)]) (Function.update states i after) next

namespace Lived

variable [DecidableEq ι] {policies : ι → Policy} {found now : World pids}
  {trace : List (ι × Event SysAnswer)} {states : ι → Phase}

theorem watch_own (lived : Lived policies conduct found trace states now) (i : ι) :
    (lifecycle (policies i)).watch Phase.start (own i trace) = some (states i) := by
  induction lived with
  | start => rfl
  | @step trace states now next j event after earlier taken moved ih =>
      by_cases same : j = i
      · subst same
        rw [own_snoc_self, Function.update_self]
        exact Monitor.watch_append_iff.mpr
          ⟨_, ih, Monitor.watch_cons_iff.mpr ⟨_, lifecycle_iff.mpr taken, rfl⟩⟩
      · rw [own_snoc_other same, Function.update_of_ne (Ne.symm same)]
        exact ih

/-- Processes that live by their policies live on the machine. -/
theorem exists_lived
    (accepted : ∀ i, ∃ phase,
      (lifecycle (policies i)).watch Phase.start (own i trace) = some phase)
    (path : Path (World.env pids conduct) found (trace.map Prod.snd) now) :
    ∃ states, Lived policies conduct found trace states now := by
  induction trace using List.reverseRecOn generalizing now with
  | nil =>
      obtain rfl := Path.nil_iff.mp path
      exact ⟨_, .start⟩
  | append_singleton trace event ih =>
      rcases event with ⟨i, request, answer⟩
      rw [List.map_append] at path
      obtain ⟨middle, path, last⟩ := Path.append_iff.mp path
      obtain ⟨_, moved, ended⟩ := Path.cons_iff.mp last
      obtain rfl := Path.nil_iff.mp ended
      have earlier : ∀ j, ∃ phase,
          (lifecycle (policies j)).watch Phase.start (own j trace) = some phase := by
        intro j
        obtain ⟨phase, whole⟩ := accepted j
        rw [own_append] at whole
        exact Monitor.watch_prefix whole
      obtain ⟨states, lived⟩ := ih earlier path
      obtain ⟨after, whole⟩ := accepted i
      rw [own_snoc_self] at whole
      obtain ⟨before, head, tail⟩ := Monitor.watch_append_iff.mp whole
      obtain rfl := Option.some.inj ((lived.watch_own i).symm.trans head)
      obtain ⟨_, step, same⟩ := Monitor.watch_cons_iff.mp tail
      cases same
      exact ⟨_, lived.step (lifecycle_iff.mp step) moved⟩

theorem custody (lived : Lived policies conduct found trace states now) :
    Custody found now states := by
  induction lived with
  | start => exact .start found
  | step _ taken moved ih => exact ih.step taken (World.effect_of_step moved)

theorem pool (lived : Lived policies conduct found trace states now) :
    (discipline policies).Pool Phase.start trace states := by
  induction lived with
  | start => exact .nil
  | step earlier taken moved ih =>
      refine ih.snoc (lifecycle_iff.mpr taken) fun dev holds newly => ?_
      exact earlier.custody.granted taken (World.effect_of_step moved) holds newly

end Lived

/-- **The processes are a pool**, and have custody of what they hold. -/
theorem Custody.exists_pool [DecidableEq ι] {found now : World pids} {policies : ι → Policy}
    {trace : List (ι × Event SysAnswer)}
    (accepted : ∀ i, ∃ phase,
      (lifecycle (policies i)).watch Phase.start (own i trace) = some phase)
    (path : Path (World.env pids conduct) found (trace.map Prod.snd) now) :
    ∃ states, (discipline policies).Pool Phase.start trace states ∧ Custody found now states := by
  obtain ⟨states, lived⟩ := Lived.exists_lived accepted path
  exact ⟨states, lived.pool, lived.custody⟩

/-! ### Running processes -/

/-- Processes on one machine: what they have done, in the order in which it happened, and where
it has led the machine. -/
structure Running [DecidableEq ι] (processes : ι → Process) (conduct : UsbDevice → Conduct)
    (before : World pids) (trace : List (ι × Event SysAnswer)) (after : World pids) : Prop where
  lives : ∀ i, (processes i).Lives (own i trace)
  path : Path (World.env pids conduct) before (trace.map Prod.snd) after

end Custody

/-! ### The one sensor of a machine -/

namespace OneSensor

def handle (n : Nat) : DeviceHandle := ⟨⟨0⟩, n⟩

def finding (handle : DeviceHandle) : SysTrace :=
  [⟨.newContext, (.ok ⟨0⟩ : Except UsbError Context)⟩,
    ⟨.devices ⟨0⟩, (.ok [handle.device] : Except UsbError (List UsbDevice))⟩,
    ⟨.deviceDescriptor handle.device, (.ok ⟨0x04f3, 0x0c00⟩ : Except UsbError DeviceDescriptor)⟩,
    ⟨.deviceDescriptor handle.device,
      (.ok ⟨0x04f3, 0x0c00⟩ : Except UsbError DeviceDescriptor)⟩].map usbWords.event

/-- Up to the claim. -/
def opening (handle : DeviceHandle) (driver : Bool) : SysTrace :=
  (Usb.opened handle :: Usb.active handle 0 (.ok driver) ::
    match driver with
    | true => [Usb.detached handle 0 (.ok ())]
    | false => []).map usbWords.event

def claim (handle : DeviceHandle) : Event SysAnswer :=
  usbWords.event (Usb.claimed handle 0 (.ok ()))

theorem version_fits : ([1, 2] : List UInt8).length ≤ Proto.getFwVer.inLen := Nat.le_refl 2

theorem record_fits : (Proto.record 0x0c00 0 0 [0x46]).length ≤ Proto.fingerInfo.inLen :=
  Nat.le_refl 64

end OneSensor

end Elan0c00
