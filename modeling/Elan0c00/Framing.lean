import Elan0c00.Proto
import Mathlib.Data.List.Pairwise

/-! # What a request says

The frames of one command are determined by the payload up to its zero padding, and a frame
of a shipped command shows which command it is: the opcodes are prefix free
(`Proto.commands_prefixFree`), so no frame of one command is a prefix of a frame of another
(`Proto.not_prefix_encode`). The requests that write to the sensor's store are those that
begin with the header of a persistent command (`Proto.PersistentHeader`).
-/

namespace Elan0c00.Proto

open Bytes

/-- The frame is the header followed by the payload, extended to the payload area. -/
theorem encode_eq_header_append (cmd : Cmd) (payload : List UInt8) :
    encode cmd payload = frameMagic :: (cmd.cmd ++
      payload.rightpad (cmd.outLen - (1 + cmd.cmd.length)) 0) := by
  rw [encode_eq_append]
  unfold List.rightpad
  rw [Nat.sub_sub]

/-- Two payloads give one frame exactly when they agree once extended by zeros. -/
theorem encode_eq_encode_iff (cmd : Cmd) (first second : List UInt8) :
    encode cmd first = encode cmd second ↔
      first.rightpad (cmd.outLen - (1 + cmd.cmd.length)) 0 =
        second.rightpad (cmd.outLen - (1 + cmd.cmd.length)) 0 := by
  rw [encode_eq_header_append, encode_eq_header_append]
  constructor
  · intro same
    exact List.append_cancel_left (List.cons.inj same).2
  · intro same
    rw [same]

theorem header_prefix_encode (cmd : Cmd) (payload : List UInt8) :
    frameMagic :: cmd.cmd <+: encode cmd payload := by
  rw [encode_eq_header_append, ← List.cons_append]
  exact List.prefix_append _ _

/-- Neither opcode is a prefix of the other. -/
def OpcodesApart (first second : Cmd) : Prop :=
  ¬ first.cmd <+: second.cmd ∧ ¬ second.cmd <+: first.cmd

instance (first second : Cmd) : Decidable (OpcodesApart first second) :=
  inferInstanceAs (Decidable (_ ∧ _))

instance : Std.Symm OpcodesApart := ⟨fun _ _ apart => apart.symm⟩

/-- No opcode of the table is a prefix of another one. -/
theorem commands_prefixFree : commands.Pairwise OpcodesApart := by
  decide

/-- No frame of one shipped command is a prefix of a frame of another. -/
theorem not_prefix_encode {first second : Cmd} (shipped : first ∈ commands)
    (listed : second ∈ commands) (different : first ≠ second) (payload other : List UInt8) :
    ¬ encode first payload <+: encode second other := by
  intro extends_
  have mine := (header_prefix_encode first payload).trans extends_
  have theirs := header_prefix_encode second other
  obtain ⟨forward, backward⟩ := commands_prefixFree.forall shipped listed different
  rcases List.prefix_or_prefix_of_prefix mine theirs with inside | inside
  · exact forward (List.cons_prefix_cons.mp inside).2
  · exact backward (List.cons_prefix_cons.mp inside).2

/-- **Frames.** `frame` never faults, refuses exactly what does not fit and otherwise returns
the magic byte, the opcode, the payload and zeros, `outLen` bytes in all. For one command it
is injective up to the zero padding of the payload, and no frame of a shipped command is a
prefix of a frame of a different one. -/
theorem frame_layout :
    (∀ cmd payload, ∃ outcome, frame cmd payload = .ok outcome ∧
      (outcome = none ↔ 1 + cmd.cmd.length + payload.length > cmd.outLen) ∧
      ∀ out, outcome = some out → out.length = cmd.outLen ∧
        ∃ zeros, out = 0x40 :: (cmd.cmd ++ payload ++ List.replicate zeros 0)) ∧
    (∀ cmd first second out other, frame cmd first = .ok (some out) →
      frame cmd second = .ok (some other) →
        (out = other ↔ first.rightpad (cmd.outLen - (1 + cmd.cmd.length)) 0 =
          second.rightpad (cmd.outLen - (1 + cmd.cmd.length)) 0)) ∧
    (∀ first ∈ commands, ∀ second ∈ commands, first ≠ second →
      ∀ payload payload' out other, frame first payload = .ok (some out) →
        frame second payload' = .ok (some other) → ¬ out <+: other ∧ ¬ other <+: out) := by
  refine ⟨?_, ?_, ?_⟩
  · intro cmd payload
    refine ⟨_, frame_eq cmd payload, ?_, ?_⟩
    · rw [ite_eq_right_iff, gt_iff_lt, ← Nat.not_le]
      constructor
      · exact fun refused fits => nomatch refused fits
      · exact fun oversized fits => (oversized fits).elim
    · intro out framed
      obtain ⟨fits, rfl⟩ : Fits cmd payload ∧ encode cmd payload = out := by
        split at framed
        · exact ⟨‹_›, Option.some.inj framed⟩
        · exact nomatch framed
      refine ⟨length_encode fits, cmd.outLen - (1 + cmd.cmd.length + payload.length), ?_⟩
      rw [encode_eq_append, List.append_assoc]
      rfl
  · intro cmd first second out other framed also
    obtain ⟨-, rfl⟩ := frame_eq_some_iff.mp framed
    obtain ⟨-, rfl⟩ := frame_eq_some_iff.mp also
    exact encode_eq_encode_iff cmd first second
  · intro first shipped second listed different payload payload' out other framed also
    obtain ⟨-, rfl⟩ := frame_eq_some_iff.mp framed
    obtain ⟨-, rfl⟩ := frame_eq_some_iff.mp also
    exact ⟨not_prefix_encode shipped listed different payload payload',
      not_prefix_encode listed shipped different.symm payload' payload⟩

/-- The last opcode bytes of the commands that write persistent data. -/
def persistentCodes : List UInt8 := [0x01, 0x11, 0x13, 0x99]

/-- The frame begins with the header of a persistent command. -/
def PersistentHeader (out : List UInt8) : Prop :=
  ∃ code ∈ persistentCodes, [frameMagic, 0xff, code] <+: out

instance (out : List UInt8) : Decidable (PersistentHeader out) :=
  inferInstanceAs (Decidable (∃ code ∈ persistentCodes, _))

/-- The opcode bytes, completed by the payload, spell a persistent command. -/
def SpellsPersistent (cmd : Cmd) (payload : List UInt8) : Prop :=
  ∃ code ∈ persistentCodes, [0xff, code] <+: cmd.cmd ++ payload

instance (cmd : Cmd) (payload : List UInt8) : Decidable (SpellsPersistent cmd payload) :=
  inferInstanceAs (Decidable (∃ code ∈ persistentCodes, _))

/-- A frame is that of a persistent command exactly when opcode and payload spell one: the
padding cannot supply a byte of the header. -/
theorem persistentHeader_encode_iff (cmd : Cmd) (payload : List UInt8) :
    PersistentHeader (encode cmd payload) ↔ SpellsPersistent cmd payload := by
  have codes : ∀ code ∈ persistentCodes, NoTrailing 0 [0xff, code] := by
    simp [persistentCodes, NoTrailing]
  unfold PersistentHeader SpellsPersistent
  rw [encode_eq_append, ← List.append_assoc]
  constructor
  · rintro ⟨code, member, inside⟩
    have body := (List.cons_prefix_cons.mp inside).2
    exact ⟨code, member, (prefix_append_replicate_iff (codes code member) _).mp body⟩
  · rintro ⟨code, member, inside⟩
    refine ⟨code, member, List.cons_prefix_cons.mpr ⟨rfl, ?_⟩⟩
    exact (prefix_append_replicate_iff (codes code member) _).mpr inside

end Elan0c00.Proto
