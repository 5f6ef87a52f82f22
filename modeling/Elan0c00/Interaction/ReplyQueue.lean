import Mathlib.Data.List.Basic

/-! # A queue of replies

Every request is owed one reply. The replies arrive in request order, each at some moment
after its request, and wait in a queue until they are taken from its head. The requests not
yet settled by a taken reply are `outstanding`; only a request adds to them and only a take
removes one, the oldest.
-/

namespace Interaction

/-- The replies that have arrived, each with its request, and the requests still owed one. -/
structure ReplyQueue (ι β : Type) where
  arrived : List (ι × β)
  due : List ι

namespace ReplyQueue

variable {ι β : Type} {before after : ReplyQueue ι β}

def empty : ReplyQueue ι β := ⟨[], []⟩

/-- The requests whose reply has not been taken, oldest first. -/
def outstanding (queue : ReplyQueue ι β) : List ι := queue.arrived.map Prod.fst ++ queue.due

def request (queue : ReplyQueue ι β) (id : ι) : ReplyQueue ι β :=
  { queue with due := queue.due ++ [id] }

/-- The oldest reply still owed arrives. -/
inductive Arrives : ReplyQueue ι β → ReplyQueue ι β → Prop where
  | mk (arrived : List (ι × β)) (id : ι) (reply : β) (due : List ι) :
      Arrives ⟨arrived, id :: due⟩ ⟨arrived ++ [(id, reply)], due⟩

/-- The reply at the head of the queue is taken. -/
inductive Takes : ReplyQueue ι β → ι × β → ReplyQueue ι β → Prop where
  | mk (entry : ι × β) (arrived : List (ι × β)) (due : List ι) :
      Takes ⟨entry :: arrived, due⟩ entry ⟨arrived, due⟩

@[simp] theorem outstanding_request (queue : ReplyQueue ι β) (id : ι) :
    (queue.request id).outstanding = queue.outstanding ++ [id] :=
  (List.append_assoc _ _ _).symm

/-- An arrival settles nothing and asks for nothing. -/
theorem Arrives.outstanding_eq (arrives : Arrives before after) :
    after.outstanding = before.outstanding := by
  cases arrives with
  | mk arrived id reply due =>
      unfold outstanding
      rw [List.map_append, List.append_assoc]
      rfl

/-- A take settles the oldest request. -/
theorem Takes.outstanding_eq {entry : ι × β} (takes : Takes before entry after) :
    before.outstanding = entry.1 :: after.outstanding := by
  cases takes
  rfl

/-- A later request does not change what is at the head. -/
theorem Takes.request {entry : ι × β} (takes : Takes before entry after) (id : ι) :
    Takes (before.request id) entry (after.request id) := by
  cases takes
  exact .mk _ _ _

/-- The reply of the oldest outstanding request can be taken, at once or after it arrives. -/
theorem exists_takes [Inhabited β] {id : ι} {rest : List ι}
    (oldest : before.outstanding = id :: rest) :
    ∃ ready reply taken, (ready = before ∨ Arrives before ready) ∧
      Takes ready (id, reply) taken := by
  rcases before with ⟨arrived, due⟩
  cases arrived with
  | cons entry arrived =>
      obtain rfl : entry.1 = id := (List.cons.inj oldest).1
      exact ⟨_, entry.2, _, .inl rfl, .mk _ _ _⟩
  | nil =>
      obtain rfl : due = id :: rest := oldest
      exact ⟨_, default, _, .inr (.mk _ _ _ _), .mk _ _ _⟩

end ReplyQueue

end Interaction
