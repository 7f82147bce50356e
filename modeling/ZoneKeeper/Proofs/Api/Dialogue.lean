import Mathlib
import ZoneKeeper.Api.Script

namespace ZoneKeeper

namespace Dialogue
variable {α β : Type}

theorem bind_eq (d : Dialogue α) (f : α → Dialogue β) : d >>= f = d.bind f := rfl

theorem bind_done (d : Dialogue α) : d.bind done = d := by
  induction d with
  | done a => rfl
  | fail f => rfl
  | log e next ih => rw [bind, ih]
  | call r next ih =>
    rw [bind]
    congr 1
    funext x
    exact ih x

theorem bind_assoc {γ : Type} (d : Dialogue α) (f : α → Dialogue β) (g : β → Dialogue γ) :
    (d.bind f).bind g = d.bind fun a => (f a).bind g := by
  induction d with
  | done a => rfl
  | fail f => rfl
  | log e next ih => simp only [bind, ih]
  | call r next ih =>
    simp only [bind]
    congr 1
    funext x
    exact ih x

instance : LawfulMonad Dialogue :=
  LawfulMonad.mk' Dialogue bind_done (fun _ _ => rfl) bind_assoc

@[simp] theorem ofExcept_ok_bind (a : α) (k : α → Dialogue β) : ofExcept (.ok a) >>= k = k a := rfl

end Dialogue

namespace Script

def reply (s : Script) (n : ℕ) : Reply :=
  match s.responses[n]? with
  | some r => r.reply
  | none => .nothing noResponse

def rest (s : Script) : Script := s.answer.2

theorem reply_answer (s : Script) : s.answer.1.reply = s.reply 0 := by
  unfold answer reply
  cases h : s.responses <;> simp

theorem reply_rest (s : Script) (n : ℕ) : s.rest.reply n = s.reply (n + 1) := by
  unfold rest answer reply
  cases h : s.responses <;> simp [h]

end Script

namespace Transcript
variable {α : Type}

def after (r : Request) (status : Status) (t : Transcript α) : Transcript α :=
  ⟨r :: t.requests, .calling r.endpoint :: .answered r.endpoint status :: t.log, t.outcome⟩

end Transcript

namespace Dialogue
variable {α : Type}

/-- What a call leaves behind whose answer is followed by more work. -/
theorem run_exchange_bind (r : Request) (k : Text → Dialogue α) (s : Script) :
    (exchange r >>= k).run s =
      match s.reply 0 with
      | .nothing cause =>
        ⟨[r], [.calling r.endpoint],
          .error (.unanswered r.label r.endpoint s.answer.1.aborted cause)⟩
      | .brokenBody status cause =>
        ⟨[r], [.calling r.endpoint],
          .error (.unreadable r.label r.endpoint s.answer.1.aborted status cause)⟩
      | .body status text =>
        if status = Status.ok then ((k text).run s.rest).after r status
        else ⟨[r], [.calling r.endpoint, .answered r.endpoint status],
          .error (.badStatus r.label r.endpoint status text)⟩ := by
  rw [← Script.reply_answer]
  simp only [bind_eq, exchange, bind, run]
  cases s.answer.1.reply with
  | nothing cause => rfl
  | brokenBody status cause => rfl
  | body status text =>
    simp only [bind, run]
    split_ifs with h
    · rfl
    · rfl

end Dialogue

/-- Where a dialogue stands when its log is written: at its end, or in front of an answer. -/
inductive Pause (α : Type)
  | ended (outcome : Except Failure α)
  | waiting (r : Request) (next : Delivery → Dialogue α)

namespace Dialogue
variable {α : Type}

def pause : Dialogue α → Pause α
  | done a => .ended (.ok a)
  | fail f => .ended (.error f)
  | log _ next => next.pause
  | call r next => .waiting r next

theorem pause_exchange_bind (r : Request) (k : Text → Dialogue α) :
    ∃ next, (exchange r >>= k).pause = .waiting r next ∧
      ∀ text aborted, (next ⟨.body Status.ok text, aborted⟩).pause = (k text).pause := by
  refine ⟨_, rfl, ?_⟩
  intro text aborted
  simp only [bind, if_pos, pause]

end Dialogue

end ZoneKeeper
