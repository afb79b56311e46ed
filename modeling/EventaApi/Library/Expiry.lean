import Mathlib.Data.Option.Basic

/-!
# Keys that expire

A key of a store holds a count and, once it was given one, the moment it dies: it is there
up to that moment and gone after it. A key is set only where there is none, counted up,
given a moment to die, or asked how long it has left; each of these is one atomic command.
-/
namespace EventaApi.Library

structure Expiring where
  count : Nat
  expiresAt : Option Nat
  deriving DecidableEq, Repr

/-- A key, if it is there. -/
abbrev Key := Option Expiring

namespace Key

def lives (now : Nat) (entry : Expiring) : Prop := ∀ moment ∈ entry.expiresAt, now ≤ moment

instance (now : Nat) : DecidablePred (lives now) :=
  fun _ => inferInstanceAs (Decidable (∀ _ ∈ _, _))

/-- What is left of a key at this moment. -/
def sweep (now : Nat) (key : Key) : Key := key.filter fun entry => decide (lives now entry)

/-- Set where there is none, to die at this moment; whether it was. -/
def setIfAbsent (moment : Nat) : Key → Key × Bool
  | none => (some ⟨1, some moment⟩, true)
  | some entry => (some entry, false)

/-- Count up; a new key has no end. -/
def increment : Key → Expiring
  | none => ⟨1, none⟩
  | some entry => { entry with count := entry.count + 1 }

/-- Give a key that is there a moment to die. -/
def expire (moment : Nat) (key : Key) : Key :=
  key.map fun entry => { entry with expiresAt := some moment }

/-- Whole seconds left, to the nearest; less than none for no end, and for no key. -/
def timeLeft (now : Nat) : Key → Int
  | none => -2
  | some ⟨_, none⟩ => -1
  | some ⟨_, some moment⟩ => ↑((moment - now + 500) / 1000)

/-- A key's end is ahead, and no further than this. -/
def Within (span now : Nat) (key : Key) : Prop :=
  ∀ entry ∈ key, ∀ moment ∈ entry.expiresAt, now ≤ moment ∧ moment ≤ now + span

/-- A key that is there has been counted. -/
def Counted (key : Key) : Prop := ∀ entry ∈ key, 1 ≤ entry.count

section Commands

variable {span now later moment : Nat} {key : Key} {entry : Expiring}

theorem sweep_eq_some : sweep now key = some entry ↔ key = some entry ∧ lives now entry := by
  unfold sweep
  rw [Option.filter_eq_some_iff, decide_eq_true_eq]

/-- A key that is there is left as it is. -/
theorem setIfAbsent_kept (there : key = some entry) : (setIfAbsent moment key).1 = some entry := by
  rw [there]
  rfl

theorem within_sweep (within : Within span now key) (passed : now ≤ later) :
    Within span later (sweep later key) := by
  intro entry there moment ends
  obtain ⟨stored, alive⟩ := sweep_eq_some.mp there
  have before := within entry stored moment ends
  have ahead : later ≤ moment := alive moment ends
  omega

/-- After its span a key with an end is gone. -/
theorem sweep_past (within : Within span now key) (passed : now + span < later) {moment : Nat}
    (ends : entry.expiresAt = some moment) : sweep later key ≠ some entry := by
  intro there
  obtain ⟨stored, alive⟩ := sweep_eq_some.mp there
  have before := within entry stored moment ends
  have ahead : later ≤ moment := alive moment ends
  omega

theorem within_setIfAbsent (within : Within span now key) :
    Within span now (setIfAbsent (now + span) key).1 := by
  cases key with
  | none =>
    rintro _ ⟨⟩ _ ⟨⟩
    omega
  | some entry => exact within

theorem within_increment (within : Within span now key) :
    Within span now (some (increment key)) := by
  cases key with
  | none => rintro _ ⟨⟩ _ ⟨⟩
  | some entry =>
    rintro _ ⟨⟩ moment ends
    exact within entry rfl moment ends

theorem within_expire : Within span now (expire (now + span) key) := by
  cases key with
  | none => rintro _ ⟨⟩
  | some entry =>
    rintro _ ⟨⟩ _ ⟨⟩
    omega

theorem counted_sweep (counted : Counted key) : Counted (sweep now key) :=
  fun entry there => counted entry (sweep_eq_some.mp there).1

theorem counted_increment : Counted (some (increment key)) := by
  rintro _ ⟨⟩
  cases key with
  | none => exact Nat.le_refl 1
  | some entry => exact Nat.le_add_left 1 _

theorem counted_expire (counted : Counted key) : Counted (expire moment key) := by
  cases key with
  | none => rintro _ ⟨⟩
  | some entry =>
    rintro _ ⟨⟩
    exact counted entry rfl

end Commands

end Key

end EventaApi.Library
