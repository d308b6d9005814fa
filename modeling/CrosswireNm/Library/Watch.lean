import Mathlib.Data.List.Basic

/-!
# A channel that keeps the latest value only

The receiver knows the version it has last marked as seen, and is told of a change while there is
a newer one. Values sent in between are lost to it.
-/

namespace CrosswireNm.Library

/-- The channel as its one receiver knows it. -/
structure Watch (α : Type*) where
  value : α
  version : Nat
  seen : Nat
  closed : Bool
  deriving DecidableEq, Repr

namespace Watch

variable {α : Type*}

def new (value : α) : Watch α := ⟨value, 0, 0, false⟩

def send (w : Watch α) (value : α) : Watch α := { w with value := value, version := w.version + 1 }

def close (w : Watch α) : Watch α := { w with closed := true }

inductive Change (α : Type*)
  | newer (w : Watch α)
  | closed
  | pending

/-- `changed()` marks the latest value as seen; a newer value goes before the end. -/
def changed (w : Watch α) : Change α :=
  if w.seen ≠ w.version then .newer { w with seen := w.version }
  else if w.closed then .closed
  else .pending

structure Sent (first : α) (values : List α) (w : Watch α) : Prop where
  version : w.version = values.length
  value : w.value = values.getLastD first
  seen : w.seen ≤ w.version

variable {first : α} {values : List α} {w w' : Watch α}

theorem sent_new : Sent first [] (new first) := ⟨rfl, rfl, Nat.le_refl 0⟩

theorem Sent.send (h : Sent first values w) (value : α) :
    Sent first (values ++ [value]) (w.send value) where
  version := by
    rw [List.length_append, ← h.version]
    rfl
  value := by
    rw [List.getLastD_concat]
    rfl
  seen := Nat.le_succ_of_le h.seen

theorem changed_newer (h : w.changed = .newer w') :
    w' = { w with seen := w.version } ∧ w.seen ≠ w.version := by
  unfold changed at h
  split at h
  · rename_i hnewer
    cases h
    exact ⟨rfl, hnewer⟩
  · split at h <;> cases h

theorem changed_ne_closed (h : w.closed = false) : w.changed ≠ .closed := by
  unfold changed
  rw [h]
  split <;> nofun

theorem Sent.changed (h : Sent first values w) (hchanged : w.changed = .newer w') :
    Sent first values w' := by
  obtain ⟨rfl, _⟩ := changed_newer hchanged
  exact ⟨h.version, h.value, Nat.le_refl _⟩

end Watch

end CrosswireNm.Library
