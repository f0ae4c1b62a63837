import Mathlib.Order.Lattice

/-!
# Shared and exclusive leases

Holders lease resources until some time, alone or with others. A book keeps what each holder
has of each resource; a lease taken again keeps the stronger of its two modes.
-/

set_option autoImplicit false

namespace ImCodes.Library

inductive LeaseMode
  | shared
  | exclusive
deriving DecidableEq

structure Lease (Time : Type) where
  mode : LeaseMode
  expiresAt : Time
deriving DecidableEq

abbrev LeaseBook (Holder Resource Time : Type) := Holder → Resource → Option (Lease Time)

namespace LeaseBook

variable {Holder Resource Time : Type}

def empty : LeaseBook Holder Resource Time := fun _ _ => none

def elapse [LT Time] [DecidableLT Time] (book : LeaseBook Holder Resource Time) (now : Time) :
    LeaseBook Holder Resource Time :=
  fun holder resource => (book holder resource).filter fun lease => now < lease.expiresAt

/-- The mode a holder has after taking a resource in a mode. -/
def modeAfter (book : LeaseBook Holder Resource Time) (holder : Holder) (resource : Resource)
    (mode : LeaseMode) : LeaseMode :=
  match book holder resource with
  | some lease => if lease.mode = .exclusive then .exclusive else mode
  | none => mode

def take [DecidableEq Holder] [DecidableEq Resource] (book : LeaseBook Holder Resource Time)
    (holder : Holder) (resource : Resource) (mode : LeaseMode) (expiresAt : Time) :
    LeaseBook Holder Resource Time :=
  fun other wanted =>
    if other = holder ∧ wanted = resource then
      some ⟨book.modeAfter holder resource mode, expiresAt⟩
    else book other wanted

def release (book : LeaseBook Holder Resource Time) (leaves : Holder → Bool) :
    LeaseBook Holder Resource Time :=
  fun holder resource => if leaves holder then none else book holder resource

def Admits (book : LeaseBook Holder Resource Time) (holder : Holder) (resource : Resource)
    (mode : LeaseMode) : Prop :=
  ∀ other lease, other ≠ holder → book other resource = some lease →
    lease.mode = .shared ∧ mode = .shared

def Exclusive (book : LeaseBook Holder Resource Time) : Prop :=
  ∀ first second resource firstLease secondLease, first ≠ second →
    book first resource = some firstLease → book second resource = some secondLease →
      firstLease.mode = .shared

variable {book : LeaseBook Holder Resource Time} {holder : Holder} {resource : Resource}

@[simp] theorem empty_apply : (empty : LeaseBook Holder Resource Time) holder resource = none := rfl

@[simp] theorem elapse_eq_some_iff [LT Time] [DecidableLT Time] {now : Time}
    {lease : Lease Time} :
    book.elapse now holder resource = some lease ↔
      book holder resource = some lease ∧ now < lease.expiresAt := by
  simp [elapse, Option.filter_eq_some_iff]

@[simp] theorem release_eq_some_iff {leaves : Holder → Bool} {lease : Lease Time} :
    book.release leaves holder resource = some lease ↔
      leaves holder = false ∧ book holder resource = some lease := by
  unfold release
  cases leaves holder <;> simp

theorem take_self [DecidableEq Holder] [DecidableEq Resource] {mode : LeaseMode}
    {expiresAt : Time} :
    book.take holder resource mode expiresAt holder resource =
      some ⟨book.modeAfter holder resource mode, expiresAt⟩ := by
  simp [take]

theorem take_other [DecidableEq Holder] [DecidableEq Resource] {mode : LeaseMode}
    {expiresAt : Time} {other : Holder} {wanted : Resource}
    (different : ¬ (other = holder ∧ wanted = resource)) :
    book.take holder resource mode expiresAt other wanted = book other wanted :=
  if_neg different

theorem exclusive_empty : (empty : LeaseBook Holder Resource Time).Exclusive := by
  intro first second resource firstLease secondLease _ isFirst
  simp at isFirst

namespace Exclusive

theorem elapse [LT Time] [DecidableLT Time] (exclusive : book.Exclusive) (now : Time) :
    (book.elapse now).Exclusive := by
  intro first second resource firstLease secondLease different isFirst isSecond
  rw [elapse_eq_some_iff] at isFirst isSecond
  exact exclusive first second resource firstLease secondLease different isFirst.1 isSecond.1

theorem release (exclusive : book.Exclusive) (leaves : Holder → Bool) :
    (book.release leaves).Exclusive := by
  intro first second resource firstLease secondLease different isFirst isSecond
  rw [release_eq_some_iff] at isFirst isSecond
  exact exclusive first second resource firstLease secondLease different isFirst.2 isSecond.2

/-- A holder who may take a mode is alone on the resource, or only shares it afterwards. -/
theorem modeAfter_shared {mode : LeaseMode} (exclusive : book.Exclusive)
    (admits : book.Admits holder resource mode) {other : Holder} {lease : Lease Time}
    (different : other ≠ holder) (isHeld : book other resource = some lease) :
    lease.mode = .shared ∧ book.modeAfter holder resource mode = .shared := by
  have shared := admits other lease different isHeld
  refine ⟨shared.1, ?_⟩
  unfold modeAfter
  split
  · rename_i own isOwn
    have ownShared := exclusive holder other resource own lease different.symm isOwn isHeld
    rw [ownShared, if_neg (by decide), shared.2]
  · exact shared.2

theorem take [DecidableEq Holder] [DecidableEq Resource] {mode : LeaseMode}
    {expiresAt : Time} (exclusive : book.Exclusive) (admits : book.Admits holder resource mode) :
    (book.take holder resource mode expiresAt).Exclusive := by
  intro first second wanted firstLease secondLease different isFirst isSecond
  by_cases firstTook : first = holder ∧ wanted = resource
  · obtain ⟨rfl, rfl⟩ := firstTook
    rw [take_self] at isFirst
    rw [take_other (by simp [different.symm])] at isSecond
    cases isFirst
    exact (exclusive.modeAfter_shared admits different.symm isSecond).2
  · rw [take_other firstTook] at isFirst
    by_cases secondTook : second = holder ∧ wanted = resource
    · obtain ⟨rfl, rfl⟩ := secondTook
      exact (exclusive.modeAfter_shared admits different isFirst).1
    · rw [take_other secondTook] at isSecond
      exact exclusive first second wanted firstLease secondLease different isFirst isSecond

end Exclusive

end LeaseBook

end ImCodes.Library
