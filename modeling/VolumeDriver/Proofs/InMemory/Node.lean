import VolumeDriver.InMemory.World
import VolumeDriver.Proofs.Dictionary
import VolumeDriver.Proofs.Flow.Run
set_option autoImplicit false

/-! # Operations of a host in memory

An operation is put on record (`Node.noted`) and answered, unless it was made to fail. A host that was made
to fail one operation answers all others as if it had not been. -/

namespace VolumeDriver.InMemory

open Host

/-- How a world answers the flows of the host side. -/
def World.hostAnswer (action : Host.signature.Action) (w : World) :
    Host.signature.Answer action × World :=
  w.serve action

/-- An operation on the host of a world. -/
theorem runs_operate (o : Operation) (w : World) :
    Fallible.runs World.hostAnswer (operate o) w =
      ((w.node.operate o).1, { w with node := (w.node.operate o).2 }) :=
  rfl

namespace Node

/-- The host with an operation on record. -/
def noted (n : Node) (o : Operation) : Node :=
  { n with calls := n.calls ++ [operationName o] }

/-- The host after an operation that failed. -/
def faulted (n : Node) (o : Operation) : Node :=
  { n.noted o with failures := n.failures.insert (operationName o) [] }

/-- Nothing is made to fail on the host. -/
def Calm (n : Node) : Prop :=
  n.failures.Drained

instance (n : Node) : Decidable n.Calm :=
  inferInstanceAs (Decidable n.failures.Drained)

theorem Calm.noted {n : Node} (h : n.Calm) (o : Operation) : (n.noted o).Calm :=
  h

theorem Calm.faulted {n : Node} (h : n.Calm) (o : Operation) : (n.faulted o).Calm :=
  h.insert _

/-- An operation fails as it was made to, or is answered by `respond`. -/
theorem operate_cases (n : Node) (o : Operation) :
    (∃ fault, n.operate o = (.error fault, (n.record o).2)) ∨
      n.operate o = (n.record o).2.respond o := by
  rw [operate]
  rcases n.record o with ⟨_ | fault, m⟩
  · exact .inr rfl
  · exact .inl ⟨fault, rfl⟩

theorem operate_calm {n : Node} (h : n.Calm) (o : Operation) :
    n.operate o = (n.noted o).respond o := by
  simp only [operate, record, h.pop, Node.noted]

/-- The operation that `failNext` made to fail does so, once. -/
theorem operate_failNext {n : Node} (h : n.Calm) (o : Operation) (fault : Host.Fault) :
    (n.failNext (operationName o) fault).operate o = (.error fault, n.faulted o) := by
  simp only [operate, record, failNext, h.pop_push, Node.noted, Node.faulted]

theorem mount_failNext (n : Node) (name : String) (fault : Host.Fault)
    (source target fsType : String) :
    (n.failNext name fault).mount source target fsType =
      ((n.mount source target fsType).1, (n.mount source target fsType).2.failNext name fault) := by
  by_cases h : n.directories.contains target <;> simp [mount, failNext, h]

theorem unmount_failNext (n : Node) (name : String) (fault : Host.Fault) (target : String) :
    (n.failNext name fault).unmount target =
      ((n.unmount target).1, (n.unmount target).2.failNext name fault) := by
  by_cases h : n.mounts.any fun e => e.target = target
  · rw [unmount, unmount, if_pos h]
    exact if_pos h
  · rw [unmount, unmount, if_neg h]
    exact if_neg h

/-- Other operations do not see that `failNext` made one fail. A mount after formatting counts as an
    operation of its own, so formatting is left out here. -/
theorem operate_failNext_ne {n : Node} (h : n.Calm) {o : Operation} {name : String}
    (hne : operationName o ≠ name)
    (hformat : ∀ device target fsType options, o ≠ .formatAndMount device target fsType options)
    (fault : Host.Fault) :
    (n.failNext name fault).operate o = ((n.operate o).1, (n.operate o).2.failNext name fault) := by
  have hrecord : (n.failNext name fault).operate o =
      ((n.noted o).failNext name fault).respond o := by
    simp only [operate, record, failNext, h.pop_push_ne hne, Node.noted]
  rw [hrecord, operate_calm h]
  cases o with
  | formatAndMount device target fsType options =>
    exact absurd rfl (hformat device target fsType options)
  | setAutomaticLogin target =>
    by_cases h : n.records.contains target.iqn <;> simp [respond, failNext, Node.noted, h]
  | byPathLink device =>
    cases h : IscsiTarget.ofDevicePath device <;> simp [respond, h]
  | mount source target fsType options => exact mount_failNext ..
  | unmount target => exact unmount_failNext ..
  | _ => rfl

end Node

end VolumeDriver.InMemory
