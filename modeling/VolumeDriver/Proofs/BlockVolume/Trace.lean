import VolumeDriver.Driver.BlockVolume
import VolumeDriver.Proofs.Driver.Trace
set_option autoImplicit false

/-! # What a successful call-out for a block volume has been answered

A `BlockVolume.attach` that succeeds has resolved its node, was given an attachment for its volume and that
instance by the answer to its request or by a listing, and last saw it in place. A `BlockVolume.detach` that
succeeds has found an attachment of its volume in a listing (`Listed`) and has been told that it is being
undone. -/

namespace VolumeDriver

open ControlPlane Fallible

/-! ## The controller side -/

namespace Controller

theorem ends_requestAttachment_ok {e : Exchange} {trace : List (Event signature)}
    {answer : e.Answer} (h : Ends (requestAttachment e) trace (.ok answer)) :
    trace = [exchanged e (.ok answer)] :=
  ends_request (ends_wrap_ok h)

/-- Whether a trace has this attachment on a page of the listing for its volume. -/
def Listed (compartmentId volumeId : String) (trace : List (Event signature))
    (a : VolumeAttachment) : Prop :=
  ∃ page, ∃ listing : Page VolumeAttachment, a ∈ listing.items ∧
    exchanged (.listVolumeAttachments compartmentId volumeId page) (.ok listing) ∈ trace

theorem ends_findAttachment_ok {limits : Limits} {compartmentId volumeId : String}
    {trace : List (Event signature)} {a : VolumeAttachment}
    (h : Ends (findAttachment limits compartmentId volumeId) trace (.ok a)) :
    Listed compartmentId volumeId trace a := by
  obtain ⟨first, rest, found, rfl, hfind, h⟩ := ends_bind_ok h
  cases found with
  | none => cases (ends_throw h).2
  | some b =>
    cases (ends_pure h).2
    obtain ⟨before, listed, after, page, listing, rfl, hlist, ha, _⟩ :=
      ends_findOnPages_some (fun trace result h => by cases (ends_throw h).2) hfind
    obtain rfl := ends_requestAttachment_ok hlist
    exact ⟨page, listing, ha, by simp⟩

/-- A `Controller.attach` is given the attachment that it asked for, or finds one of the right instance in a
    listing. -/
theorem ends_attach_ok {limits : Limits} {compartmentId instanceId volumeId : String}
    {trace : List (Event signature)} {a : VolumeAttachment}
    (h : Ends (attach limits compartmentId instanceId volumeId) trace (.ok a)) :
    exchanged (.attachVolume instanceId volumeId) (.ok a) ∈ trace ∨
      a.instanceId = instanceId ∧ Listed compartmentId volumeId trace a := by
  obtain ⟨asked, rest, answer, rfl, hask, hrest⟩ := ends_bind_ok h
  obtain rfl := ends_request (ends_outcome hask)
  -- Of the ways on only two end well: with the answer itself, or with what a search finds.
  split at hrest
  · cases (ends_pure hrest).2
    exact .inl List.mem_cons_self
  · split at hrest
    · obtain ⟨searched, rest, result, rfl, hsearch, hfound⟩ := ends_bind_ok hrest
      split at hfound
      · split at hfound
        · rename_i hinstance
          cases (ends_pure hfound).2
          obtain ⟨page, listing, ha, he⟩ := ends_findAttachment_ok (ends_outcome hsearch)
          exact .inr ⟨hinstance, page, listing, ha, by simp [he]⟩
        · cases (ends_throw hfound).2
      · cases (ends_throw hfound).2
      · cases (ends_throw hfound).2
    · cases (ends_throw hrest).2

/-- A `waitForAttached` ends when the attachment is seen in place. -/
theorem ends_waitForAttached_ok {limits : Limits} {id : String} {trace : List (Event signature)}
    {a : VolumeAttachment} (h : Ends (waitForAttached limits id) trace (.ok a)) :
    a.state = .attached ∧
      ∃ before, trace = before ++ [exchanged (.getVolumeAttachment id) (.ok a)] := by
  obtain ⟨before, last, rfl, hlast⟩ := ends_pollTimes_ok h
  obtain ⟨looked, rest, seen, rfl, hlook, hrest⟩ := ends_bind_ok hlast
  obtain rfl := ends_requestAttachment_ok hlook
  split at hrest
  · cases (ends_pure hrest).2
  · rename_i hstate
    obtain ⟨rfl, ha⟩ := ends_pure hrest
    cases ha
    exact ⟨hstate, before, by simp⟩
  · cases (ends_throw hrest).2

end Controller

/-! ## The driver -/

namespace BlockVolume

/-- How a `BlockVolume.attach` goes that succeeds. -/
theorem ends_attach_ok {limits : Controller.Limits} {options : Options} {node : String}
    {trace : List (Event driverSignature)} {status : Status}
    (h : Ends (attach limits options node) trace (.ok status)) :
    ∃ name session machine resolution asked requested looked last device,
      options.volumeName? = some name ∧
      trace = (connected session :: (resolution ++ (asked ++ (looked ++
        [Controller.exchanged (.getVolumeAttachment requested.id) (.ok last)])))).map
          Event.controlled ∧
      Ends (Controller.resolveNode limits session.scope node) resolution (.ok machine) ∧
      Ends (Controller.attach limits session.compartmentId machine.id
        (volumeId session.regionKey name)) asked (.ok requested) ∧
      last.state = .attached ∧ last.devicePath = .ok device ∧
      status = { Status.success with device := some device } := by
  obtain ⟨_, rest, name, rfl, hvolume, h₁⟩ := ends_bind_ok h
  obtain ⟨rfl, hname⟩ := ends_volumeOf_ok hvolume
  obtain ⟨_, rest, session, rfl, hsession, h₂⟩ := ends_bind_ok h₁
  obtain rfl := ends_openSession_ok hsession
  obtain ⟨_, rest, machine, rfl, hr, h₃⟩ := ends_bind_ok h₂
  obtain ⟨resolution, rfl, hresolve⟩ := ends_onController_ok hr
  obtain ⟨_, rest, requested, rfl, ha, h₄⟩ := ends_bind_ok h₃
  obtain ⟨asked, rfl, hask⟩ := ends_onController_ok ha
  obtain ⟨_, rest, last, rfl, hw, h₅⟩ := ends_bind_ok h₄
  obtain ⟨_, rfl, hwait⟩ := ends_onController_ok hw
  obtain ⟨hstate, looked, rfl⟩ := Controller.ends_waitForAttached_ok hwait
  obtain ⟨_, rest, device, rfl, hp, h₆⟩ := ends_bind_ok h₅
  obtain ⟨rfl, hdevice⟩ := ends_ofExcept (ends_wrap_ok hp)
  obtain ⟨rfl, hstatus⟩ := ends_pure h₆
  cases hstatus
  exact ⟨name, session, machine, resolution, asked, requested, looked, last, device, hname,
    by simp, hresolve, hask, hstate, hdevice.symm, rfl⟩

/-- How a `BlockVolume.detach` goes that succeeds. -/
theorem ends_detach_ok {limits : Controller.Limits} {volume node : String}
    {trace : List (Event driverSignature)} {status : Status}
    (h : Ends (detach limits volume node) trace (.ok status)) :
    ∃ session found a waited,
      trace = (connected session :: (found ++
        (Controller.exchanged (.detachVolume a.id) (.ok ()) :: waited))).map Event.controlled ∧
      Controller.Listed session.compartmentId (volumeId session.regionKey volume) found a := by
  obtain ⟨_, rest, session, rfl, hsession, h₁⟩ := ends_bind_ok h
  obtain rfl := ends_openSession_ok hsession
  obtain ⟨_, rest, a, rfl, hf, h₂⟩ := ends_bind_ok h₁
  obtain ⟨found, rfl, hfind⟩ := ends_onController_ok hf
  obtain ⟨_, rest, _, rfl, hd, h₃⟩ := ends_bind_ok h₂
  obtain ⟨_, rfl, hdetach⟩ := ends_onController_ok hd
  obtain rfl := Controller.ends_requestAttachment_ok hdetach
  obtain ⟨_, rest, _, rfl, hw, h₄⟩ := ends_bind_ok h₃
  obtain ⟨waited, rfl, _⟩ := ends_onController_ok hw
  obtain ⟨rfl, _⟩ := ends_pure h₄
  exact ⟨session, found, a, waited, by simp, Controller.ends_findAttachment_ok hfind⟩

end BlockVolume

end VolumeDriver
