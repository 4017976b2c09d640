import VolumeDriver.Controller.Attachment
import VolumeDriver.Controller.NodeName
import VolumeDriver.Proofs.Controller.Patience
import VolumeDriver.Proofs.Flow.Visits
set_option autoImplicit false

/-! # What flows of the controller side ask for

A flow that is made of requests, pauses and loops asks for nothing but what these ask for (`Fallible.Only`).
Attaches, detaches and their waits ask about one volume; the search for a node asks for what `SearchesNode`
lists. -/

namespace VolumeDriver.Controller

open ControlPlane

variable {P : Action → Prop} {ε α β : Type}

theorem only_request {x : Exchange} (h : P (.exchange x)) : Fallible.Only P (request x) :=
  Flow.only_perform (S := signature) h

theorem only_pollTimes {interval : Nat} {exhausted : ε} {look : Run ε (Option α)}
    (hlook : Fallible.Only P look) (hpause : ∀ milliseconds, P (.pause milliseconds))
    (retries : Nat) : Fallible.Only P (pollTimes interval exhausted look retries) := by
  induction retries with
  | zero => exact Fallible.only_throw _
  | succ retries ih =>
    refine hlook.bind fun found => ?_
    cases found with
    | some a => exact Fallible.only_pure a
    | none =>
      have honce : Fallible.Only P (liftM (pause interval) : Run ε Unit) :=
        ⟨hpause interval, fun _ => trivial⟩
      exact honce.bind fun _ => ih

theorem only_findOnPages {endless : Run ε (Option α)} {list : Option String → Run ε (Page α)}
    {select : α → Bool} (hendless : Fallible.Only P endless)
    (hlist : ∀ page, Fallible.Only P (list page)) (pages : Nat) (page : Option String) :
    Fallible.Only P (findOnPages endless list select pages page) :=
  findOnPages_closed (m := Run ε) (P := Fallible.Only P) Fallible.only_pure Fallible.Only.bind hendless
    hlist pages page

theorem only_foldPages {endless : Run ε β} {list : Option String → Run ε (Page α)}
    {step : β → List α → Run ε β} (hendless : Fallible.Only P endless)
    (hlist : ∀ page, Fallible.Only P (list page))
    (hstep : ∀ acc items, Fallible.Only P (step acc items)) (pages : Nat) (acc : β)
    (page : Option String) : Fallible.Only P (foldPages endless list step pages acc page) :=
  foldPages_closed (m := Run ε) (P := Fallible.Only P) Fallible.only_pure Fallible.Only.bind hendless
    hlist hstep pages acc page

theorem only_requestNode {x : Exchange} (h : P (.exchange x)) : Fallible.Only P (requestNode x) :=
  (only_request h).wrap _

theorem only_requestAttachment {x : Exchange} (h : P (.exchange x)) :
    Fallible.Only P (requestAttachment x) :=
  (only_request h).wrap _

/-! ## Attachments -/

section Attachments

variable {limits : Limits} {compartmentId id : String}

theorem only_findAttachment
    (hlist : ∀ page, P (.exchange (.listVolumeAttachments compartmentId id page))) :
    Fallible.Only P (findAttachment limits compartmentId id) := by
  refine (only_findOnPages (Fallible.only_throw _) (fun page => only_requestAttachment (hlist page))
    _ _).bind fun found => ?_
  cases found with
  | some a => exact Fallible.only_pure _
  | none => exact Fallible.only_throw _

theorem only_attach {instanceId : String} (hattach : P (.exchange (.attachVolume instanceId id)))
    (hlist : ∀ page, P (.exchange (.listVolumeAttachments compartmentId id page))) :
    Fallible.Only P (attach limits compartmentId instanceId id) := by
  refine (only_request hattach).outcome.bind fun answer => ?_
  cases answer with
  | ok attachment => exact Fallible.only_pure _
  | error fault =>
    dsimp only
    split
    · refine (only_findAttachment hlist).outcome.bind fun existing => ?_
      split
      · split
        · exact Fallible.only_pure _
        · exact Fallible.only_throw _
      · exact Fallible.only_throw _
      · exact Fallible.only_throw _
    · exact Fallible.only_throw _

variable (hlook : P (.exchange (.getVolumeAttachment id)))
  (hpause : ∀ milliseconds, P (.pause milliseconds))

include hlook hpause

theorem only_waitForAttached : Fallible.Only P (waitForAttached limits id) := by
  refine only_pollTimes ?_ hpause _
  refine (only_requestAttachment hlook).bind fun attachment => ?_
  split
  · exact Fallible.only_pure _
  · exact Fallible.only_pure _
  · exact Fallible.only_throw _

theorem only_waitForDetached : Fallible.Only P (waitForDetached limits id) := by
  refine only_pollTimes ?_ hpause _
  refine (only_requestAttachment hlook).bind fun attachment => ?_
  split
  · exact Fallible.only_pure _
  · exact Fallible.only_pure _
  · exact Fallible.only_throw _

end Attachments

/-! ## The search for a node -/

/-- The action is one of those that `resolveNode` asks for. -/
def SearchesNode : Action → Prop
  | .exchange (.listInstances ..) | .exchange (.getVcn _) | .exchange (.listSubnets ..)
  | .exchange (.listVnicAttachments ..) | .exchange (.getVnic _) | .exchange (.getInstance _)
  | .openCache _ | .saveCache .. => True
  | _ => False

/-- A `Learning` flow asks for nothing but what a search for a node does, whatever it knows already. -/
def LearnsSearching (m : Learning α) : Prop :=
  ∀ known, Flow.Only SearchesNode (m.run.run known)

theorem learnsSearching_pure (a : α) : LearnsSearching (pure a : Learning α) :=
  fun _ => trivial

theorem LearnsSearching.bind {m : Learning α} {f : α → Learning β} (hm : LearnsSearching m)
    (hf : ∀ a, LearnsSearching (f a)) : LearnsSearching (m >>= f) := by
  intro known
  refine Flow.Only.bind (m := m.run.run known) (hm known) ?_
  rintro ⟨fault | a, known'⟩
  · trivial
  · exact hf a known'

theorem learnsSearching_nothing {m : Run ResolveFault α} (hm : Fallible.Only SearchesNode m) :
    LearnsSearching (learningNothing m) :=
  fun _ => Flow.Only.bind (m := m.run) hm fun _ => trivial

theorem learnsSearching_knownVnic (id : String) : LearnsSearching (knownVnic id) := by
  have hget : LearnsSearching (get : Learning VnicCache) := fun _ => trivial
  refine hget.bind fun known => ?_
  split
  · exact learnsSearching_pure _
  · refine (learnsSearching_nothing (only_requestNode (x := .getVnic id) trivial)).bind fun vnic => ?_
    have hmodify : LearnsSearching (modify (·.insert id vnic) : Learning Unit) := fun _ => trivial
    exact hmodify.bind fun _ => learnsSearching_pure _

theorem learnsSearching_searchAttachment (subnets : List String) (node : String) (search : Search)
    (attachment : VnicAttachment) :
    LearnsSearching (searchAttachment subnets node search attachment) := by
  rw [searchAttachment]
  split
  · exact learnsSearching_pure _
  · split
    · refine (learnsSearching_knownVnic _).bind fun vnic => ?_
      split
      · exact learnsSearching_pure _
      · refine (learnsSearching_nothing (only_requestNode (x := .getInstance _) trivial)).bind
          fun machine => ?_
        split <;> exact learnsSearching_pure _
    · exact learnsSearching_pure _

theorem learnsSearching_searchVnics (limits : Limits) (scope : SearchScope) (subnets : List String)
    (node : String) : LearnsSearching (searchVnics limits scope subnets node) := by
  refine LearnsSearching.bind ?_ fun search => learnsSearching_pure _
  refine foldPages_closed (P := LearnsSearching) learnsSearching_pure LearnsSearching.bind
    (learnsSearching_nothing (Fallible.only_throw _))
    (fun page => learnsSearching_nothing (only_requestNode (x := .listVnicAttachments _ page) trivial))
    ?_ _ _ _
  exact fun search items => foldlM_closed (P := LearnsSearching) learnsSearching_pure
    LearnsSearching.bind (learnsSearching_searchAttachment subnets node) items search

theorem only_runningByVnic (limits : Limits) (scope : SearchScope) (node : String) :
    Fallible.Only SearchesNode (runningByVnic limits scope node) := by
  refine (only_requestNode (x := .getVcn _) trivial).bind fun vcn => ?_
  refine (only_foldPages (Fallible.only_throw _)
    (fun page => only_requestNode (x := .listSubnets _ _ page) trivial)
    (fun _ _ => Fallible.only_pure _) _ _ _).bind fun subnets => ?_
  split
  · trivial
  · have hopen : Fallible.Only SearchesNode
        (.ofFlow (Flow.perform (S := signature) (.openCache scope.cachePath))) :=
      Flow.only_perform (S := signature) trivial
    refine (hopen.wrap _).bind fun content => ?_
    refine Flow.Only.bind (learnsSearching_searchVnics limits scope subnets node (.ofContent content)) ?_
    rintro ⟨found, known⟩
    exact ⟨trivial, fun _ => trivial⟩

/-- **A search for a node asks for nothing but what nodes are told by**: instances, the cluster's network,
    and the interfaces in it, with the file in which they are remembered. -/
theorem only_resolveNode (limits : Limits) (scope : SearchScope) (node : String) :
    Fallible.Only SearchesNode (resolveNode limits scope node) := by
  refine (only_foldPages (Fallible.only_throw _)
    (fun page => only_requestNode (x := .listInstances _ _ page) trivial)
    (fun _ _ => Fallible.only_pure _) _ _ _).bind fun found => ?_
  split
  · exact Fallible.only_pure _
  · refine (only_runningByVnic limits scope node).bind fun found => ?_
    split
    · exact Fallible.only_pure _
    · exact Fallible.only_throw _

end VolumeDriver.Controller
