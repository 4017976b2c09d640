import VolumeDriver.Controller.Patience
import VolumeDriver.Controller.VnicCache
set_option autoImplicit false

/-! # Which instance a node is

The orchestrator knows nodes by name, and `resolveNode` finds the instance. A node is the running instance
of that display name, if there is exactly one. Otherwise it is the running instance with a network interface
in the cluster's network that identifies the node (`Vnic.identifies`), if there is exactly one; interfaces
looked at are remembered in the cache. -/

namespace VolumeDriver

/-- Why a node is not known to be an instance. -/
inductive ResolveFault
  | controlPlane (fault : ControlPlane.Fault)
  /-- the file of the cache is out of reach -/
  | cache (path message : String)
  | noSubnets (vcnId : String)
  /-- `found` counts the running instances that the search for interfaces found -/
  | unresolved (node : String) (found : Nat)
  deriving DecidableEq, Repr

/-- What is said of a cache whose file is out of reach. -/
def VnicCache.openFault (path message : String) : String :=
  "failed to open cache " ++ path ++ ": " ++ message

/-- The `ResolveFault` in words. -/
def ResolveFault.message : ResolveFault → String
  | controlPlane fault => fault.message
  | cache path message => VnicCache.openFault path message
  | noSubnets vcnId => "no subnets defined for VCN " ++ vcnId
  | unresolved node found =>
    "expected exactly one instance matching node name '" ++ node ++ "' but found " ++ toString found

/-- Where a node is searched for. -/
structure SearchScope where
  compartmentId : String
  vcnId : String
  cachePath : String
  deriving DecidableEq, Repr

/-- The `SearchScope` of the session's nodes. -/
def Session.scope (s : Session) : SearchScope :=
  ⟨s.compartmentId, s.vcnId, s.cachePath⟩

namespace Controller

/-- A `request` about nodes. -/
def requestNode (e : ControlPlane.Exchange) : Run ResolveFault e.Answer :=
  (request e).wrap .controlPlane

/-- What stands for the rest of a listing that does not end. -/
def endlessNodes {α : Type} (limits : Limits) (operation : String) : Run ResolveFault α :=
  throw (.controlPlane (.endless operation limits.pages))

/-! ## By display name -/

/-- The running instances with a display name. -/
def runningByName (limits : Limits) (scope : SearchScope) (node : String) :
    Run ResolveFault (List Instance) :=
  foldPages (endlessNodes limits "ListInstances")
    (fun page => requestNode (.listInstances scope.compartmentId (some node) page))
    (fun found items => return found ++ items.filter fun i =>
      i.displayName = node && i.state = .running)
    limits.pages [] none

/-! ## By network interface -/

/-- The identifiers of the subnets of the cluster's network. -/
def subnetIds (limits : Limits) (scope : SearchScope) (vcnCompartmentId : String) :
    Run ResolveFault (List String) :=
  foldPages (endlessNodes limits "ListSubnets")
    (fun page => requestNode (.listSubnets vcnCompartmentId scope.vcnId page))
    (fun ids items => return ids ++ items.map Subnet.id) limits.pages [] none

/-- A flow that may fail and that learns about interfaces; what it has learnt outlasts its failure. -/
abbrev Learning (α : Type) : Type :=
  ExceptT ResolveFault (StateT VnicCache (Flow signature)) α

/-- A flow that learns nothing. -/
def learningNothing {α : Type} (m : Run ResolveFault α) : Learning α :=
  ExceptT.mk (StateT.lift m.run)

/-- An interface, from the cache if it is known. -/
def knownVnic (id : String) : Learning Vnic := do
  match (← get).get? id with
  | some vnic => return vnic
  | none =>
    let vnic : Vnic ← learningNothing (requestNode (.getVnic id))
    modify (·.insert id vnic)
    return vnic

/-- What a search for interfaces has come across so far. -/
structure Search where
  /-- the instances that have an interface that identifies the node -/
  seen : List String := []
  /-- those of them that are running -/
  running : List Instance := []

/-- Goes on with one more attachment of an interface. -/
def searchAttachment (subnets : List String) (node : String) (search : Search)
    (attachment : VnicAttachment) : Learning Search := do
  if attachment.state ≠ .attached ∨ attachment.subnetId ∉ subnets then return search
  let some vnicId := attachment.vnicId | return search
  let vnic ← knownVnic vnicId
  if !vnic.identifies node || search.seen.contains attachment.instanceId then return search
  let machine : Instance ←
    learningNothing (requestNode (.getInstance attachment.instanceId))
  let seen := search.seen ++ [attachment.instanceId]
  if machine.state = .running then return { seen, running := search.running ++ [machine] }
  else return { search with seen }

/-- The running instances with an interface in one of the subnets that identifies the node. -/
def searchVnics (limits : Limits) (scope : SearchScope) (subnets : List String) (node : String) :
    Learning (List Instance) := do
  let search ← foldPages (learningNothing (endlessNodes limits "ListVnicAttachments"))
    (fun page => learningNothing (requestNode (.listVnicAttachments scope.compartmentId page)))
    (fun search items => items.foldlM (searchAttachment subnets node) search)
    limits.pages {} none
  return search.running

/-- The running instances with an interface in the cluster's network that identifies the node. What
    was learnt is kept even if the search fails; that it cannot be kept is no reason to fail. -/
def runningByVnic (limits : Limits) (scope : SearchScope) (node : String) :
    Run ResolveFault (List Instance) := do
  let vcn : Vcn ← requestNode (.getVcn scope.vcnId)
  let subnets ← subnetIds limits scope vcn.compartmentId
  if subnets.isEmpty then throw (.noSubnets scope.vcnId)
  let content ← Fallible.wrap (.cache scope.cachePath)
    (.ofFlow (Flow.perform (S := signature) (.openCache scope.cachePath)))
  ExceptT.mk do
    let (found, cache) ← (searchVnics limits scope subnets node).run (.ofContent content)
    let _ ← Flow.perform (S := signature) (.saveCache scope.cachePath cache.toContent)
    return found

/-- The instance that a node is. -/
def resolveNode (limits : Limits) (scope : SearchScope) (node : String) :
    Run ResolveFault Instance := do
  match ← runningByName limits scope node with
  | [found] => return found
  | _ =>
    match ← runningByVnic limits scope node with
    | [found] => return found
    | others => throw (.unresolved node others.length)

end Controller

end VolumeDriver
