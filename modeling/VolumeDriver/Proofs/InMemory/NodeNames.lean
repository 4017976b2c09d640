import VolumeDriver.Proofs.InMemory.Asked
import VolumeDriver.Proofs.InMemory.Attachments
import VolumeDriver.Proofs.InMemory.Listing
import VolumeDriver.Proofs.InMemory.Resolution
import VolumeDriver.Proofs.Text.Cut
set_option autoImplicit false

/-! # Which instance a node is, told by what there is

The search for a node reads listings page by page, keeps a list of the instances that it has seen and a
cache of interfaces. What comes of it can be told without any of these (`Cloud.nodeIs`): it is up to the
running instances that have the node's name (`Cloud.Named`), and to those that have an interface which
belongs to the node (`Cloud.Identified`). One of them is given out if it is the only one, and none is if
there are more. -/

namespace VolumeDriver.InMemory

open ControlPlane Controller

/-! ## Things with a property -/

section Counting

variable {α : Type} {P : α → Prop} {l : List α} {a : α}

/-- One thing has the property `P` and nothing else has. -/
def Sole (P : α → Prop) (a : α) : Prop :=
  ∀ b, P b ↔ b = a

/-- As many things as `n` have the property `P`. -/
def Number (P : α → Prop) (n : Nat) : Prop :=
  ∃ l : List α, l.Nodup ∧ (∀ a, a ∈ l ↔ P a) ∧ l.length = n

theorem eq_singleton_of_sole (hl : l.Nodup) (h : ∀ a, a ∈ l ↔ P a) (hsole : Sole P a) : l = [a] := by
  have hsame : ∀ b, b ∈ l ↔ b ∈ [a] := by
    intro b
    rw [h, hsole, List.mem_singleton]
  exact List.perm_singleton.1 ((List.perm_ext_iff_of_nodup hl (List.pairwise_singleton _ _)).2 hsame)

theorem sole_of_eq_singleton (h : ∀ a, a ∈ l ↔ P a) (hl : l = [a]) : Sole P a := by
  intro b
  rw [← h b, hl, List.mem_singleton]

end Counting

/-! ## What there is -/

/-- An interface belongs to the node of that name: its public address is the name, or its host name's label
    is not empty and the name begins with it. -/
def BelongsTo (v : Vnic) (node : String) : Prop :=
  v.publicIp = some node ∨
    ∃ label, v.hostnameLabel = some label ∧ label ≠ "" ∧ label.toList <+: node.toList

theorem identifies_iff {v : Vnic} {node : String} : v.identifies node ↔ BelongsTo v node := by
  rw [Vnic.identifies, BelongsTo, Bool.or_eq_true, decide_eq_true_iff]
  refine or_congr_right ?_
  cases v.hostnameLabel with
  | none => simp
  | some label => simp [Cut.startsWith, Cut.isSome_dropPrefix?]

namespace Cloud

/-- A running instance has the name of the node as its display name. -/
def Named (c : Cloud) (node : String) (i : Instance) : Prop :=
  i ∈ c.instances ∧ i.state = .running ∧ i.displayName = node

/-- An interface of an instance that `BelongsTo` the node is attached in one of the subnets of a network. -/
def Reaches (c : Cloud) (vcnId node instanceId : String) : Prop :=
  ∃ a ∈ c.vnicAttachments, a.instanceId = instanceId ∧ a.state = .attached ∧
    (∃ s ∈ c.subnets, s.vcnId = vcnId ∧ s.id = a.subnetId) ∧
    ∃ id v, a.vnicId = some id ∧ c.vnics.get? id = some v ∧ BelongsTo v node

/-- A running instance has an interface in a network that belongs to the node (`Reaches`). -/
def Identified (c : Cloud) (vcnId node : String) (i : Instance) : Prop :=
  i ∈ c.instances ∧ i.state = .running ∧ c.Reaches vcnId node i.id

end Cloud

/-- A node can be searched for: nothing is made to fail, the listings can be read to their ends, identifiers
    lead to what they are of, and the cache can be opened and says what the control plane says. -/
structure Searchable (w : World) (limits : Limits) (scope : SearchScope) : Prop where
  calm : w.Calm
  ids : (w.cloud.instances.map Instance.id).Nodup
  machine : ∀ a ∈ w.cloud.vnicAttachments, ∃ i ∈ w.cloud.instances, i.id = a.instanceId
  vnic : ∀ a ∈ w.cloud.vnicAttachments, ∀ id, a.vnicId = some id → ∃ v, w.cloud.vnics.get? id = some v
  vcn : ∃ v ∈ w.cloud.vcns, v.id = scope.vcnId
  cachePath : scope.cachePath = w.cachePath
  cache : ∃ content, (openCacheIn w.files w.cachePath).1 = .ok content ∧
    ∀ id v, (VnicCache.ofContent content).get? id = some v → w.cloud.vnics.get? id = some v
  size : w.cloud.pageSize ≠ some 0
  long : w.cloud.instances.length < UInt64.size ∧ w.cloud.subnets.length < UInt64.size ∧
    w.cloud.vnicAttachments.length < UInt64.size
  pages : w.cloud.instances.length < limits.pages ∧ w.cloud.subnets.length < limits.pages ∧
    w.cloud.vnicAttachments.length < limits.pages

/-! ## The search alone -/

namespace Cloud

variable (c : Cloud) (subnets : List String) (node : String)

/-- Whether an attachment is of an interface in one of the subnets that identifies the node. -/
def shows (a : VnicAttachment) : Bool :=
  a.state = .attached && subnets.contains a.subnetId &&
    (a.vnicId.bind c.vnics.get?).any (·.identifies node)

/-- The instance with an identifier, if it is running. -/
def runningWith (id : String) : List Instance :=
  (c.instances.find? fun i => i.id = id).toList.filter fun i => i.state = .running

/-- What the search comes to with one more attachment. -/
def searchNext (search : Search) (a : VnicAttachment) : Search :=
  if c.shows subnets node a && !search.seen.contains a.instanceId then
    { seen := search.seen ++ [a.instanceId], running := search.running ++ c.runningWith a.instanceId }
  else search

/-- What the search has come to after some attachments. -/
structure Searched (l : List VnicAttachment) (search : Search) : Prop where
  once : search.seen.Nodup
  seen : ∀ id, id ∈ search.seen ↔ ∃ a ∈ l, a.instanceId = id ∧ c.shows subnets node a
  running : search.running = search.seen.flatMap c.runningWith

variable {c subnets node} {l : List VnicAttachment} {search : Search}

theorem Searched.next (h : c.Searched subnets node l search) (a : VnicAttachment) :
    c.Searched subnets node (l ++ [a]) (c.searchNext subnets node search a) := by
  have hmore : ∀ id, (∃ b ∈ l ++ [a], b.instanceId = id ∧ c.shows subnets node b) ↔
      id ∈ search.seen ∨ a.instanceId = id ∧ c.shows subnets node a := by
    intro id
    simp only [List.mem_append, List.mem_singleton, or_and_right, exists_or, exists_eq_left, h.seen]
  rw [searchNext]
  split
  · rename_i hnew
    simp only [Bool.and_eq_true, Bool.not_eq_true', List.contains_eq_mem,
      decide_eq_false_iff_not] at hnew
    obtain ⟨hshows, hfresh⟩ := hnew
    refine ⟨?_, fun id => ?_, ?_⟩
    · rw [List.nodup_append]
      refine ⟨h.once, List.pairwise_singleton _ _, fun x hx y hy hxy => ?_⟩
      exact hfresh (List.mem_singleton.1 hy ▸ hxy ▸ hx)
    · rw [hmore, List.mem_append, List.mem_singleton]
      exact or_congr_right ⟨fun hid => ⟨hid.symm, hshows⟩, fun hid => hid.1.symm⟩
    · rw [List.flatMap_append, h.running, List.flatMap_singleton]
  · rename_i hold
    refine ⟨h.once, fun id => ?_, h.running⟩
    rw [hmore]
    refine ⟨.inl, fun hid => hid.elim (fun h => h) ?_⟩
    rintro ⟨rfl, hshows⟩
    simpa [hshows] using hold

/-- What `searchNext` comes to with a whole listing. -/
theorem searched_foldl (l : List VnicAttachment) :
    c.Searched subnets node l (l.foldl (c.searchNext subnets node) {}) := by
  have hfrom : ∀ (rest before : List VnicAttachment) (search : Search),
      c.Searched subnets node before search →
        c.Searched subnets node (before ++ rest) (rest.foldl (c.searchNext subnets node) search) := by
    intro rest
    induction rest with
    | nil =>
      intro before search h
      rwa [List.append_nil]
    | cons a rest ih =>
      intro before search h
      rw [List.append_cons]
      exact ih _ _ (h.next a)
  exact hfrom l [] {} ⟨List.nodup_nil, by simp, rfl⟩

theorem runningWith_of_find? {id : String} {i : Instance}
    (h : c.instances.find? (fun i => i.id = id) = some i) :
    c.runningWith id = if i.state = .running then [i] else [] := by
  rw [runningWith, h]
  by_cases hrunning : i.state = .running <;> simp [hrunning]

theorem mem_runningWith (hids : (c.instances.map Instance.id).Nodup) {id : String} {i : Instance} :
    i ∈ c.runningWith id ↔ i ∈ c.instances ∧ i.state = .running ∧ i.id = id := by
  rw [runningWith, List.mem_filter, Option.mem_toList, decide_eq_true_iff]
  constructor
  · rintro ⟨hfind, hrunning⟩
    have hid := List.find?_some hfind
    exact ⟨List.mem_of_find?_eq_some hfind, hrunning, of_decide_eq_true hid⟩
  · rintro ⟨hi, hrunning, rfl⟩
    exact ⟨find?_of_id hids hi, hrunning⟩

/-- Each instance that was seen is found once by `runningWith`, if at all. -/
theorem nodup_running {seen : List String} (h : seen.Nodup) : (seen.flatMap c.runningWith).Nodup := by
  have hsub : ((seen.flatMap c.runningWith).map Instance.id).Sublist seen := by
    induction seen with
    | nil => exact .refl _
    | cons id seen ih =>
      rw [List.flatMap_cons, List.map_append]
      have hone : ((c.runningWith id).map Instance.id).Sublist [id] := by
        cases hfind : c.instances.find? fun i => i.id = id with
        | none =>
          rw [runningWith, hfind]
          exact List.nil_sublist _
        | some i =>
          have hid := List.find?_some hfind
          obtain rfl := of_decide_eq_true hid
          rw [runningWith_of_find? hfind]
          split
          · exact .refl _
          · exact List.nil_sublist _
      exact hone.append (ih (List.nodup_cons.1 h).2)
  exact List.Pairwise.of_map _ (fun a b hab heq => hab (congrArg _ heq)) (h.sublist hsub)

/-- The attachments that `shows` picks say that an interface of the instance belongs to the node. -/
theorem shows_iff {vcnId : String} {a : VnicAttachment} :
    c.shows ((c.subnets.filter fun s => s.vcnId = vcnId).map Subnet.id) node a ↔
      a.state = .attached ∧ (∃ s ∈ c.subnets, s.vcnId = vcnId ∧ s.id = a.subnetId) ∧
        ∃ id v, a.vnicId = some id ∧ c.vnics.get? id = some v ∧ BelongsTo v node := by
  rw [shows, Bool.and_eq_true, Bool.and_eq_true, decide_eq_true_iff, and_assoc]
  refine and_congr_right fun _ => and_congr ?_ ?_
  · simp [List.contains_eq_mem, and_assoc]
  · rw [Option.any_eq_true]
    simp only [Option.bind_eq_some_iff, identifies_iff]
    constructor
    · rintro ⟨v, ⟨id, hid, hv⟩, hbelongs⟩
      exact ⟨id, v, hid, hv, hbelongs⟩
    · rintro ⟨id, v, hid, hv, hbelongs⟩
      exact ⟨v, ⟨id, hid, hv⟩, hbelongs⟩

/-- The search finds the running instances that are `Cloud.Identified`. -/
theorem Searched.mem_running {vcnId : String} (hids : (c.instances.map Instance.id).Nodup)
    (h : c.Searched ((c.subnets.filter fun s => s.vcnId = vcnId).map Subnet.id) node
      c.vnicAttachments search) (i : Instance) :
    i ∈ search.running ↔ c.Identified vcnId node i := by
  rw [h.running, List.mem_flatMap]
  simp only [mem_runningWith hids, h.seen, shows_iff]
  constructor
  · rintro ⟨id, hreaches, hi, hrunning, rfl⟩
    exact ⟨hi, hrunning, hreaches⟩
  · rintro ⟨hi, hrunning, hreaches⟩
    exact ⟨i.id, hreaches, hi, hrunning, rfl⟩

end Cloud

/-! ## Where the search leads -/

section Leads

variable {p : Picture} {limits : Limits} {scope : SearchScope} {node : String} {subnets : List String}

section Listings

variable (hsize : p.cloud.pageSize ≠ some 0)

include hsize

theorem leads_runningByName (hlong : p.cloud.instances.length < UInt64.size)
    (hpages : p.cloud.instances.length < limits.pages) :
    ControllerLeads p (runningByName limits scope node)
      (.ok (p.cloud.instances.filter fun i => i.displayName = node && i.state = .running)) p
      (· = p) := by
  let items := p.cloud.instances.filter fun i => i.displayName = node
  have hshort : items.length ≤ p.cloud.instances.length := List.length_filter_le _ _
  have hlist : ∀ page, ControllerLeads p
      (requestNode (.listInstances scope.compartmentId (some node) page))
      (.ok (p.cloud.paginate items page)) p (· = p) :=
    fun page => (leads_request (E := (· = p)) (.listInstances _ (some node) page) rfl).wrap _
  have hread := leads_foldPages (L := fun m a => ControllerLeads p m (.ok a) p (· = p)) leads_pure
    Leads.bind (endlessNodes limits "ListInstances")
    (fun found part => found ++ part.filter fun i => i.displayName = node && i.state = .running)
    hlist hsize (Nat.lt_of_le_of_lt hshort hlong) (fun _ _ _ => leads_pure _) (by simp) [] none
    (Nat.lt_of_le_of_lt hshort hpages)
  have hsame : [] ++ (items.drop (Cloud.offset none)).filter
      (fun i => i.displayName = node && i.state = .running) =
        p.cloud.instances.filter fun i => i.displayName = node && i.state = .running := by
    rw [List.nil_append, Cloud.offset, List.drop_zero, List.filter_filter]
    congr 1
    funext i
    cases decide (i.displayName = node) <;> simp
  rw [← hsame]
  exact hread

theorem leads_subnetIds (compartmentId : String) (hlong : p.cloud.subnets.length < UInt64.size)
    (hpages : p.cloud.subnets.length < limits.pages) :
    ControllerLeads p (subnetIds limits scope compartmentId)
      (.ok ((p.cloud.subnets.filter fun s => s.vcnId = scope.vcnId).map Subnet.id)) p (· = p) := by
  let items := p.cloud.subnets.filter fun s => s.vcnId = scope.vcnId
  have hshort : items.length ≤ p.cloud.subnets.length := List.length_filter_le _ _
  have hlist : ∀ page, ControllerLeads p (requestNode (.listSubnets compartmentId scope.vcnId page))
      (.ok (p.cloud.paginate items page)) p (· = p) :=
    fun page => (leads_request (E := (· = p)) (.listSubnets _ _ page) rfl).wrap _
  exact leads_foldPages (L := fun m a => ControllerLeads p m (.ok a) p (· = p)) leads_pure
    Leads.bind (endlessNodes limits "ListSubnets") (fun ids part => ids ++ part.map Subnet.id)
    hlist hsize (Nat.lt_of_le_of_lt hshort hlong) (fun _ _ _ => leads_pure _) (by simp) [] none
    (Nat.lt_of_le_of_lt hshort hpages)

end Listings

theorem leads_getInstance {id : String} {machine : Instance}
    (h : p.cloud.instances.find? (fun i => i.id = id) = some machine) :
    ControllerLeads p (requestNode (.getInstance id)) (.ok machine) p (· = p) := by
  have hrespond : p.cloud.respond (.getInstance id) = (.ok machine, p.cloud) :=
    congrArg (fun found => (Cloud.fetch "GetInstance" id found, p.cloud)) h
  exact (leads_answered (E := (· = p)) hrespond rfl).wrap _

/-- An attachment is searched as `searchNext` says, as it would be without a cache. -/
theorem leads_searchAttachment {a : VnicAttachment} {machine : Instance}
    (hmachine : p.cloud.instances.find? (fun i => i.id = a.instanceId) = some machine)
    (hvnic : ∀ id, a.vnicId = some id → ∃ v, p.cloud.vnics.get? id = some v) (search : Search) :
    LearningLeads p p.cloud.vnics.get? (searchAttachment subnets node search a)
      (.ok (p.cloud.searchNext subnets node search a)) := by
  have hpassed : p.cloud.shows subnets node a = false →
      LearningLeads p p.cloud.vnics.get? (pure search)
        (.ok (p.cloud.searchNext subnets node search a)) := by
    intro hshows
    rw [Cloud.searchNext, hshows]
    exact learningLeads_pure search
  rw [searchAttachment]
  split
  · rename_i hskip
    refine hpassed ?_
    rcases hskip with hskip | hskip <;> simp [Cloud.shows, hskip, List.contains_eq_mem]
  · rename_i hkeep
    rw [not_or, Decidable.not_not, Decidable.not_not] at hkeep
    split
    · rename_i vnicId hid
      obtain ⟨v, hv⟩ := hvnic vnicId hid
      have hshows : p.cloud.shows subnets node a = v.identifies node := by
        simp [Cloud.shows, hkeep.1, hkeep.2, hid, hv, List.contains_eq_mem]
      have hknown : LearningLeads p p.cloud.vnics.get? (knownVnic vnicId)
          ((Cloud.fetch "GetVnic" vnicId (p.cloud.vnics.get? vnicId)).mapError .controlPlane) :=
        learningLeads_knownVnic vnicId
      rw [hv] at hknown
      refine LearningLeads.bind hknown ?_
      -- The flow goes on just where the search takes the instance in.
      rw [Cloud.searchNext, hshows]
      split
      · rename_i hold
        simp only [Bool.or_eq_true, Bool.not_eq_true', List.contains_eq_mem,
          decide_eq_true_eq] at hold
        rw [if_neg (by rcases hold with hold | hold <;> simp [hold])]
        exact learningLeads_pure search
      · rename_i hnew
        rw [if_pos (by simpa using hnew)]
        refine LearningLeads.bind (learningLeads_nothing (leads_getInstance hmachine)) ?_
        rw [Cloud.runningWith_of_find? hmachine]
        split
        · exact learningLeads_pure _
        · rw [List.append_nil]
          exact learningLeads_pure _
    · rename_i hnone
      refine hpassed ?_
      cases hid : a.vnicId with
      | none => simp [Cloud.shows, hid]
      | some id => exact absurd hid (hnone id)

theorem leads_searchVnics (hsize : p.cloud.pageSize ≠ some 0)
    (hlong : p.cloud.vnicAttachments.length < UInt64.size)
    (hpages : p.cloud.vnicAttachments.length < limits.pages)
    (hmachine : ∀ a ∈ p.cloud.vnicAttachments, ∃ machine,
      p.cloud.instances.find? (fun i => i.id = a.instanceId) = some machine)
    (hvnic : ∀ a ∈ p.cloud.vnicAttachments, ∀ id, a.vnicId = some id →
      ∃ v, p.cloud.vnics.get? id = some v) :
    LearningLeads p p.cloud.vnics.get? (searchVnics limits scope subnets node)
      (.ok (p.cloud.vnicAttachments.foldl (p.cloud.searchNext subnets node) {}).running) := by
  have hlist : ∀ page, LearningLeads p p.cloud.vnics.get?
      (learningNothing (requestNode (.listVnicAttachments scope.compartmentId page)))
      (.ok (p.cloud.paginate p.cloud.vnicAttachments page)) :=
    fun page => learningLeads_nothing
      ((leads_request (E := (· = p)) (.listVnicAttachments _ page) rfl).wrap _)
  have hstep : ∀ (search : Search) (part : List VnicAttachment),
      (∀ a ∈ part, a ∈ p.cloud.vnicAttachments) →
      LearningLeads p p.cloud.vnics.get? (part.foldlM (searchAttachment subnets node) search)
        (.ok (part.foldl (p.cloud.searchNext subnets node) search)) := by
    intro search part hpart
    refine leads_foldlM (L := fun m a => LearningLeads p p.cloud.vnics.get? m (.ok a))
      learningLeads_pure LearningLeads.bind (fun search a ha => ?_) search
    obtain ⟨machine, hmachine⟩ := hmachine a (hpart a ha)
    exact leads_searchAttachment hmachine (hvnic a (hpart a ha)) search
  have hread := leads_foldPages (L := fun m a => LearningLeads p p.cloud.vnics.get? m (.ok a))
    learningLeads_pure LearningLeads.bind
    (learningNothing (endlessNodes limits "ListVnicAttachments"))
    (fun search part => part.foldl (p.cloud.searchNext subnets node) search) hlist hsize hlong hstep
    (by simp) {} none hpages
  exact LearningLeads.bind hread (learningLeads_pure _)

end Leads

/-! ## The answer -/

/-- What is made of the running instances that were found. -/
def soleOf (node : String) : List Instance → Except ResolveFault Instance
  | [found] => .ok found
  | others => .error (.unresolved node others.length)

section Answer

variable {w : World} {limits : Limits} {scope : SearchScope} {node : String}

/-- The cache and the control plane together know of interfaces what the control plane knows
    (`vnicsKnown`). -/
theorem Searchable.vnicsKnown (h : Searchable w limits scope) :
    w.picture.vnicsKnown = .ok w.cloud.vnics.get? :=
  World.vnicsKnown_iff.2 h.cache

/-- The running instances that the search finds by their interfaces. -/
def Cloud.foundByVnic (c : Cloud) (vcnId node : String) : List Instance :=
  (c.vnicAttachments.foldl
    (c.searchNext ((c.subnets.filter fun s => s.vcnId = vcnId).map Subnet.id) node) {}).running

theorem nodup_foundByVnic {c : Cloud} {vcnId : String} : (c.foundByVnic vcnId node).Nodup := by
  have hsearched : c.Searched ((c.subnets.filter fun s => s.vcnId = vcnId).map Subnet.id) node
      c.vnicAttachments _ := Cloud.searched_foldl c.vnicAttachments
  rw [Cloud.foundByVnic, hsearched.running]
  exact Cloud.nodup_running hsearched.once

theorem mem_foundByVnic {c : Cloud} {vcnId : String} (hids : (c.instances.map Instance.id).Nodup)
    (i : Instance) : i ∈ c.foundByVnic vcnId node ↔ c.Identified vcnId node i :=
  (Cloud.searched_foldl c.vnicAttachments).mem_running hids i

variable (limits scope node) in
theorem runningByVnic_eq : runningByVnic limits scope node =
    requestNode (.getVcn scope.vcnId) >>= fun vcn : Vcn =>
      subnetIds limits scope vcn.compartmentId >>= fun subnets =>
        if subnets.isEmpty then throw (.noSubnets scope.vcnId)
        else withCache scope.cachePath (searchVnics limits scope subnets node) := by
  refine congrArg (requestNode (.getVcn scope.vcnId) >>= ·) (funext fun vcn => ?_)
  refine congrArg (subnetIds limits scope (Vcn.compartmentId vcn) >>= ·) (funext fun subnets => ?_)
  split <;> rfl

theorem leads_runningByVnic (h : Searchable w limits scope) :
    ControllerLeads w.picture (runningByVnic limits scope node)
      (if ∃ s ∈ w.cloud.subnets, s.vcnId = scope.vcnId then
        .ok (w.cloud.foundByVnic scope.vcnId node)
      else .error (.noSubnets scope.vcnId)) w.picture (· = w.picture) := by
  obtain ⟨vcn, hvcn⟩ : ∃ vcn, (w.cloud.vcns.find? fun v => v.id = scope.vcnId) = some vcn := by
    obtain ⟨v, hv, hid⟩ := h.vcn
    exact Option.isSome_iff_exists.1 (List.find?_isSome.2 ⟨v, hv, decide_eq_true hid⟩)
  have hask : ControllerLeads w.picture (requestNode (.getVcn scope.vcnId)) (.ok vcn) w.picture
      (· = w.picture) := by
    have hrespond : w.picture.cloud.respond (.getVcn scope.vcnId) = (.ok vcn, w.picture.cloud) :=
      congrArg (fun found => (Cloud.fetch "GetVcn" scope.vcnId found, w.picture.cloud)) hvcn
    exact (leads_answered (E := (· = w.picture)) hrespond rfl).wrap _
  have hsubnets : ControllerLeads w.picture (subnetIds limits scope vcn.compartmentId)
      (.ok ((w.cloud.subnets.filter fun s => s.vcnId = scope.vcnId).map Subnet.id)) w.picture
      (· = w.picture) :=
    leads_subnetIds h.size vcn.compartmentId h.long.2.1 h.pages.2.1
  have hmachine : ∀ a ∈ w.cloud.vnicAttachments, ∃ machine,
      w.cloud.instances.find? (fun i => i.id = a.instanceId) = some machine := by
    intro a ha
    obtain ⟨i, hi, hid⟩ := h.machine a ha
    exact Option.isSome_iff_exists.1 (List.find?_isSome.2 ⟨i, hi, decide_eq_true hid⟩)
  rw [runningByVnic_eq]
  refine hask.bind (hsubnets.bind ?_)
  have hempty : ((w.cloud.subnets.filter fun s => s.vcnId = scope.vcnId).map Subnet.id).isEmpty ↔
      ¬∃ s ∈ w.cloud.subnets, s.vcnId = scope.vcnId := by
    simp [List.isEmpty_iff, List.filter_eq_nil_iff]
  by_cases hsome : ∃ s ∈ w.cloud.subnets, s.vcnId = scope.vcnId
  · rw [if_pos hsome, if_neg fun hbare => hempty.1 hbare hsome, h.cachePath]
    exact leads_withCache h.vnicsKnown
      (leads_searchVnics (p := w.picture) h.size h.long.2.2 h.pages.2.2 hmachine h.vnic)
  · rw [if_neg hsome, if_pos (hempty.2 hsome)]
    exact leads_throw _

/-- The running instances that the search finds by their display names. -/
def Cloud.foundByName (c : Cloud) (node : String) : List Instance :=
  c.instances.filter fun i => i.displayName = node && i.state = .running

theorem nodup_foundByName {c : Cloud} (hids : (c.instances.map Instance.id).Nodup) :
    (c.foundByName node).Nodup :=
  (List.Pairwise.of_map _ (fun _ _ hne heq => hne (congrArg _ heq)) hids).filter _

theorem mem_foundByName {c : Cloud} (i : Instance) : i ∈ c.foundByName node ↔ c.Named node i := by
  simp [Cloud.foundByName, Cloud.Named, and_comm]

/-- What the node is said to be. -/
def Cloud.nodeIs (c : Cloud) (vcnId node : String) : Except ResolveFault Instance :=
  if (c.foundByName node).length = 1 then soleOf node (c.foundByName node)
  else if ∃ s ∈ c.subnets, s.vcnId = vcnId then soleOf node (c.foundByVnic vcnId node)
  else .error (.noSubnets vcnId)

variable (node) in
theorem leads_resolveNode (h : Searchable w limits scope) :
    ControllerLeads w.picture (resolveNode limits scope node) (w.cloud.nodeIs scope.vcnId node)
      w.picture (· = w.picture) := by
  have hnamed : ControllerLeads w.picture (runningByName limits scope node)
      (.ok (w.cloud.foundByName node)) w.picture (· = w.picture) :=
    leads_runningByName h.size h.long.1 h.pages.1
  have hsole : ∀ found : List Instance, ControllerLeads w.picture
      (match found with
        | [i] => pure i
        | others => throw (.unresolved node others.length))
      (soleOf node found) w.picture (· = w.picture) := by
    intro found
    match found with
    | [] => exact leads_throw _
    | [i] => exact leads_pure i
    | _ :: _ :: _ => exact leads_throw _
  have hvnic : ControllerLeads w.picture
      (runningByVnic limits scope node >>= fun found =>
        match found with
        | [i] => pure i
        | others => throw (.unresolved node others.length))
      (if ∃ s ∈ w.cloud.subnets, s.vcnId = scope.vcnId then
        soleOf node (w.cloud.foundByVnic scope.vcnId node)
      else .error (.noSubnets scope.vcnId)) w.picture (· = w.picture) := by
    have hfound : ControllerLeads w.picture (runningByVnic limits scope node) _ w.picture _ :=
      leads_runningByVnic h
    split
    · rename_i hsubnets
      rw [if_pos hsubnets] at hfound
      exact hfound.bind (hsole _)
    · rename_i hbare
      rw [if_neg hbare] at hfound
      exact hfound.bind_error
  refine hnamed.bind ?_
  rw [Cloud.nodeIs]
  match w.cloud.foundByName node with
  | [] => exact hvnic
  | [i] => exact leads_pure i
  | _ :: _ :: _ =>
    rw [if_neg (by simp)]
    exact hvnic

variable (limits scope node) in
/-- To look for a display name, `runningByName` only lists instances. -/
theorem asks_runningByName : Asks (· = "ListInstances") (runningByName limits scope node) := by
  have hlist : ∀ page, Asks (· = "ListInstances")
      (requestNode (.listInstances scope.compartmentId (some node) page)) :=
    fun page =>
      (asks_request (P := (· = "ListInstances")) (e := .listInstances _ _ page) rfl).wrap _
  exact foldPages_closed (P := Asks (· = "ListInstances")) asks_pure Asks.bind (asks_throw _) hlist
    (fun _ _ => asks_pure _) _ _ _

/-- Where the name is enough, `resolveNode` asks for nothing else. -/
theorem calls_resolveNode (h : Searchable w limits scope) {i : Instance}
    (hfound : w.cloud.foundByName node = [i]) :
    ∃ calls, (Fallible.runs World.controlAnswer (resolveNode limits scope node) w).2.cloud.calls =
      w.cloud.calls ++ calls ∧ ∀ operation ∈ calls, operation = "ListInstances" := by
  have hnamed : ControllerLeads w.picture (runningByName limits scope node)
      (.ok (w.cloud.foundByName node)) w.picture (· = w.picture) :=
    leads_runningByName h.size h.long.1 h.pages.1
  have hrun := (hnamed.ends w h.calm rfl).1
  rw [hfound] at hrun
  have hresolve : Fallible.runs World.controlAnswer (resolveNode limits scope node) w =
      (.ok i, (Fallible.runs World.controlAnswer (runningByName limits scope node) w).2) :=
    Fallible.runs_bind_ok (Prod.ext hrun rfl)
  have hasks := asks_runningByName limits scope node ⟨w, []⟩
  rw [runs_control_undisturbed] at hasks
  rw [hresolve]
  exact hasks

/-- The order of what was found does not matter to `soleOf`. -/
theorem soleOf_of_perm {l l' : List Instance} (h : l.Perm l') : soleOf node l = soleOf node l' := by
  match l, h with
  | [], h => rw [h.nil_eq]
  | [i], h => rw [h.singleton_eq]
  | i :: j :: rest, h =>
    have hlength := h.length_eq
    match l', hlength with
    | i' :: j' :: rest', hlength => simp only [soleOf, hlength]

/-- What `Cloud.nodeIs` says is up to the instances that there are to be found. -/
theorem nodeIs_congr {c c' : Cloud} {vcnId : String} (hids : (c.instances.map Instance.id).Nodup)
    (hids' : (c'.instances.map Instance.id).Nodup)
    (hnamed : ∀ i, c'.Named node i ↔ c.Named node i)
    (hidentified : ∀ i, c'.Identified vcnId node i ↔ c.Identified vcnId node i)
    (hsubnets : (∃ s ∈ c'.subnets, s.vcnId = vcnId) ↔ ∃ s ∈ c.subnets, s.vcnId = vcnId) :
    c'.nodeIs vcnId node = c.nodeIs vcnId node := by
  have hbyName : (c'.foundByName node).Perm (c.foundByName node) := by
    rw [List.perm_ext_iff_of_nodup (nodup_foundByName hids') (nodup_foundByName hids)]
    intro i
    rw [mem_foundByName, mem_foundByName, hnamed]
  have hbyVnic : (c'.foundByVnic vcnId node).Perm (c.foundByVnic vcnId node) := by
    rw [List.perm_ext_iff_of_nodup nodup_foundByVnic nodup_foundByVnic]
    intro i
    rw [mem_foundByVnic hids', mem_foundByVnic hids, hidentified]
  simp only [Cloud.nodeIs, hbyName.length_eq, soleOf_of_perm hbyName, soleOf_of_perm hbyVnic,
    hsubnets]

/-- **The search for a node never guesses.** If one running instance has the name of the node and no other
    has (`Cloud.Named`), that one is the answer of `resolveNode`, and nothing but instances is asked for.
    Otherwise there is no answer without a subnet, and with one the answer is the running instance that has
    an interface which belongs to the node (`Cloud.Identified`), if there is exactly one, or else the number
    of those that have. So the answer is the same in any other world that agrees on which instances these
    are. -/
theorem resolveNode_unambiguous (h : Searchable w limits scope) (node : String) :
    let answer := (Fallible.runs World.controlAnswer (resolveNode limits scope node) w).1
    let after := (Fallible.runs World.controlAnswer (resolveNode limits scope node) w).2
    (∀ i, Sole (w.cloud.Named node) i → answer = .ok i ∧
      ∃ calls, after.cloud.calls = w.cloud.calls ++ calls ∧
        ∀ operation ∈ calls, operation = "ListInstances") ∧
    ((∀ i, ¬Sole (w.cloud.Named node) i) →
      ((¬∃ s ∈ w.cloud.subnets, s.vcnId = scope.vcnId) → answer = .error (.noSubnets scope.vcnId)) ∧
      ((∃ s ∈ w.cloud.subnets, s.vcnId = scope.vcnId) →
        (∀ i, Sole (w.cloud.Identified scope.vcnId node) i → answer = .ok i) ∧
        ((∀ i, ¬Sole (w.cloud.Identified scope.vcnId node) i) →
          ∃ n, Number (w.cloud.Identified scope.vcnId node) n ∧
            answer = .error (.unresolved node n)))) ∧
    ∀ (w' : World) (limits' : Limits) (scope' : SearchScope), Searchable w' limits' scope' →
      scope'.vcnId = scope.vcnId →
      (∀ i, w'.cloud.Named node i ↔ w.cloud.Named node i) →
      (∀ i, w'.cloud.Identified scope.vcnId node i ↔ w.cloud.Identified scope.vcnId node i) →
      ((∃ s ∈ w'.cloud.subnets, s.vcnId = scope.vcnId) ↔
        ∃ s ∈ w.cloud.subnets, s.vcnId = scope.vcnId) →
      (Fallible.runs World.controlAnswer (resolveNode limits' scope' node) w').1 = answer := by
  intro answer after
  have hanswer : answer = w.cloud.nodeIs scope.vcnId node :=
    ((leads_resolveNode node h).ends w h.calm rfl).1
  rw [hanswer]
  refine ⟨fun i hsole => ?_, fun hnot => ?_, ?_⟩
  · have hfound := eq_singleton_of_sole (nodup_foundByName h.ids) mem_foundByName hsole
    refine ⟨?_, calls_resolveNode h hfound⟩
    rw [Cloud.nodeIs, hfound]
    rfl
  · -- Without exactly one instance of that name the interfaces decide.
    have hmany : (w.cloud.foundByName node).length ≠ 1 := by
      intro hone
      obtain ⟨i, hi⟩ := List.length_eq_one_iff.1 hone
      exact hnot i (sole_of_eq_singleton mem_foundByName hi)
    rw [Cloud.nodeIs, if_neg hmany]
    refine ⟨fun hbare => if_neg hbare, fun hsubnets => ?_⟩
    rw [if_pos hsubnets]
    have hmem : ∀ i, i ∈ w.cloud.foundByVnic scope.vcnId node ↔
        w.cloud.Identified scope.vcnId node i := mem_foundByVnic h.ids
    refine ⟨fun i hsole => ?_, fun hnot' => ?_⟩
    · rw [eq_singleton_of_sole nodup_foundByVnic hmem hsole]
      rfl
    · refine ⟨_, ⟨_, nodup_foundByVnic, hmem, rfl⟩, ?_⟩
      match hfound : w.cloud.foundByVnic scope.vcnId node with
      | [] => rfl
      | [i] => exact absurd (sole_of_eq_singleton hmem hfound) (hnot' i)
      | _ :: _ :: _ => rfl
  · intro w' limits' scope' h' hvcn hnamed hidentified hsubnets
    have hanswer' := ((leads_resolveNode node h').ends w' h'.calm rfl).1
    rw [hanswer', hvcn]
    exact nodeIs_congr h.ids h'.ids hnamed hidentified hsubnets

end Answer

/-- One of the interfaces of `workersWorld`, as it is remembered. -/
def workersCache : VnicCache :=
  .ofList [("a", ⟨"a", none, none, some "worker"⟩)]

/-- Two running instances of one name, and a stopped one with another name. The first one has an interface
    named after it and one with the beginning of that name. Others have interfaces of that name as well,
    but one of them is stopped, and the other one has its interface elsewhere. -/
def workersWorld : World where
  cloud := {
    pageSize := some 1
    instances := [⟨"one", "machine", .running⟩, ⟨"two", "machine", .running⟩,
      ⟨"three", "worker-1", .other "STOPPED"⟩]
    vcns := [⟨"vcn", "compartment"⟩]
    subnets := [⟨"here", "vcn"⟩, ⟨"there", "another vcn"⟩]
    vnicAttachments := [⟨"d", "three", "here", some "d", .attached⟩,
      ⟨"c", "two", "there", some "c", .attached⟩, ⟨"b", "one", "here", some "b", .attached⟩,
      ⟨"a", "one", "here", some "a", .attached⟩]
    vnics := .ofList [("a", ⟨"a", none, none, some "worker"⟩),
      ("b", ⟨"b", none, none, some "worker-1"⟩), ("c", ⟨"c", none, none, some "worker-1"⟩),
      ("d", ⟨"d", some "worker-1", none, none⟩)] }
  files := (saveCacheIn {} VnicCache.fileName workersCache.toContent).2

/-- Where the nodes of `workersWorld` are searched for. -/
def workersScope : SearchScope :=
  ⟨"compartment", "vcn", workersWorld.cachePath⟩

theorem searchable_workersWorld : Searchable workersWorld {} workersScope where
  calm := by decide
  ids := by decide
  machine := by decide
  vnic := by
    intro a ha id hid
    simp only [workersWorld, List.mem_cons, List.not_mem_nil, or_false] at ha
    rcases ha with rfl | rfl | rfl | rfl <;> cases hid <;> exact ⟨_, rfl⟩
  vcn := by decide
  cachePath := rfl
  cache := by
    refine ⟨Utf8.octets workersCache.toContent, rfl, ?_⟩
    intro id v hcached
    rw [VnicCache.ofContent_toContent] at hcached
    have hentry : workersCache.get? id =
        if id = "a" then some ⟨"a", none, none, some "worker"⟩ else none :=
      Dictionary.get?_insert .empty "a" id _
    rw [hentry] at hcached
    split at hcached
    · rename_i hid
      cases hid
      cases hcached
      rfl
    · cases hcached
  size := by decide
  long := by decide
  pages := by decide

/-- In `workersWorld`, the first instance is the node, by either of its interfaces. -/
theorem resolveNode_unambiguous_workersWorld :
    (Fallible.runs World.controlAnswer (resolveNode {} workersScope "worker-1") workersWorld).1 =
      .ok ⟨"one", "machine", .running⟩ := by
  have hresolve := resolveNode_unambiguous searchable_workersWorld "worker-1"
  have hnone : workersWorld.cloud.foundByName "worker-1" = [] := by decide +kernel
  have hone : workersWorld.cloud.foundByVnic "vcn" "worker-1" = [⟨"one", "machine", .running⟩] := by
    decide +kernel
  have hnot : ∀ i, ¬Sole (workersWorld.cloud.Named "worker-1") i := by
    intro i hsole
    have hi := (mem_foundByName i).2 ((hsole i).2 rfl)
    rw [hnone] at hi
    cases hi
  have hsubnet : ∃ s ∈ workersWorld.cloud.subnets, s.vcnId = "vcn" := by decide
  exact ((hresolve.2.1 hnot).2 hsubnet).1 _
    (sole_of_eq_singleton (mem_foundByVnic searchable_workersWorld.ids) hone)

end VolumeDriver.InMemory
