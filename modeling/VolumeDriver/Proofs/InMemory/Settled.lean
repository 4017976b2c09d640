import VolumeDriver.Controller.NodeName
import VolumeDriver.Proofs.Controller.Patience
import VolumeDriver.Proofs.InMemory.Leads
set_option autoImplicit false

/-! # What is settled by the scene

Call-outs change attachments and exports, so what only asks for other things leads to the same result
whatever call-outs came before. `Settled` says so of a flow of the controller side, and
`LearningSettled` of one that learns about interfaces: what it has learnt before does not matter, as
long as the cache and the control plane together know the same. -/

namespace VolumeDriver.InMemory

open ControlPlane Controller

/-! ## Flows that only ask -/

namespace Cloud

/-- Whether an exchange asks for something that no call-out changes. -/
def AsksForFixed : Exchange → Prop
  | .getInstance _ | .listInstances .. | .getVcn _ | .listSubnets .. | .listVnicAttachments ..
  | .getVnic _ | .getFileSystem _ | .listMountTargets .. | .getPrivateIp _ => True
  | _ => False

theorem respond_fixed {e : Exchange} (h : AsksForFixed e) (c : Cloud) :
    c.respond e = ((c.fixed.respond e).1, c) := by
  cases e <;> first | rfl | cases h

end Cloud

/-- Whether the scene decides what a flow leads to; it leaves the picture as it is. -/
def Settled {ε α : Type} (s : Picture) (m : Run ε α) : Prop :=
  ∃ r, ∀ p : Picture, p.scene = s → ControllerLeads p m r p (· = p)

section Settled

variable {ε ε' α β : Type} {s : Picture}

theorem settled_ofExcept (r : Except ε α) : Settled s (Fallible.ofExcept r : Run ε α) :=
  ⟨r, fun _ _ => leads_ofExcept r⟩

theorem settled_pure (a : α) : Settled s (pure a : Run ε α) :=
  settled_ofExcept (.ok a)

theorem settled_throw (fault : ε) : Settled s (throw fault : Run ε α) :=
  settled_ofExcept (.error fault)

theorem Settled.bind {m : Run ε α} {f : α → Run ε β} (hm : Settled s m)
    (hf : ∀ a, Settled s (f a)) : Settled s (m >>= f) := by
  obtain ⟨r, hm⟩ := hm
  cases r with
  | error fault => exact ⟨.error fault, fun p hp => (hm p hp).bind_error⟩
  | ok a =>
    obtain ⟨r, hf⟩ := hf a
    exact ⟨r, fun p hp => (hm p hp).bind (hf p hp)⟩

theorem Settled.wrap {m : Run ε' α} (hm : Settled s m) (f : ε' → ε) :
    Settled s (Fallible.wrap f m) := by
  obtain ⟨r, hm⟩ := hm
  exact ⟨r.mapError f, fun p hp => (hm p hp).wrap f⟩

theorem settled_request (e : Exchange) (h : Cloud.AsksForFixed e) : Settled s (request e) := by
  refine ⟨(s.cloud.respond e).1, ?_⟩
  rintro p rfl
  exact leads_answered (Cloud.respond_fixed h p.cloud) rfl

theorem settled_requestNode (e : Exchange) (h : Cloud.AsksForFixed e) :
    Settled s (requestNode e) :=
  (settled_request e h).wrap _

theorem settled_foldPages {endless : Run ε β} {list : Option String → Run ε (Page α)}
    {step : β → List α → Run ε β} (hendless : Settled s endless)
    (hlist : ∀ page, Settled s (list page)) (hstep : ∀ acc items, Settled s (step acc items))
    (pages : Nat) (acc : β) (page : Option String) :
    Settled s (foldPages endless list step pages acc page) :=
  foldPages_closed (P := Settled s) settled_pure Settled.bind hendless hlist hstep pages acc page

theorem settled_findOnPages {endless : Run ε (Option α)} {list : Option String → Run ε (Page α)}
    {p : α → Bool} (hendless : Settled s endless) (hlist : ∀ page, Settled s (list page))
    (pages : Nat) (page : Option String) : Settled s (findOnPages endless list p pages page) :=
  findOnPages_closed (P := Settled s) settled_pure Settled.bind hendless hlist pages page

end Settled

/-! ## Flows that learn -/

namespace Learning

variable {α β : Type}

/-- What a flow that learns comes to and has learnt, and the world afterwards. -/
def runs (m : Learning α) (cache : VnicCache) (d : Disturbed) :
    (Except ResolveFault α × VnicCache) × Disturbed :=
  (m.run.run cache).run Disturbed.control d

theorem runs_bind (m : Learning α) (f : α → Learning β) (cache : VnicCache) (d : Disturbed) :
    runs (m >>= f) cache d =
      match runs m cache d with
      | ((.ok a, cache), d) => runs (f a) cache d
      | ((.error fault, cache), d) => ((.error fault, cache), d) := by
  refine (Flow.run_bind Disturbed.control (m.run.run cache) _ d).trans ?_
  rw [runs]
  rcases (m.run.run cache).run Disturbed.control d with ⟨⟨a | fault, cache'⟩, d'⟩ <;> rfl

variable {m : Learning α} {f : α → Learning β} {cache cache' : VnicCache} {d d' : Disturbed}

theorem runs_bind_ok {a : α} (h : runs m cache d = ((.ok a, cache'), d')) :
    runs (m >>= f) cache d = runs (f a) cache' d' := by
  rw [runs_bind, h]

theorem runs_bind_error {fault : ResolveFault}
    (h : runs m cache d = ((.error fault, cache'), d')) :
    runs (m >>= f) cache d = ((.error fault, cache'), d') := by
  rw [runs_bind, h]

theorem runs_learningNothing {m : Run ResolveFault α} {x : Except ResolveFault α}
    (h : Fallible.runs Disturbed.control m d = (x, d')) :
    runs (learningNothing m) cache d = ((x, cache), d') := by
  refine (Flow.run_bind Disturbed.control m.run _ d).trans ?_
  rw [Fallible.runs] at h
  rw [h]
  rfl

/-- An interface that is known is not asked for by `knownVnic`. -/
theorem runs_knownVnic_some {id : String} {vnic : Vnic} (h : cache.get? id = some vnic)
    (d : Disturbed) : runs (knownVnic id) cache d = ((.ok vnic, cache), d) := by
  have hget : runs (get : Learning VnicCache) cache d = ((.ok cache, cache), d) := rfl
  refine (runs_bind_ok hget).trans ?_
  rw [h]
  rfl

/-- An interface that `knownVnic` asks for is known from then on. -/
theorem runs_knownVnic_none {id : String} {asked : Except ResolveFault Vnic}
    (h : cache.get? id = none)
    (hask : Fallible.runs Disturbed.control (requestNode (.getVnic id)) d = (asked, d')) :
    runs (knownVnic id) cache d =
      ((asked, match asked with
        | .ok vnic => cache.insert id vnic
        | .error _ => cache), d') := by
  have hget : runs (get : Learning VnicCache) cache d = ((.ok cache, cache), d) := rfl
  have hnothing : runs (learningNothing (α := Vnic) (requestNode (.getVnic id))) cache d =
      ((asked, cache), d') :=
    runs_learningNothing hask
  refine (runs_bind_ok hget).trans ?_
  rw [h]
  cases asked with
  | ok vnic => exact runs_bind_ok hnothing
  | error fault => exact runs_bind_error hnothing

end Learning

/-- Where a flow leads that learns about interfaces, when the cache and the control plane together know
    `known`. They do so afterwards too. -/
def LearningLeads {α : Type} (p : Picture) (known : String → Option Vnic) (m : Learning α)
    (r : Except ResolveFault α) : Prop :=
  ∀ d : Disturbed, d.world.Calm → d.world.picture = p →
    ∀ cache, vnicView p.cloud.vnics cache = known →
      Arrives d ((Learning.runs m cache d).1.1, (Learning.runs m cache d).2) r p (· = p) ∧
        vnicView p.cloud.vnics (Learning.runs m cache d).1.2 = known

/-- Whether the scene decides what a flow leads to that learns about interfaces. -/
def LearningSettled {α : Type} (s : Picture) (known : String → Option Vnic) (m : Learning α) : Prop :=
  ∃ r, ∀ p : Picture, p.scene = s → LearningLeads p known m r

section Learning

variable {α β : Type} {p s : Picture} {known : String → Option Vnic}

theorem LearningLeads.bind {m : Learning α} {f : α → Learning β} {a : α} {r : Except ResolveFault β}
    (hm : LearningLeads p known m (.ok a)) (hf : LearningLeads p known (f a) r) :
    LearningLeads p known (m >>= f) r := by
  intro d hd hp cache hcache
  obtain ⟨⟨hcalm, hsuffix, harrived⟩, hknown⟩ := hm d hd hp cache hcache
  rcases harrived with ⟨hx, hp'⟩ | ⟨hfaulty, ⟨fault, hx⟩, hq⟩
  · rw [Learning.runs_bind_ok (Prod.ext (Prod.ext hx rfl) rfl)]
    obtain ⟨harrives, hknown'⟩ := hf _ hcalm hp' _ hknown
    exact ⟨harrives.of_suffix hsuffix, hknown'⟩
  · rw [Learning.runs_bind_error (Prod.ext (Prod.ext hx rfl) rfl)]
    exact ⟨⟨hcalm, hsuffix, .inr ⟨hfaulty, ⟨fault, rfl⟩, hq⟩⟩, hknown⟩

theorem LearningLeads.bind_error {m : Learning α} {f : α → Learning β} {fault : ResolveFault}
    (hm : LearningLeads p known m (.error fault)) :
    LearningLeads p known (m >>= f) (.error fault) := by
  intro d hd hp cache hcache
  obtain ⟨⟨hcalm, hsuffix, harrived⟩, hknown⟩ := hm d hd hp cache hcache
  rcases harrived with ⟨hx, hp'⟩ | ⟨hfaulty, ⟨fault', hx⟩, hq⟩
  · rw [Learning.runs_bind_error (Prod.ext (Prod.ext hx rfl) rfl)]
    exact ⟨⟨hcalm, hsuffix, .inl ⟨rfl, hp'⟩⟩, hknown⟩
  · rw [Learning.runs_bind_error (Prod.ext (Prod.ext hx rfl) rfl)]
    exact ⟨⟨hcalm, hsuffix, .inr ⟨hfaulty, ⟨fault', rfl⟩, hq⟩⟩, hknown⟩

theorem learningLeads_pure (a : α) : LearningLeads p known (pure a) (.ok a) :=
  fun _ hd hp _ hcache => ⟨⟨hd, List.suffix_refl _, .inl ⟨rfl, hp⟩⟩, hcache⟩

theorem learningLeads_nothing {m : Run ResolveFault α} {r : Except ResolveFault α}
    (hm : ControllerLeads p m r p (· = p)) : LearningLeads p known (learningNothing m) r := by
  intro d hd hp cache hcache
  rw [Learning.runs_learningNothing rfl]
  exact ⟨hm d hd hp, hcache⟩

theorem learningSettled_pure (a : α) : LearningSettled s known (pure a) :=
  ⟨.ok a, fun _ _ => learningLeads_pure a⟩

theorem LearningSettled.bind {m : Learning α} {f : α → Learning β} (hm : LearningSettled s known m)
    (hf : ∀ a, LearningSettled s known (f a)) : LearningSettled s known (m >>= f) := by
  obtain ⟨r, hm⟩ := hm
  cases r with
  | error fault => exact ⟨.error fault, fun p hp => (hm p hp).bind_error⟩
  | ok a =>
    obtain ⟨r, hf⟩ := hf a
    exact ⟨r, fun p hp => (hm p hp).bind (hf p hp)⟩

theorem learningSettled_nothing {m : Run ResolveFault α} (hm : Settled s m) :
    LearningSettled s known (learningNothing m) := by
  obtain ⟨r, hm⟩ := hm
  exact ⟨r, fun p hp => learningLeads_nothing (hm p hp)⟩

/-- To learn what the control plane says adds nothing to `vnicView`, what both together know. -/
theorem vnicView_insert {vnics : Dictionary Vnic} {cache : VnicCache} {id : String} {vnic : Vnic}
    (hcache : cache.get? id = none) (hvnic : vnics.get? id = some vnic) :
    vnicView vnics (cache.insert id vnic) = vnicView vnics cache := by
  funext other
  rw [vnicView, vnicView, Dictionary.get?_insert]
  by_cases h : other = id
  · subst h
    rw [if_pos rfl, hcache, hvnic]
    rfl
  · rw [if_neg h]

/-- With `knownVnic`, an interface is the same one whether it is in the cache or asked for. -/
theorem learningLeads_knownVnic (id : String) : LearningLeads p known (knownVnic id)
    ((Cloud.fetch "GetVnic" id (known id)).mapError .controlPlane) := by
  intro d hd hp cache hcache
  -- From the cache or by asking, the interface is what `known` says.
  cases hget : cache.get? id with
  | some vnic =>
    have hknown : known id = some vnic := by rw [← hcache, vnicView, hget, Option.some_or]
    rw [Learning.runs_knownVnic_some hget, hknown]
    exact ⟨⟨hd, List.suffix_refl _, .inl ⟨rfl, hp⟩⟩, hcache⟩
  | none =>
    have hknown : known id = p.cloud.vnics.get? id := by
      rw [← hcache, vnicView, hget, Option.none_or]
    have hleads : ControllerLeads p (requestNode (.getVnic id))
        ((Cloud.fetch "GetVnic" id (known id)).mapError .controlPlane) p (· = p) := by
      rw [hknown]
      exact (leads_request (E := (· = p)) (.getVnic id) rfl).wrap _
    have harrives := hleads d hd hp
    obtain ⟨asked, d', hrun⟩ : ∃ (asked : Except ResolveFault Vnic) (d' : Disturbed),
        Fallible.runs Disturbed.control (requestNode (.getVnic id)) d = (asked, d') :=
      ⟨_, _, rfl⟩
    rw [hrun] at harrives
    rw [Learning.runs_knownVnic_none hget hrun]
    refine ⟨harrives, ?_⟩
    cases asked with
    | error fault => exact hcache
    | ok vnic =>
      have hvnic : p.cloud.vnics.get? id = some vnic := by
        rw [← hknown]
        rcases harrives.arrived with ⟨hx, _⟩ | ⟨_, ⟨fault, hx⟩, _⟩
        · cases hk : known id with
          | none =>
            rw [hk] at hx
            cases hx
          | some found =>
            rw [hk] at hx
            cases hx
            rfl
        · cases hx
      exact (vnicView_insert hget hvnic).trans hcache

theorem learningSettled_knownVnic (id : String) : LearningSettled s known (knownVnic id) :=
  ⟨_, fun _ _ => learningLeads_knownVnic id⟩

theorem learningSettled_searchAttachment (subnets : List String) (node : String) (search : Search)
    (attachment : VnicAttachment) :
    LearningSettled s known (searchAttachment subnets node search attachment) := by
  rw [searchAttachment]
  split
  · exact learningSettled_pure _
  · split
    · refine (learningSettled_knownVnic _).bind fun vnic => ?_
      split
      · exact learningSettled_pure _
      · refine (learningSettled_nothing
          (settled_requestNode (.getInstance _) trivial)).bind fun machine => ?_
        split <;> exact learningSettled_pure _
    · exact learningSettled_pure _

theorem learningSettled_searchVnics (known : String → Option Vnic) (limits : Limits)
    (scope : SearchScope) (subnets : List String) (node : String) :
    LearningSettled s known (searchVnics limits scope subnets node) := by
  refine LearningSettled.bind ?_ fun search => learningSettled_pure _
  refine foldPages_closed (P := LearningSettled s known) learningSettled_pure LearningSettled.bind
    (learningSettled_nothing (settled_throw _))
    (fun page => learningSettled_nothing
      (settled_requestNode (.listVnicAttachments _ page) trivial)) ?_ _ _ _
  exact fun acc items => foldlM_closed (P := LearningSettled s known) learningSettled_pure
    LearningSettled.bind (learningSettled_searchAttachment subnets node) items acc

end Learning

end VolumeDriver.InMemory
