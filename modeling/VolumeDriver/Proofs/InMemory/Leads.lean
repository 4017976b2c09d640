import VolumeDriver.Proofs.Flow.Run
import VolumeDriver.Proofs.InMemory.Disturbed
set_option autoImplicit false

/-! # Where flows lead

`Leads` says where a flow leads from a picture: without a fault to one result and one picture, and with
faults there all the same, or to an error and to one of some pictures. One statement so covers the
undisturbed run and all disturbed ones, and statements about parts compose to one about the whole. -/

namespace VolumeDriver.InMemory

open ControlPlane

section Leads

variable {S : Signature} {ε ε' α β : Type}

/-- What may come of a run that begins in `d`: the result and the picture that are looked for or, if
    there are faults, an error and a picture with a property. -/
structure Arrives (d : Disturbed) (result : Except ε α × Disturbed) (r : Except ε α) (p : Picture)
    (E : Picture → Prop) : Prop where
  calm : result.2.world.Calm
  faults : result.2.faults <:+ d.faults
  arrived : (result.1 = r ∧ result.2.world.picture = p) ∨
    (d.Faulty ∧ (∃ fault, result.1 = .error fault) ∧ E result.2.world.picture)

/-- Where a flow leads from a picture: to the result `r` and the picture `p'` or, if faults come in its
    way, maybe to an error and a picture with the property `E`. -/
def Leads (answer : (action : S.Action) → Disturbed → S.Answer action × Disturbed) (p : Picture)
    (m : Fallible ε S α) (r : Except ε α) (p' : Picture) (E : Picture → Prop) : Prop :=
  ∀ d : Disturbed, d.world.Calm → d.world.picture = p →
    Arrives d (Fallible.runs answer m d) r p' E

variable {answer : (action : S.Action) → Disturbed → S.Answer action × Disturbed}
  {p p' p'' : Picture} {E E' : Picture → Prop}

theorem Disturbed.Faulty.of_suffix {d d' : Disturbed} (h : d'.Faulty)
    (hs : d'.faults <:+ d.faults) : d.Faulty := by
  obtain ⟨fault, hf⟩ := h
  exact ⟨fault, hs.subset hf⟩

/-- What comes of a later part comes of the whole, for what is faulty later is faulty from the start. -/
theorem Arrives.of_suffix {d d' : Disturbed} {result : Except ε α × Disturbed} {r : Except ε α}
    (h : Arrives d' result r p E) (hs : d'.faults <:+ d.faults) : Arrives d result r p E := by
  refine ⟨h.calm, h.faults.trans hs, h.arrived.imp_right ?_⟩
  exact fun ⟨hfaulty, hrest⟩ => ⟨hfaulty.of_suffix hs, hrest⟩

theorem leads_ofExcept (r : Except ε α) :
    Leads answer p (Fallible.ofExcept r : Fallible ε S α) r p E := by
  intro d hd hp
  rw [Fallible.runs_ofExcept]
  exact ⟨hd, List.suffix_refl _, .inl ⟨rfl, hp⟩⟩

theorem leads_pure (a : α) : Leads answer p (pure a : Fallible ε S α) (.ok a) p E :=
  leads_ofExcept (.ok a)

theorem leads_throw (fault : ε) :
    Leads answer p (throw fault : Fallible ε S α) (.error fault) p E :=
  leads_ofExcept (.error fault)

theorem Leads.mono {m : Fallible ε S α} {r : Except ε α} {F : Picture → Prop}
    (h : Leads answer p m r p' E) (hE : ∀ q, E q → F q) : Leads answer p m r p' F := by
  intro d hd hp
  obtain ⟨hcalm, hsuffix, harrived⟩ := h d hd hp
  refine ⟨hcalm, hsuffix, harrived.imp_right ?_⟩
  exact fun ⟨hf, hx, hq⟩ => ⟨hf, hx, hE _ hq⟩

/-- Where the first part `Leads` to a value, the whole leads to where the second part leads from there. -/
theorem Leads.bind {m : Fallible ε S α} {f : α → Fallible ε S β} {a : α} {r : Except ε β}
    (hm : Leads answer p m (.ok a) p' E) (hf : Leads answer p' (f a) r p'' E) :
    Leads answer p (m >>= f) r p'' E := by
  intro d hd hp
  obtain ⟨hcalm, hsuffix, ⟨hx, hp'⟩ | ⟨hfaulty, ⟨fault, hx⟩, hq⟩⟩ := hm d hd hp
  · rw [Fallible.runs_bind_ok (Prod.ext hx rfl)]
    exact (hf _ hcalm hp').of_suffix hsuffix
  · rw [Fallible.runs_bind_error (Prod.ext hx rfl)]
    exact ⟨hcalm, hsuffix, .inr ⟨hfaulty, ⟨fault, rfl⟩, hq⟩⟩

/-- Where the first part `Leads` to an error, the whole does. -/
theorem Leads.bind_error {m : Fallible ε S α} {f : α → Fallible ε S β} {fault : ε}
    (hm : Leads answer p m (.error fault) p' E) :
    Leads answer p (m >>= f) (.error fault) p' E := by
  intro d hd hp
  obtain ⟨hcalm, hsuffix, harrived⟩ := hm d hd hp
  rcases harrived with ⟨hx, hp'⟩ | ⟨hfaulty, ⟨fault', hx⟩, hq⟩
  · rw [Fallible.runs_bind_error (Prod.ext hx rfl)]
    exact ⟨hcalm, hsuffix, .inl ⟨rfl, hp'⟩⟩
  · rw [Fallible.runs_bind_error (Prod.ext hx rfl)]
    exact ⟨hcalm, hsuffix, .inr ⟨hfaulty, ⟨fault', rfl⟩, hq⟩⟩

theorem Leads.wrap {m : Fallible ε' S α} {r : Except ε' α} (h : Leads answer p m r p' E)
    (f : ε' → ε) : Leads answer p (Fallible.wrap f m) (r.mapError f) p' E := by
  intro d hd hp
  obtain ⟨hcalm, hsuffix, harrived⟩ := h d hd hp
  rw [Fallible.runs_wrap]
  refine ⟨hcalm, hsuffix, harrived.imp ?_ ?_⟩
  · exact fun ⟨hx, hp'⟩ => ⟨by rw [hx], hp'⟩
  · exact fun ⟨hf, ⟨fault, hx⟩, hq⟩ => ⟨hf, ⟨f fault, by rw [hx]; rfl⟩, hq⟩

/-- What goes on with the `outcome` of a flow has to make do with any error that a fault may bring. -/
theorem Leads.bind_outcome {m : Fallible ε' S α} {f : Except ε' α → Fallible ε S β}
    {x : Except ε' α} {r : Except ε β} (hm : Leads answer p m x p' E)
    (hf : Leads answer p' (f x) r p'' E')
    (herror : ∀ fault q, E q → Leads answer q (f (.error fault)) r p'' E' ∨
      ∃ fault' q', Leads answer q (f (.error fault)) (.error fault') q' E' ∧ E' q') :
    Leads answer p (Fallible.outcome m >>= f) r p'' E' := by
  intro d hd hp
  obtain ⟨hcalm, hsuffix, harrived⟩ := hm d hd hp
  have hrun : Fallible.runs answer (Fallible.outcome m >>= f) d =
      Fallible.runs answer (f (Fallible.runs answer m d).1) (Fallible.runs answer m d).2 :=
    Fallible.runs_bind_ok (Fallible.runs_outcome answer m d)
  rw [hrun]
  rcases harrived with ⟨hx, hp'⟩ | ⟨hfaulty, ⟨fault, hx⟩, hq⟩
  · rw [hx]
    exact (hf _ hcalm hp').of_suffix hsuffix
  · -- A fault has come already, so the whole may end in an error even if no more come.
    rw [hx]
    rcases herror fault _ hq with hsame | ⟨fault', q', herr, hq'⟩
    · exact (hsame _ hcalm rfl).of_suffix hsuffix
    · obtain ⟨hcalm', hsuffix', harrived⟩ := herr _ hcalm rfl
      refine ⟨hcalm', hsuffix'.trans hsuffix, .inr ⟨hfaulty, ?_⟩⟩
      rcases harrived with ⟨hx', hp'⟩ | ⟨_, hrest⟩
      · exact ⟨⟨fault', hx'⟩, hp'.symm ▸ hq'⟩
      · exact hrest

end Leads

/-! ## The controller side -/

/-- Where a flow of the controller side `Leads`. -/
abbrev ControllerLeads {ε α : Type} (p : Picture) (m : Controller.Run ε α) (r : Except ε α)
    (p' : Picture) (E : Picture → Prop) : Prop :=
  Leads Disturbed.control p m r p' E

/-- Where a flow of a driver `Leads`. -/
abbrev DriverLeads {α : Type} (p : Picture) (m : DriverRun α) (r : Except DriverFault α)
    (p' : Picture) (E : Picture → Prop) : Prop :=
  Leads Disturbed.act p m r p' E

section Controller

variable {ε α : Type} {p p' : Picture} {E : Picture → Prop}

theorem runs_inLeft (m : Controller.Run ε α) (d : Disturbed) :
    Fallible.runs Disturbed.act (.ofFlow m.run.inLeft) d = Fallible.runs Disturbed.control m d :=
  Flow.run_inLeft (T := Host.signature) Disturbed.act m.run d

theorem runs_onController (f : ε → DriverFault) (m : Controller.Run ε α) (d : Disturbed) :
    Fallible.runs Disturbed.act (onController f m) d =
      ((Fallible.runs Disturbed.control m d).1.mapError f,
        (Fallible.runs Disturbed.control m d).2) := by
  rw [onController, Fallible.runs_wrap]
  exact congrArg (fun run : Except ε α × Disturbed => (run.1.mapError f, run.2)) (runs_inLeft m d)

theorem leads_onController {m : Controller.Run ε α} {r : Except ε α}
    (h : ControllerLeads p m r p' E) (f : ε → DriverFault) :
    DriverLeads p (onController f m) (r.mapError f) p' E := by
  refine Leads.wrap ?_ f
  intro d hd hp
  exact runs_inLeft m d ▸ h d hd hp

/-- A `Controller.request` is answered or meets a fault. -/
theorem leads_request (e : Exchange) (hE : E p) :
    ControllerLeads p (Controller.request e) (p.cloud.respond e).1 (p.after e) E := by
  rintro d hd rfl
  by_cases hf : ∃ fault rest, d.faults = some fault :: rest
  · obtain ⟨fault, rest, hf⟩ := hf
    have hrun : Fallible.runs Disturbed.control (Controller.request e) d = _ :=
      d.exchange_faulted hd e hf
    rw [hrun]
    refine ⟨Dictionary.Drained.insert hd _, ?_, .inr ⟨⟨fault, ?_⟩, ⟨fault, rfl⟩, hE⟩⟩
    · rw [hf]
      exact List.suffix_cons _ _
    · rw [hf]
      exact List.mem_cons_self
  · have hrun : Fallible.runs Disturbed.control (Controller.request e) d = _ :=
      d.exchange_answered hd e fun fault rest h => hf ⟨fault, rest, h⟩
    rw [hrun]
    refine ⟨hd, List.tail_suffix _, .inl ⟨?_, World.picture_answered _ _ _ _⟩⟩
    exact congrArg Prod.fst (Cloud.respond_unrecorded e d.world.cloud).symm

/-- A `Controller.request` that the control plane has an answer to leads to the answer. -/
theorem leads_answered {e : Exchange} {reply : Except Fault e.Answer} {c : Cloud}
    (h : p.cloud.respond e = (reply, c)) (hE : E p) :
    ControllerLeads p (Controller.request e) reply { p with cloud := c } E := by
  have hask := leads_request e hE
  rw [Picture.after, h] at hask
  exact hask

theorem leads_connect : ControllerLeads p Controller.connect p.session p E := by
  rintro d hd rfl
  exact ⟨hd, List.suffix_refl _, .inl ⟨rfl, rfl⟩⟩

theorem leads_pause (milliseconds : Nat) :
    ControllerLeads p (Controller.pause milliseconds : Controller.Run ε Unit) (.ok ()) p E := by
  rintro d hd rfl
  exact ⟨hd, List.suffix_refl _, .inl ⟨rfl, rfl⟩⟩

variable {p'' : Picture} {interval retries : Nat} {exhausted : ε} {look : Controller.Run ε (Option α)}

/-- A `pollTimes` ends at the look that finds what is waited for. -/
theorem leads_pollTimes_first {a : α} (hretries : 1 ≤ retries)
    (hlook : ControllerLeads p look (.ok (some a)) p' E) :
    ControllerLeads p (Controller.pollTimes interval exhausted look retries) (.ok a) p' E := by
  obtain ⟨n, rfl⟩ : ∃ n, retries = n + 1 := ⟨_, (Nat.sub_add_cancel hretries).symm⟩
  exact hlook.bind (leads_pure a)

/-- In `pollTimes`, a look that finds nothing is followed by another. -/
theorem leads_pollTimes_second {a : α} (hretries : 2 ≤ retries)
    (hlook : ControllerLeads p look (.ok none) p' E)
    (hlook' : ControllerLeads p' look (.ok (some a)) p'' E) :
    ControllerLeads p (Controller.pollTimes interval exhausted look retries) (.ok a) p'' E := by
  obtain ⟨n, rfl⟩ : ∃ n, retries = n + 1 + 1 := ⟨_, (Nat.sub_add_cancel hretries).symm⟩
  exact hlook.bind ((leads_pause interval).bind
    (leads_pollTimes_first (Nat.succ_le_succ (Nat.zero_le n)) hlook'))

/-- A `pollTimes` that may look only once is in vain if that look finds nothing. -/
theorem leads_pollTimes_short (hretries : retries < 2)
    (hlook : ControllerLeads p look (.ok none) p' E) :
    ∃ q, ControllerLeads p (Controller.pollTimes interval exhausted look retries)
      (.error exhausted) q E := by
  match retries with
  | 0 => exact ⟨p, leads_throw _⟩
  | 1 => exact ⟨p', hlook.bind ((leads_pause interval).bind (leads_throw _))⟩

end Controller

/-! ## Before requests -/

section Driver

variable {p : Picture} {E : Picture → Prop} {options : Options} {name : String} {session : Session}

theorem leads_volumeOf (options : Options) (E : Picture → Prop) :
    DriverLeads p (volumeOf options)
      (match options.volumeName? with
        | some name => .ok name
        | none => .error .missingVolumeName) p E := by
  rw [volumeOf]
  cases options.volumeName? with
  | some name => exact leads_pure name
  | none => exact leads_throw _

theorem volumeName_of_ok (h : (match options.volumeName? with
      | some name => Except.ok name
      | none => .error DriverFault.missingVolumeName) = .ok name) :
    options.volumeName? = some name := by
  split at h
  · rename_i hname
    cases h
    exact hname
  · cases h

theorem leads_volumeOf_some (h : options.volumeName? = some name) :
    DriverLeads p (volumeOf options) (.ok name) p E := by
  have hleads := leads_volumeOf (p := p) options E
  rwa [h] at hleads

theorem leads_volumeOf_none (h : options.volumeName? = none) :
    DriverLeads p (volumeOf options) (.error .missingVolumeName) p E := by
  have hleads := leads_volumeOf (p := p) options E
  rwa [h] at hleads

theorem leads_openSession (h : p.session = .ok session) :
    DriverLeads p openSession (.ok session) p E := by
  have hconnect := leads_onController (leads_connect (p := p) (E := E)) .connect
  rw [h] at hconnect
  exact hconnect

theorem scope_cachePath (h : p.session = .ok session) : session.scope.cachePath = p.cachePath := by
  rw [Picture.session, World.session] at h
  split at h
  · cases h
    rfl
  · cases h

end Driver

/-! ## Undisturbed runs -/

/-- How a world answers the flows of the controller side. -/
def World.controlAnswer (action : Controller.signature.Action) (w : World) :
    Controller.signature.Answer action × World :=
  w.control action

section Ends

variable {S : Signature} {ε ε' α β : Type}

/-- Where a flow ends from a picture if nothing comes in its way. This is all there is to say of a flow that
    a fault may bring to a success of its own. -/
def Ends (answer : (action : S.Action) → World → S.Answer action × World) (p : Picture)
    (m : Fallible ε S α) (r : Except ε α) (p' : Picture) : Prop :=
  ∀ w : World, w.Calm → w.picture = p →
    (Fallible.runs answer m w).1 = r ∧ (Fallible.runs answer m w).2.Calm ∧
      (Fallible.runs answer m w).2.picture = p'

variable {answer : (action : S.Action) → World → S.Answer action × World} {p p' p'' : Picture}

theorem ends_pure (a : α) : Ends answer p (pure a : Fallible ε S α) (.ok a) p :=
  fun _ hw hp => ⟨rfl, hw, hp⟩

theorem Ends.bind {m : Fallible ε S α} {f : α → Fallible ε S β} {a : α} {r : Except ε β}
    (hm : Ends answer p m (.ok a) p') (hf : Ends answer p' (f a) r p'') :
    Ends answer p (m >>= f) r p'' := by
  intro w hw hp
  obtain ⟨hx, hcalm, hp'⟩ := hm w hw hp
  rw [Fallible.runs_bind_ok (Prod.ext hx rfl)]
  exact hf _ hcalm hp'

theorem Ends.outcome {m : Fallible ε' S α} {x : Except ε' α} (h : Ends answer p m x p') :
    Ends answer p (Fallible.outcome m : Fallible ε S (Except ε' α)) (.ok x) p' := by
  intro w hw hp
  obtain ⟨hx, hcalm, hp'⟩ := h w hw hp
  rw [Fallible.runs_outcome]
  exact ⟨by rw [hx], hcalm, hp'⟩

end Ends

section Undisturbed

variable {ε α : Type} {p p' p'' : Picture} {E : Picture → Prop}

theorem runs_undisturbed (m : DriverRun α) (w : World) :
    Fallible.runs Disturbed.act m ⟨w, []⟩ =
      ((Fallible.runs World.act m w).1, ⟨(Fallible.runs World.act m w).2, []⟩) :=
  Disturbed.run_undisturbed m.run w

theorem World.run_inLeft (m : Flow Controller.signature α) (w : World) :
    (m.inLeft (T := Host.signature)).run World.act w = m.run World.controlAnswer w :=
  Flow.run_inLeft World.act m w

theorem runs_control_undisturbed (m : Controller.Run ε α) (w : World) :
    Fallible.runs Disturbed.control m ⟨w, []⟩ =
      ((Fallible.runs World.controlAnswer m w).1, ⟨(Fallible.runs World.controlAnswer m w).2, []⟩) := by
  have hside := Disturbed.run_undisturbed (m.run.inLeft (T := Host.signature)) w
  rw [World.run_inLeft] at hside
  exact (Flow.run_inLeft (T := Host.signature) Disturbed.act m.run ⟨w, []⟩).symm.trans hside

theorem Disturbed.not_faulty (w : World) : ¬(⟨w, []⟩ : Disturbed).Faulty := by
  rintro ⟨fault, hf⟩
  cases hf

/-- Without faults there is only one way to arrive. -/
theorem Arrives.undisturbed {w w' : World} {x r : Except ε α}
    (h : Arrives ⟨w, []⟩ (x, ⟨w', []⟩) r p E) : x = r ∧ w'.Calm ∧ w'.picture = p := by
  rcases h.arrived with ⟨hx, hp⟩ | ⟨hfaulty, _⟩
  · exact ⟨hx, h.calm, hp⟩
  · exact absurd hfaulty (Disturbed.not_faulty w)

/-- Without faults a flow ends where it leads. -/
theorem ControllerLeads.ends {m : Controller.Run ε α} {r : Except ε α}
    (h : ControllerLeads p m r p' E) : Ends World.controlAnswer p m r p' := by
  intro w hw hp
  have harrives := h ⟨w, []⟩ hw hp
  rw [runs_control_undisturbed] at harrives
  exact harrives.undisturbed

theorem DriverLeads.ends {m : DriverRun α} {r : Except DriverFault α} (h : DriverLeads p m r p' E) :
    Ends World.act p m r p' := by
  intro w hw hp
  have harrives := h ⟨w, []⟩ hw hp
  rw [runs_undisturbed] at harrives
  exact harrives.undisturbed

theorem DriverLeads.runs {m : DriverRun α} {r : Except DriverFault α} (h : DriverLeads p m r p' E)
    {w : World} (hw : w.Calm) (hp : w.picture = p) :
    (Fallible.runs World.act m w).1 = r ∧ (Fallible.runs World.act m w).2.Calm ∧
      (Fallible.runs World.act m w).2.picture = p' :=
  h.ends w hw hp

theorem Ends.onController {m : Controller.Run ε α} {r : Except ε α}
    (h : Ends World.controlAnswer p m r p') (f : ε → DriverFault) :
    Ends World.act p (onController f m) (r.mapError f) p' := by
  intro w hw hp
  obtain ⟨hx, hcalm, hp'⟩ := h w hw hp
  have hrun : Fallible.runs World.act (VolumeDriver.onController f m) w =
      ((Fallible.runs World.controlAnswer m w).1.mapError f,
        (Fallible.runs World.controlAnswer m w).2) := by
    rw [VolumeDriver.onController, Fallible.runs_wrap]
    exact congrArg (fun run : Except ε α × World => (run.1.mapError f, run.2))
      (World.run_inLeft m.run w)
  rw [hrun]
  exact ⟨by rw [hx], hcalm, hp'⟩

/-- In `pollTimes`, a look that finds nothing is followed by another. -/
theorem Ends.pollTimes_second {look : Controller.Run ε (Option α)} {interval retries : Nat}
    {exhausted : ε} {a : α} (hretries : 2 ≤ retries)
    (hlook : Ends World.controlAnswer p look (.ok none) p')
    (hlook' : Ends World.controlAnswer p' look (.ok (some a)) p'') :
    Ends World.controlAnswer p (Controller.pollTimes interval exhausted look retries) (.ok a) p'' := by
  obtain ⟨n, rfl⟩ : ∃ n, retries = n + 1 + 1 := ⟨_, (Nat.sub_add_cancel hretries).symm⟩
  refine hlook.bind ((leads_pause (E := fun _ => True) interval).ends.bind ?_)
  exact hlook'.bind (ends_pure a)

end Undisturbed

/-! ## Answers -/

/-- What a flow answers from a picture, and the picture afterwards. -/
def Answers (p : Picture) (m : Answering) (status : Status) (p' : Picture) : Prop :=
  ∀ w : World, w.Calm → w.picture = p →
    (m.run World.act w).1 = status ∧ (m.run World.act w).2.Calm ∧
      (m.run World.act w).2.picture = p'

section Answers

variable {p p' : Picture} {E : Picture → Prop}

theorem run_answer {σ : Type}
    (answer : (action : driverSignature.Action) → σ → driverSignature.Answer action × σ)
    (m : DriverRun Status) (s : σ) :
    m.answer.run answer s =
      (DriverFault.answer (Fallible.runs answer m s).1, (Fallible.runs answer m s).2) :=
  Flow.run_bind answer m.run _ s

theorem Ends.answers {m : DriverRun Status} {r : Except DriverFault Status}
    (h : Ends World.act p m r p') : Answers p m.answer (DriverFault.answer r) p' := by
  intro w hw hp
  obtain ⟨hx, hcalm, hp'⟩ := h w hw hp
  rw [run_answer]
  exact ⟨by rw [hx], hcalm, hp'⟩

theorem DriverLeads.answers {m : DriverRun Status} {r : Except DriverFault Status}
    (h : DriverLeads p m r p' E) : Answers p m.answer (DriverFault.answer r) p' :=
  h.ends.answers

end Answers

end VolumeDriver.InMemory
