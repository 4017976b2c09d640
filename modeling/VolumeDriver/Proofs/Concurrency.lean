import VolumeDriver.InMemory.World
import VolumeDriver.Proofs.BlockVolume.Trace
import VolumeDriver.Proofs.InMemory.Attachments
set_option autoImplicit false

/-! # Call-outs side by side

Any number of callers answer call-outs at once (`System`). They share a control plane, whose exchanges are
atomic; between two exchanges of one caller anything may happen (`Turn`): actions of the others, exchanges
made to fail, and changes to everything that is not the control plane.

Callers know of each other only through what the control plane answers. The invariant (`System.Inv`)
therefore says of each `Caller` that its flow has come to where it is by the answers in its past, and that
these answers are still true (`EventTells`). Each turn keeps it, and what the flows conclude from true
answers is true. -/

namespace VolumeDriver.InMemory

open ControlPlane

/-! ## Turns -/

/-- A process that answers a call-out: its past, and what is left of its flow. -/
structure Caller where
  timing : Timing
  callOut : CallOut
  /-- the actions so far, each with its answer -/
  past : List (Event driverSignature)
  /-- what is still to be done -/
  rest : Answering

/-- The flow that answers the caller's call-out, as `Caller.start` begins it. -/
def Caller.flow (c : Caller) : Answering :=
  (BlockVolume.driver c.timing).dispatch c.callOut

/-- A caller that has just been called. -/
def Caller.start (timing : Timing) (callOut : CallOut) : Caller :=
  ⟨timing, callOut, [], (BlockVolume.driver timing).dispatch callOut⟩

/-- The caller after one more event. -/
def Caller.goOn (c : Caller) (e : Event driverSignature) (rest : Answering) : Caller :=
  { c with past := c.past ++ [e], rest }

/-- The caller and the world after the caller's next action (`World.act`); one that has its answer does
    nothing. -/
def Caller.act (c : Caller) (w : World) : Caller × World :=
  match c.rest with
  | .done _ => (c, w)
  | .ask action next =>
    let (answer, w) := w.act action
    (c.goOn ⟨action, answer⟩ (next answer), w)

/-- Callers and the world that they share. -/
structure System where
  world : World
  callers : List Caller

/-- What can happen next. -/
inductive Turn
  /-- the caller at an index performs its next action -/
  | act (index : Nat)
  /-- one more exchange will fail -/
  | failNext (operation : String) (fault : Fault)
  /-- everything but the control plane becomes as it is in another world -/
  | surroundings (other : World)

/-- The system after a `Turn`. -/
def System.take (s : System) : Turn → System
  | .act index =>
    match s.callers[index]? with
    | none => s
    | some c => ⟨(c.act s.world).2, s.callers.set index (c.act s.world).1⟩
  | .failNext operation fault =>
    { s with world := { s.world with cloud := s.world.cloud.failNext operation fault } }
  | .surroundings other => { s with world := { other with cloud := s.world.cloud } }

/-- The system after some turns, one `System.take` after the other. -/
def System.run (s : System) (turns : List Turn) : System :=
  turns.foldl System.take s

/-- A world in which some call-outs have just been made. -/
def System.start (w : World) (callOuts : List (Timing × CallOut)) : System :=
  ⟨w, callOuts.map fun c => .start c.1 c.2⟩

/-! ## What an action does -/

/-- What an event says about the attachments, if it is an exchange (`Tells`): what was answered is on
    record, in whatever state it is by now. -/
def EventTells (l : List VolumeAttachment) : Event driverSignature → Prop
  | ⟨.inl (.exchange e), answer⟩ => Tells l e answer
  | _ => True

/-- An attachment that was asked to be undone, with success: an event of `detachVolume`. -/
def detached (id : String) : Event driverSignature :=
  (Controller.exchanged (.detachVolume id) (.ok ())).controlled

theorem EventTells.grows {l l' : List VolumeAttachment} {e : Event driverSignature}
    (h : EventTells l e) (hg : Grows l l') : EventTells l' e := by
  obtain ⟨action, answer⟩ := e
  rcases action with action | action
  · cases action with
    | exchange e => exact Tells.grows h hg
    | _ => exact trivial
  · exact trivial

/-- An action leaves the control plane alone or is an exchange with it, and then it is a `Cloud.Shift`. -/
theorem shift_act {w : World} (h : w.cloud.Sound) (action : driverSignature.Action) :
    Cloud.Shift w.cloud (w.act action).2.cloud ∧
      (w.act action).2.cloud.attachmentStates = w.cloud.attachmentStates := by
  rcases action with action | action
  · cases action with
    | exchange e =>
      exact ⟨Cloud.shift_exchange h.unscripted e, Cloud.attachmentStates_exchange h.unscripted e⟩
    | _ => exact ⟨.unchanged rfl (Nat.le_refl _), rfl⟩
  · cases action <;> exact ⟨.unchanged rfl (Nat.le_refl _), rfl⟩

theorem eventTells_act {w : World} (h : w.cloud.Sound) (action : driverSignature.Action) :
    EventTells (w.act action).2.cloud.attachments ⟨action, (w.act action).1⟩ := by
  rcases action with action | action
  · cases action with
    | exchange e => exact Cloud.tells_exchange h.unscripted e
    | _ => exact trivial
  · exact trivial

/-- What was undone before an action is not undone by it once more: `detached` comes of no two actions. -/
theorem not_detached_act {w : World} (h : w.cloud.Sound) {id : String}
    (hd : EventTells w.cloud.attachments (detached id)) (action : driverSignature.Action) :
    (⟨action, (w.act action).1⟩ : Event driverSignature) ≠ detached id := by
  intro he
  obtain ⟨b, hb, hid, hdead⟩ := hd
  have haction : action = .inl (.exchange (.detachVolume id)) := congrArg Event.action he
  subst haction
  have hanswer : (w.cloud.exchange (.detachVolume id)).1 = .ok () :=
    eq_of_heq (Event.mk.inj he).2
  obtain ⟨a, ha, hid', hlive⟩ := Cloud.live_of_detachVolume hanswer
  obtain rfl := eq_of_id h.ids ha hb (hid'.trans hid.symm)
  rw [hdead] at hlive
  cases hlive

/-! ## The invariant -/

/-- What holds of callers and their world at every time. -/
structure System.Inv (s : System) : Prop where
  sound : s.world.cloud.Sound
  live : AtMostOneLive s.world.cloud.attachments
  /-- callers are where their pasts have led them -/
  led : ∀ c ∈ s.callers, c.flow.Path c.past c.rest
  /-- all answers are still true -/
  told : ∀ c ∈ s.callers, ∀ e ∈ c.past, EventTells s.world.cloud.attachments e
  /-- no attachment is undone by two callers -/
  once : ∀ (i j : Nat) a b, s.callers[i]? = some a → s.callers[j]? = some b →
    ∀ id, detached id ∈ a.past → detached id ∈ b.past → i = j

/-- The caller after `Caller.act` has one more event in its past, or has its answer already. -/
theorem Caller.act_cases (c : Caller) (w : World) :
    c.act w = (c, w) ∨ ∃ action next, c.rest = .ask action next ∧
      c.act w = (c.goOn ⟨action, (w.act action).1⟩ (next (w.act action).1), (w.act action).2) := by
  obtain ⟨timing, callOut, past, rest⟩ := c
  cases rest with
  | done status => exact .inl rfl
  | ask action next => exact .inr ⟨action, next, rfl, rfl⟩

theorem inv_start {w : World} (h : w.cloud.Sound) (hl : AtMostOneLive w.cloud.attachments)
    (callOuts : List (Timing × CallOut)) : (System.start w callOuts).Inv := by
  have fresh : ∀ c ∈ (System.start w callOuts).callers, c.past = [] ∧ c.rest = c.flow := by
    intro c hc
    obtain ⟨call, _, rfl⟩ := List.mem_map.1 hc
    exact ⟨rfl, rfl⟩
  refine ⟨h, hl, ?_, ?_, ?_⟩
  · intro c hc
    rw [(fresh c hc).1, (fresh c hc).2]
    exact .stop _
  · intro c hc e he
    rw [(fresh c hc).1] at he
    cases he
  · intro i j a b ha hb id hid
    rw [(fresh a (List.mem_of_getElem? ha)).1] at hid
    cases hid

/-- What a caller has undone after one caller's event, it had undone before, or that event was it. -/
theorem detached_goOn {callers : List Caller} {index i : Nat} {c a : Caller}
    {e : Event driverSignature} {rest : Answering} {id : String} (hc : callers[index]? = some c)
    (ha : (callers.set index (c.goOn e rest))[i]? = some a) (hid : detached id ∈ a.past) :
    (∃ a₀, callers[i]? = some a₀ ∧ detached id ∈ a₀.past) ∨ i = index ∧ e = detached id := by
  by_cases hi : i = index
  · subst hi
    rw [List.getElem?_set_self (List.getElem?_eq_some_iff.1 hc).1] at ha
    obtain rfl := Option.some.inj ha
    rcases List.mem_append.1 hid with hid | hid
    · exact .inl ⟨c, hc, hid⟩
    · exact .inr ⟨rfl, (List.mem_singleton.1 hid).symm⟩
  · rw [List.getElem?_set_ne (Ne.symm hi)] at ha
    exact .inl ⟨a, ha, hid⟩

/-- The invariant survives an action of one caller (`Turn.act`). -/
theorem System.Inv.act {s : System} (h : s.Inv) (index : Nat) : (s.take (.act index)).Inv := by
  rw [System.take]
  cases hc : s.callers[index]? with
  | none => exact h
  | some c =>
    have hmem := List.mem_of_getElem? hc
    rcases c.act_cases s.world with hact | ⟨action, next, hrest, hact⟩
    · -- A caller that has its answer is put back as it was.
      have hset : s.callers.set index c = s.callers := by
        obtain ⟨hlt, rfl⟩ := List.getElem?_eq_some_iff.1 hc
        exact List.set_getElem_self hlt
      simp only [hact, hset]
      exact h
    · simp only [hact]
      obtain ⟨hshift, hstates⟩ := shift_act h.sound action
      have hstill : ∀ d ∈ s.callers, ∀ e ∈ d.past,
          EventTells (s.world.act action).2.cloud.attachments e :=
        fun d hd e he => (h.told d hd e he).grows hshift.grows
      -- What any caller has undone is not what this action undoes.
      have hfresh : ∀ d ∈ s.callers, ∀ id, detached id ∈ d.past →
          (⟨action, (s.world.act action).1⟩ : Event driverSignature) ≠ detached id :=
        fun d hd id hid => not_detached_act h.sound (h.told d hd _ hid) action
      refine ⟨h.sound.shift hshift hstates, hshift.atMostOneLive h.live, ?_, ?_, ?_⟩
      · intro d hd
        rcases List.mem_or_eq_of_mem_set hd with hd | rfl
        · exact h.led d hd
        · exact (hrest ▸ h.led c hmem).snoc _
      · intro d hd e he
        rcases List.mem_or_eq_of_mem_set hd with hd | rfl
        · exact hstill d hd e he
        · rcases List.mem_append.1 he with he | he
          · exact hstill c hmem e he
          · obtain rfl := List.mem_singleton.1 he
            exact eventTells_act h.sound action
      · -- Each of the two has undone it before, or just now.
        intro i j a b ha hb id hia hjb
        rcases detached_goOn hc ha hia with ⟨a₀, ha₀, hia₀⟩ | ⟨hi, he⟩ <;>
          rcases detached_goOn hc hb hjb with ⟨b₀, hb₀, hjb₀⟩ | ⟨hj, he'⟩
        · exact h.once i j a₀ b₀ ha₀ hb₀ id hia₀ hjb₀
        · exact absurd he' (hfresh a₀ (List.mem_of_getElem? ha₀) id hia₀)
        · exact absurd he (hfresh b₀ (List.mem_of_getElem? hb₀) id hjb₀)
        · rw [hi, hj]

/-- The invariant survives every turn. -/
theorem System.Inv.take {s : System} (h : s.Inv) (turn : Turn) : (s.take turn).Inv := by
  cases turn with
  | act index => exact h.act index
  | failNext operation fault =>
    exact ⟨⟨h.sound.ids, h.sound.fresh, h.sound.unscripted⟩, h.live, h.led, h.told, h.once⟩
  | surroundings other => exact ⟨h.sound, h.live, h.led, h.told, h.once⟩

theorem System.Inv.run {s : System} (h : s.Inv) (turns : List Turn) : (s.run turns).Inv := by
  induction turns generalizing s with
  | nil => exact h
  | cons turn turns ih => exact ih (h.take turn)

/-! ## What successful call-outs know -/

/-- The trace of an attach that has resolved its node to an instance, and that with its last look saw an
    attachment in place, of its volume and that instance, whose device is the one it reports. -/
def SawAttached (limits : Controller.Limits) (options : Options) (node : String)
    (trace : List (Event driverSignature)) (status : Status) : Prop :=
  ∃ name session machine resolution rest last device,
    options.volumeName? = some name ∧
    trace = (connected session :: (resolution ++ (rest ++
      [Controller.exchanged (.getVolumeAttachment last.id) (.ok last)]))).map Event.controlled ∧
    Fallible.Ends (Controller.resolveNode limits session.scope node) resolution (.ok machine) ∧
    last.state = .attached ∧ last.volumeId = volumeId session.regionKey name ∧
    last.instanceId = machine.id ∧ last.devicePath = .ok device ∧ status.device = some device

/-- The trace of a detach that has undone an attachment of its volume, which is among some. -/
def Undid (volume : String) (l : List VolumeAttachment) (trace : List (Event driverSignature)) :
    Prop :=
  ∃ session a, (connected session).controlled ∈ trace ∧ detached a.id ∈ trace ∧
    a.volumeId = volumeId session.regionKey volume ∧ Holds l a

/-- What a listing showed (`Controller.Listed`) is of its volume, and still on record. -/
theorem listed_told {l : List VolumeAttachment} {compartmentId volumeId : String}
    {trace : List (Event Controller.signature)} {a : VolumeAttachment}
    (h : Controller.Listed compartmentId volumeId trace a)
    (told : ∀ e ∈ trace, EventTells l e.controlled) : a.volumeId = volumeId ∧ Holds l a := by
  obtain ⟨page, listing, ha, he⟩ := h
  exact told _ he a ha

theorem sawAttached {l : List VolumeAttachment} (hl : (l.map VolumeAttachment.id).Nodup)
    {limits : Controller.Limits} {options : Options} {node : String}
    {trace : List (Event driverSignature)} {status : Status}
    (told : ∀ e ∈ trace, EventTells l e)
    (h : Fallible.Ends (BlockVolume.attach limits options node) trace (.ok status)) :
    SawAttached limits options node trace status := by
  obtain ⟨name, session, machine, resolution, asked, requested, looked, last, device, hname, rfl,
    hresolve, hask, hstate, hdevice, rfl⟩ := BlockVolume.ends_attach_ok h
  have told' : ∀ e ∈ asked, EventTells l e.controlled :=
    fun e he => told _ (List.mem_map_of_mem (by simp [he]))
  -- The attachment that is waited for is of the volume and the instance,
  have hrequested : requested.instanceId = machine.id ∧
      requested.volumeId = volumeId session.regionKey name ∧ Holds l requested := by
    rcases Controller.ends_attach_ok hask with hgiven | ⟨hinstance, hlisted⟩
    · exact told' _ hgiven
    · exact ⟨hinstance, listed_told hlisted told'⟩
  -- and what the last look saw is that attachment.
  have hlast : last.id = requested.id ∧ Holds l last :=
    told (Controller.exchanged (.getVolumeAttachment requested.id) (.ok last)).controlled
      (List.mem_map_of_mem (by simp))
  obtain ⟨state, hsame⟩ := hlast.2.eq_of_id hl hrequested.2.2 hlast.1
  refine ⟨name, session, machine, resolution, asked ++ looked, last, device, hname, ?_, hresolve,
    hstate, ?_, ?_, hdevice, rfl⟩
  · rw [hlast.1]
    simp
  · rw [hsame]
    exact hrequested.2.1
  · rw [hsame]
    exact hrequested.1

theorem undid {l : List VolumeAttachment} {limits : Controller.Limits} {volume node : String}
    {trace : List (Event driverSignature)} {status : Status}
    (told : ∀ e ∈ trace, EventTells l e)
    (h : Fallible.Ends (BlockVolume.detach limits volume node) trace (.ok status)) :
    Undid volume l trace := by
  obtain ⟨session, found, a, waited, rfl, hlisted⟩ := BlockVolume.ends_detach_ok h
  have ha := listed_told hlisted fun e he => told _ (List.mem_map_of_mem (by simp [he]))
  exact ⟨session, a, List.mem_map_of_mem (by simp),
    List.mem_map_of_mem (f := Event.controlled) (by simp), ha.1, ha.2⟩

/-- **Call-outs side by side keep to one attachment per volume.** Whatever turns follow on a number of
    call-outs: no volume has two live attachments (`AtMostOneLive`); an attach that reports success with a
    device has seen it at the attachment of its volume to the instance that its node is (`SawAttached`); a
    detach that reports success has undone an attachment of its volume (`Undid`); and no attachment is
    undone by two callers. -/
theorem callOuts_side_by_side {w : World} (h : w.cloud.Sound)
    (hl : AtMostOneLive w.cloud.attachments) (callOuts : List (Timing × CallOut))
    (turns : List Turn) :
    let s := (System.start w callOuts).run turns
    AtMostOneLive s.world.cloud.attachments ∧
    (∀ c ∈ s.callers, ∀ options node status, c.callOut = .attach options node →
      c.rest = .done status → status.outcome = .success →
      SawAttached c.timing.limits options node c.past status) ∧
    (∀ c ∈ s.callers, ∀ volume node status, c.callOut = .detach volume node →
      c.rest = .done status → status.outcome = .success →
      Undid volume s.world.cloud.attachments c.past) ∧
    (∀ (i j : Nat) a b, s.callers[i]? = some a → s.callers[j]? = some b →
      ∀ id, detached id ∈ a.past → detached id ∈ b.past → i = j) := by
  intro s
  have hs : s.Inv := (inv_start h hl callOuts).run turns
  have hends : ∀ c ∈ s.callers, ∀ status, c.rest = .done status →
      c.flow.Ends c.past status := by
    intro c hc status hrest
    have hled := hs.led c hc
    rw [hrest] at hled
    exact hled
  refine ⟨hs.live, ?_, ?_, hs.once⟩
  · intro c hc options node status hcall hrest hsuccess
    have hflow := hends c hc status hrest
    rw [Caller.flow, hcall] at hflow
    exact sawAttached hs.sound.ids (hs.told c hc) (ends_answer_success hflow hsuccess)
  · intro c hc volume node status hcall hrest hsuccess
    have hflow := hends c hc status hrest
    rw [Caller.flow, hcall] at hflow
    exact undid (hs.told c hc) (ends_answer_success hflow hsuccess)

/-- Two running nodes, and a volume that was attached to the first one before. -/
def twoNodes : World where
  cloud := {
    lastId := 1
    volumes := ["ocid1.volume.a"]
    attachments := [⟨Cloud.madeUpId "volumeattachment" 1, "ocid1.volume.a", "one", .detached, "iscsi",
      none, none, none⟩]
    instances := [⟨"one", "node-1", .running⟩, ⟨"two", "node-2", .running⟩] }
  config := some {}

/-- Both nodes want the volume, and one call-out is to detach it. -/
def race : List (Timing × CallOut) :=
  let options : Options := ⟨.ofList [(Options.volumeNameKey, "ocid1.volume.a")]⟩
  [({}, .attach options "node-1"), ({}, .attach options "node-2"),
    ({}, .detach "ocid1.volume.a" "node-1")]

/-- Turns of the `race`: the second node comes between the first one's request and its looks; the detach
    comes last. -/
def raceTurns : List Turn :=
  [0, 1, 0, 1, 0, 1, 0, 0, 0, 1, 1, 1, 2, 2, 2, 2, 2, 2].map .act

/-- The outcome that a caller has come to. -/
def Caller.outcome (c : Caller) : Option Outcome :=
  match c.rest with
  | .done status => some status.outcome
  | .ask _ _ => none

theorem sound_twoNodes : twoNodes.cloud.Sound :=
  .of_one rfl rfl (Nat.le_refl 1) (by decide)

theorem atMostOneLive_twoNodes : AtMostOneLive twoNodes.cloud.attachments := by
  intro volumeId
  simp [twoNodes, isLiveOf, AttachmentState.isLive]

/-- Of the two nodes of the `race` the first one gets the volume, and it can be detached. -/
theorem race_side_by_side :
    twoNodes.cloud.Sound ∧ AtMostOneLive twoNodes.cloud.attachments ∧
    let s := (System.start twoNodes race).run raceTurns
    s.callers.map Caller.outcome = [some .success, some .failure, some .success] ∧
    AtMostOneLive s.world.cloud.attachments ∧
    (∀ c ∈ s.callers, ∀ options node status, c.callOut = .attach options node →
      c.rest = .done status → status.outcome = .success →
      SawAttached c.timing.limits options node c.past status) ∧
    (∀ c ∈ s.callers, ∀ volume node status, c.callOut = .detach volume node →
      c.rest = .done status → status.outcome = .success →
      Undid volume s.world.cloud.attachments c.past) ∧
    (∀ (i j : Nat) a b, s.callers[i]? = some a → s.callers[j]? = some b →
      ∀ id, detached id ∈ a.past → detached id ∈ b.past → i = j) := by
  refine ⟨sound_twoNodes, atMostOneLive_twoNodes, ?_, ?_⟩
  · decide +kernel
  · exact callOuts_side_by_side sound_twoNodes atMostOneLive_twoNodes race raceTurns

end VolumeDriver.InMemory
