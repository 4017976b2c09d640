import VolumeDriver.Proofs.Controller.Requests
import VolumeDriver.Proofs.Driver.Trace
import VolumeDriver.Proofs.Flow.Events
import VolumeDriver.Proofs.InMemory.NodeNames
set_option autoImplicit false

/-! # The cache only grows

A search that fails has still learnt something, and it keeps that (`Keeps`): the file of the cache
afterwards says what it said before and what was learnt since, no more and no less. An interface that the
file knows is not asked for, so whatever fails in between, no interface is learnt twice by searches that
share a file.

A cache in memory is accounted for by the trace of the flow that fills it, whatever answers there are
(`Recalls`). Only for the file does it matter what answers, and there is little to ask of it
(`ServesFiles`): that it opens and saves files, and that requests leave them alone. -/

namespace VolumeDriver.InMemory

open ControlPlane Controller

/-! ## What is asked and learnt -/

/-- The interface that an action asks for. -/
def askedVnic? : Action → Option String
  | .exchange (.getVnic id) => some id
  | _ => none

/-- The identifier that an interface was asked for by, and the interface if it was answered with. -/
def learntVnic? (e : Event signature) : Option (String × Vnic) :=
  match e with
  | ⟨.exchange (.getVnic id), .ok vnic⟩ => some (id, vnic)
  | _ => none

/-- The interfaces that are asked for: `askedVnic?` of each event. -/
def vnicsAsked (events : List (Event signature)) : List String :=
  events.filterMap fun e => askedVnic? e.action

/-- The interfaces that are asked for with success: `learntVnic?` of each event. -/
def vnicsLearnt (events : List (Event signature)) : List (String × Vnic) :=
  events.filterMap learntVnic?

section Events

variable {events events' : List (Event signature)}

theorem vnicsAsked_append :
    vnicsAsked (events ++ events') = vnicsAsked events ++ vnicsAsked events' :=
  List.filterMap_append

theorem vnicsLearnt_append :
    vnicsLearnt (events ++ events') = vnicsLearnt events ++ vnicsLearnt events' :=
  List.filterMap_append

theorem askedVnic?_of_learnt {e : Event signature} {id : String} {vnic : Vnic}
    (h : learntVnic? e = some (id, vnic)) : askedVnic? e.action = some id := by
  unfold learntVnic? at h
  split at h
  · cases h
    rfl
  · cases h

/-- What is in `vnicsLearnt` is in `vnicsAsked`. -/
theorem asked_of_learnt {id : String} {vnic : Vnic} (h : (id, vnic) ∈ vnicsLearnt events) :
    id ∈ vnicsAsked events := by
  obtain ⟨e, he, hlearnt⟩ := List.mem_filterMap.1 h
  exact List.mem_filterMap.2 ⟨e, he, askedVnic?_of_learnt hlearnt⟩

/-- Who asks for no interface learns of none. -/
theorem vnicsLearnt_eq_nil (h : vnicsAsked events = []) : vnicsLearnt events = [] := by
  refine List.eq_nil_iff_forall_not_mem.2 ?_
  rintro ⟨id, vnic⟩ hmem
  have hasked := asked_of_learnt hmem
  rw [h] at hasked
  cases hasked

end Events

/-- A cache holds at the end what it held at the beginning and what was learnt. What it held was not asked
    for, and nothing was learnt twice. -/
structure Recalls (known known' : VnicCache) (events : List (Event signature)) : Prop where
  entries : ∀ id vnic, known'.get? id = some vnic ↔
    known.get? id = some vnic ∨ (id, vnic) ∈ vnicsLearnt events
  new : ∀ id ∈ vnicsAsked events, known.get? id = none
  once : ((vnicsLearnt events).map Prod.fst).Nodup

section Recalls

variable {known known' known'' : VnicCache} {events events' : List (Event signature)}

theorem recalls_of_idle (h : vnicsAsked events = []) : Recalls known known events where
  entries id vnic := by
    rw [vnicsLearnt_eq_nil h]
    simp
  new id hid := by
    rw [h] at hid
    cases hid
  once := by
    rw [vnicsLearnt_eq_nil h]
    exact List.nodup_nil

/-- In `Recalls`, what is learnt later is added to what was learnt before. -/
theorem Recalls.append (h : Recalls known known' events) (h' : Recalls known' known'' events') :
    Recalls known known'' (events ++ events') where
  entries id vnic := by
    rw [h'.entries, h.entries, vnicsLearnt_append, List.mem_append, or_assoc]
  new id hid := by
    rw [vnicsAsked_append] at hid
    rcases List.mem_append.1 hid with hid | hid
    · exact h.new id hid
    · -- What the first cache holds the second one holds too, and so it is not asked for.
      have hnone := h'.new id hid
      rw [Option.eq_none_iff_forall_ne_some] at hnone ⊢
      exact fun vnic hvnic => hnone vnic ((h.entries id vnic).2 (.inl hvnic))
  once := by
    rw [vnicsLearnt_append, List.map_append]
    refine List.nodup_append.2 ⟨h.once, h'.once, ?_⟩
    rintro id hid _ hid' rfl
    simp only [List.mem_map, Prod.exists, exists_and_right, exists_eq_right] at hid hid'
    obtain ⟨vnic, hlearnt⟩ := hid
    obtain ⟨vnic', hlearnt'⟩ := hid'
    have hnone := h'.new id (asked_of_learnt hlearnt')
    rw [(h.entries id vnic).2 (.inr hlearnt)] at hnone
    cases hnone

/-- An interface that was asked for and learnt is held from then on. -/
theorem recalls_insert {id : String} {vnic : Vnic} (h : known.get? id = none) :
    Recalls known (known.insert id vnic) [⟨.exchange (.getVnic id), .ok vnic⟩] where
  entries other found := by
    show _ ↔ _ ∨ (other, found) ∈ [(id, vnic)]
    rw [Dictionary.get?_insert, List.mem_singleton, Prod.mk.injEq]
    by_cases hother : other = id
    · subst hother
      rw [if_pos rfl, h]
      simp [eq_comm]
    · simp [hother]
  new other hother := by
    cases List.mem_singleton.1 hother
    exact h
  once := List.pairwise_singleton _ _

/-- An interface that was asked for in vain can be asked for again. -/
theorem recalls_refused {id : String} {fault : Fault} (h : known.get? id = none) :
    Recalls known known [⟨.exchange (.getVnic id), .error fault⟩] where
  entries _ _ := (or_iff_left List.not_mem_nil).symm
  new other hother := by
    cases List.mem_singleton.1 hother
    exact h
  once := List.nodup_nil

end Recalls

/-! ## What a search learns -/

/-- The requests of the controller side. -/
def IsExchange : Action → Prop
  | .exchange _ => True
  | _ => False

/-- A flow only makes requests, and its cache `Recalls` what these are answered. -/
structure Learns {α : Type} (m : Learning α) : Prop where
  only : ∀ known, (m.run.run known).Only IsExchange
  recalls : ∀ known events result known', (m.run.run known).Ends events (result, known') →
    Recalls known known' events

section Learns

variable {α β : Type}

theorem learns_pure (a : α) : Learns (pure a) where
  only _ := trivial
  recalls _ _ _ _ h := by
    obtain ⟨rfl, heq⟩ := Flow.ends_done h
    cases heq
    exact recalls_of_idle rfl

theorem Learns.bind {m : Learning α} {f : α → Learning β} (hm : Learns m) (hf : ∀ a, Learns (f a)) :
    Learns (m >>= f) where
  only known := by
    refine Flow.Only.bind (m := m.run.run known) (hm.only known) ?_
    rintro ⟨a | fault, known'⟩
    · trivial
    · exact (hf _).only known'
  recalls known events result known'' h := by
    obtain ⟨first, rest, ⟨r, known'⟩, rfl, hfirst, hrest⟩ := Flow.ends_bind (m := m.run.run known) h
    have hrecalls := hm.recalls _ _ _ _ hfirst
    cases r with
    | ok a => exact hrecalls.append ((hf a).recalls _ _ _ _ hrest)
    | error fault =>
      obtain ⟨rfl, heq⟩ := Flow.ends_done hrest
      cases heq
      rwa [List.append_nil]

/-- A request for anything but an interface. -/
def AsksElse (action : Action) : Prop :=
  IsExchange action ∧ askedVnic? action = none

theorem vnicsAsked_eq_nil {events : List (Event signature)}
    (h : ∀ e ∈ events, askedVnic? e.action = none) : vnicsAsked events = [] :=
  List.filterMap_eq_nil_iff.2 h

theorem learns_nothing {m : Run ResolveFault α} (hm : Fallible.Only AsksElse m) :
    Learns (learningNothing m) where
  only known := (hm.mono fun _ h => h.1).bind fun _ => trivial
  recalls known events result known' h := by
    obtain ⟨first, rest, r, rfl, hfirst, hrest⟩ := Flow.ends_bind (m := m.run) h
    obtain ⟨rfl, heq⟩ := Flow.ends_done hrest
    cases heq
    rw [List.append_nil]
    exact recalls_of_idle (vnicsAsked_eq_nil fun e he => (hm.ends hfirst e he).2)

/-- With `knownVnic`, an interface is looked up in the cache, or asked for and put there. -/
theorem knownVnic_run (id : String) (known : VnicCache) : (knownVnic id).run.run known =
    match known.get? id with
    | some vnic => .done (.ok vnic, known)
    | none => (requestNode (.getVnic id)).run.bind fun asked =>
      match asked with
      | .ok vnic => .done (.ok vnic, known.insert id vnic)
      | .error fault => .done (.error fault, known) := by
  let ask : Learning Vnic := do
    let vnic : Vnic ← learningNothing (requestNode (.getVnic id))
    modify (·.insert id vnic)
    return vnic
  have hget : (knownVnic id).run.run known =
      (match known.get? id with
        | some vnic => (pure vnic : Learning Vnic)
        | none => ask).run.run known := rfl
  rw [hget]
  cases known.get? id with
  | some vnic => rfl
  | none =>
    refine (Flow.bind_assoc (requestNode (.getVnic id)).run _ _).trans ?_
    refine congrArg (Flow.bind (requestNode (.getVnic id)).run) (funext fun asked => ?_)
    cases asked <;> rfl

theorem learns_knownVnic (id : String) : Learns (knownVnic id) where
  only known := by
    rw [knownVnic_run]
    split
    · trivial
    · refine Flow.Only.bind (only_requestNode trivial) ?_
      rintro (fault | vnic) <;> trivial
  recalls known events result known' h := by
    rw [knownVnic_run] at h
    split at h
    · obtain ⟨rfl, heq⟩ := Flow.ends_done h
      cases heq
      exact recalls_of_idle rfl
    · rename_i hnone
      obtain ⟨first, rest, asked, rfl, hask, hrest⟩ := Flow.ends_bind h
      obtain ⟨answer, hrequest, rfl⟩ := Fallible.ends_wrap hask
      obtain rfl := ends_request hrequest
      cases answer with
      | ok vnic =>
        obtain ⟨rfl, heq⟩ := Flow.ends_done hrest
        cases heq
        exact recalls_insert hnone
      | error fault =>
        obtain ⟨rfl, heq⟩ := Flow.ends_done hrest
        cases heq
        exact recalls_refused hnone

theorem learns_searchAttachment (subnets : List String) (node : String) (search : Search)
    (attachment : VnicAttachment) :
    Learns (searchAttachment subnets node search attachment) := by
  rw [searchAttachment]
  split
  · exact learns_pure _
  · split
    · refine (learns_knownVnic _).bind fun vnic => ?_
      split
      · exact learns_pure _
      · refine (learns_nothing (only_requestNode ⟨trivial, rfl⟩)).bind fun machine => ?_
        split <;> exact learns_pure _
    · exact learns_pure _

/-- However far `searchVnics` gets, its cache `Recalls` all that it was answered. -/
theorem learns_searchVnics (limits : Limits) (scope : SearchScope) (subnets : List String)
    (node : String) : Learns (searchVnics limits scope subnets node) := by
  refine Learns.bind ?_ fun search => learns_pure _
  refine foldPages_closed (P := Learns) learns_pure Learns.bind
    (learns_nothing (Fallible.only_throw _))
    (fun page => learns_nothing (only_requestNode ⟨trivial, rfl⟩)) ?_ _ _ _
  exact fun acc items => foldlM_closed (P := Learns) learns_pure Learns.bind
    (learns_searchAttachment subnets node) items acc

end Learns

/-! ## What the file keeps -/

section Files

variable {σ α β : Type} {answer : (action : signature.Action) → σ → signature.Answer action × σ}
  {files : σ → Files.Tree} {path : String}

/-- Whatever else there is to the answers, files are opened and saved, and requests leave them as they
    are. -/
structure ServesFiles (answer : (action : signature.Action) → σ → signature.Answer action × σ)
    (files : σ → Files.Tree) : Prop where
  opens : ∀ path s, (answer (.openCache path) s).1 = (openCacheIn (files s) path).1 ∧
    files (answer (.openCache path) s).2 = (openCacheIn (files s) path).2
  saves : ∀ path content s,
    files (answer (.saveCache path content) s).2 = (saveCacheIn (files s) path content).2
  leaves : ∀ e s, files (answer (.exchange e) s).2 = files s

/-- Through `World.controlAnswer` files are opened and saved, whatever the control plane is made to fail. -/
theorem servesFiles_world : ServesFiles World.controlAnswer World.files where
  opens _ _ := ⟨rfl, rfl⟩
  saves _ _ _ := rfl
  leaves _ _ := rfl

/-- The cache was opened, or the attempt was made. -/
def OpensCache (path : String) (events : List (Event signature)) : Prop :=
  ∃ e ∈ events, e.action = .openCache path

/-- What a file says `Recalls` what it said before and what was learnt. It was written if it was opened, and
    otherwise it is as it was and no interface was asked for. -/
structure Keeps (path : String) (content content' : List UInt8) (events : List (Event signature)) :
    Prop where
  recalls : Recalls (.ofContent content) (.ofContent content') events
  written : OpensCache path events →
    content' = Utf8.octets (VnicCache.ofContent content').toContent
  untouched : ¬OpensCache path events → content' = content ∧ vnicsAsked events = []

theorem keeps_of_idle {content : List UInt8} {events : List (Event signature)}
    (h : ∀ e ∈ events, AsksElse e.action) : Keeps path content content events := by
  have hidle : vnicsAsked events = [] := vnicsAsked_eq_nil fun e he => (h e he).2
  have hclosed : ¬OpensCache path events := by
    rintro ⟨e, he, hopen⟩
    have hask := (h e he).1
    rw [hopen] at hask
    exact hask
  exact ⟨recalls_of_idle hidle, fun hopen => absurd hopen hclosed, fun _ => ⟨rfl, hidle⟩⟩

theorem Keeps.append {content content' content'' : List UInt8}
    {events events' : List (Event signature)} (h : Keeps path content content' events)
    (h' : Keeps path content' content'' events') :
    Keeps path content content'' (events ++ events') := by
  have hopens : OpensCache path (events ++ events') ↔
      OpensCache path events ∨ OpensCache path events' := by
    simp only [OpensCache, List.mem_append, or_and_right, exists_or]
  refine ⟨h.recalls.append h'.recalls, fun hopen => ?_, fun hclosed => ?_⟩
  · by_cases hlater : OpensCache path events'
    · exact h'.written hlater
    · -- The file stays as it was written before.
      have hbefore := (hopens.1 hopen).resolve_right hlater
      rw [(h'.untouched hlater).1]
      exact h.written hbefore
  · rw [hopens, not_or] at hclosed
    obtain ⟨hsame, hidle⟩ := h.untouched hclosed.1
    obtain ⟨hsame', hidle'⟩ := h'.untouched hclosed.2
    rw [vnicsAsked_append, hidle, hidle', hsame', hsame]
    exact ⟨rfl, rfl⟩

/-- If the file can be opened before a flow, it can be opened after it, and `Keeps` what was learnt. -/
def Remembers (answer : (action : signature.Action) → σ → signature.Answer action × σ)
    (files : σ → Files.Tree) (path : String) (m : Flow signature α) : Prop :=
  ∀ s content, (openCacheIn (files s) path).1 = .ok content →
    ∃ content', (openCacheIn (files (m.run answer s).2) path).1 = .ok content' ∧
      Keeps path content content' (m.events answer s)

theorem Remembers.bind {m : Flow signature α} {f : α → Flow signature β}
    (hm : Remembers answer files path m) (hf : ∀ a, Remembers answer files path (f a)) :
    Remembers answer files path (m.bind f) := by
  intro s content hopen
  obtain ⟨content', hopen', hkeeps⟩ := hm s content hopen
  obtain ⟨content'', hopen'', hkeeps'⟩ := hf _ _ content' hopen'
  rw [Flow.run_bind, Flow.events_bind]
  exact ⟨content'', hopen'', hkeeps.append hkeeps'⟩

/-- Requests leave the files as they are. -/
theorem files_of_only (hserves : ServesFiles answer files) {m : Flow signature α}
    (hm : m.Only IsExchange) (s : σ) : files (m.run answer s).2 = files s := by
  have hstep : ∀ action t, IsExchange action → files t = files s →
      files (answer action t).2 = files s := by
    intro action t h ht
    cases action with
    | exchange e => rw [hserves.leaves, ht]
    | _ => cases h
  exact (hm.throughout (I := fun t => files t = files s) hstep rfl).last

theorem remembers_of_only (hserves : ServesFiles answer files) {m : Flow signature α}
    (hm : m.Only AsksElse) : Remembers answer files path m := by
  intro s content hopen
  rw [files_of_only hserves (hm.mono fun _ h => h.1)]
  exact ⟨content, hopen, keeps_of_idle (hm.ends (m.ends_events answer s))⟩

/-- A search under `withCache` opens the file of the cache, searches, and saves the file however the search
    ends. -/
theorem withCache_run (path : String) (m : Learning α) : (withCache path m).run =
    .ask (.openCache path) fun (opened : Except String (List UInt8)) =>
      match opened with
      | .ok content => (m.run.run (.ofContent content)).bind fun found =>
        .ask (.saveCache path found.2.toContent) fun _ => .done found.1
      | .error message => .done (.error (.cache path message)) := by
  refine congrArg (Flow.ask _) (funext fun opened => ?_)
  cases opened <;> rfl

theorem remembers_withCache (hserves : ServesFiles answer files) {m : Learning α} (hm : Learns m) :
    Remembers answer files path (withCache path m).run := by
  intro s content hopen
  obtain ⟨hopened, hfiles⟩ := hserves.opens path s
  rw [hopen] at hopened
  have hagain := openCacheIn_again hopen
  rw [withCache_run]
  generalize hs₁ : (answer (.openCache path) s).2 = s₁ at hfiles
  have hask : answer (.openCache path) s = (.ok content, s₁) := Prod.ext hopened hs₁
  let search := m.run.run (.ofContent content)
  -- The search itself leaves the files alone, so the file is saved where it was opened.
  have hsearch : files (search.run answer s₁).2 = files s₁ := files_of_only hserves (hm.only _) s₁
  have hrecalls := hm.recalls _ _ _ _ (search.ends_events answer s₁)
  rw [← hfiles, ← hsearch] at hagain
  refine ⟨Utf8.octets (search.run answer s₁).1.2.toContent, ?_, ?_⟩
  · simp only [Flow.run, hask, Flow.run_bind, hserves.saves]
    exact openCacheIn_saved hagain _
  · simp only [Flow.events, hask, Flow.events_bind]
    refine ⟨?_, fun _ => ?_, fun hclosed => ?_⟩
    · rw [VnicCache.ofContent_toContent]
      have hbefore : Recalls (.ofContent content) (.ofContent content)
          [(⟨.openCache path, .ok content⟩ : Event signature)] := recalls_of_idle rfl
      exact hbefore.append (hrecalls.append (recalls_of_idle rfl))
    · rw [VnicCache.ofContent_toContent]
    · exact absurd ⟨_, List.mem_cons_self, rfl⟩ hclosed

theorem Remembers.bind_run {ε : Type} {m : Run ε α} {f : α → Run ε β}
    (hserves : ServesFiles answer files) (hm : Remembers answer files path m.run)
    (hf : ∀ a, Remembers answer files path (f a).run) :
    Remembers answer files path (m >>= f).run := by
  refine Remembers.bind hm fun result => ?_
  cases result with
  | ok a => exact hf a
  | error fault => exact remembers_of_only hserves trivial

/-- Of all that it asks for, `resolveNode` asks for interfaces with the cache open, and for nothing else
    then. -/
theorem remembers_resolveNode (hserves : ServesFiles answer files) (limits : Limits)
    {scope : SearchScope} (hpath : scope.cachePath = path) (node : String) :
    Remembers answer files path (resolveNode limits scope node).run := by
  have helse : ∀ {γ : Type} {m : Run ResolveFault γ}, Fallible.Only AsksElse m →
      Remembers answer files path m.run := fun hm => remembers_of_only hserves hm
  have hname : Fallible.Only AsksElse (runningByName limits scope node) :=
    only_foldPages (Fallible.only_throw _) (fun page => only_requestNode ⟨trivial, rfl⟩)
      (fun _ _ => Fallible.only_pure _) _ _ _
  have hsubnets : ∀ compartmentId, Fallible.Only AsksElse (subnetIds limits scope compartmentId) :=
    fun _ => only_foldPages (Fallible.only_throw _) (fun page => only_requestNode ⟨trivial, rfl⟩)
      (fun _ _ => Fallible.only_pure _) _ _ _
  have hvnic : Remembers answer files path (runningByVnic limits scope node).run := by
    rw [runningByVnic_eq, hpath]
    refine .bind_run hserves (helse (only_requestNode ⟨trivial, rfl⟩)) fun vcn => ?_
    refine .bind_run hserves (helse (hsubnets vcn.compartmentId)) fun subnets => ?_
    split
    · exact helse (Fallible.only_throw _)
    · exact remembers_withCache hserves (learns_searchVnics limits scope subnets node)
  refine .bind_run hserves (helse hname) fun found => ?_
  split
  · exact helse (Fallible.only_pure _)
  · refine .bind_run hserves hvnic fun found => ?_
    split
    · exact helse (Fallible.only_pure _)
    · exact helse (Fallible.only_throw _)

/-- A search for a node. -/
structure NodeSearch where
  limits : Limits := {}
  scope : SearchScope
  node : String

/-- What comes of a search, be it an instance or a fault. -/
def NodeSearch.result (q : NodeSearch) : Flow signature (Except ResolveFault Instance) :=
  (resolveNode q.limits q.scope q.node).run

/-- **No interface is fetched twice or forgotten.** Whatever the control plane answers or refuses, a search
    for a node `Remembers`: where it finds a file that can be opened, it leaves one that says what it said
    before and what was learnt since; it asks for nothing that the file says, and learns nothing twice. The
    same holds of any number of searches with the same file one after the other, whether they find their
    nodes or not. -/
theorem searches_remember (hserves : ServesFiles answer files) (path : String) :
    (∀ q : NodeSearch, q.scope.cachePath = path → Remembers answer files path q.result) ∧
      ∀ searches : List NodeSearch, (∀ q ∈ searches, q.scope.cachePath = path) →
        Remembers answer files path (searches.mapM NodeSearch.result) := by
  have hone : ∀ q : NodeSearch, q.scope.cachePath = path → Remembers answer files path q.result :=
    fun q hq => remembers_resolveNode hserves q.limits hq q.node
  refine ⟨hone, fun searches hsearches => ?_⟩
  induction searches with
  | nil => exact remembers_of_only hserves trivial
  | cons q searches ih =>
    rw [List.mapM_cons]
    refine Remembers.bind (hone q (hsearches q List.mem_cons_self)) fun result => ?_
    refine Remembers.bind (ih fun q' hq' => hsearches q' (List.mem_cons_of_mem q hq')) fun results => ?_
    exact remembers_of_only hserves trivial

end Files

/-- The world `workersWorld`, but the first request for an instance is refused. -/
def refusingWorkers : World :=
  { workersWorld with
    cloud := workersWorld.cloud.failNext "GetInstance" (Cloud.notFound "GetInstance" "three") }

/-- Two searches for the same node. -/
def secondTry : List NodeSearch :=
  [⟨{}, workersScope, "worker-1"⟩, ⟨{}, workersScope, "worker-1"⟩]

/-- In `refusingWorkers`, the first search fails after it has asked for one interface. The second one asks
    for another, and neither asks for the one that the file knew from the start. -/
theorem searches_remember_refusingWorkers :
    let searches := secondTry.mapM NodeSearch.result
    let events := searches.events World.controlAnswer refusingWorkers
    (∃ content, (openCacheIn (searches.run World.controlAnswer refusingWorkers).2.files
        VnicCache.fileName).1 = .ok content ∧
      Keeps VnicCache.fileName (Utf8.octets workersCache.toContent) content events) ∧
      vnicsAsked events = ["d", "b"] := by
  have hpath : ∀ q ∈ secondTry, q.scope.cachePath = VnicCache.fileName := by
    intro q hq
    simp only [secondTry, List.mem_cons, List.not_mem_nil, or_false, or_self] at hq
    rw [hq]
    rfl
  have hremembers :=
    (searches_remember servesFiles_world VnicCache.fileName).2 secondTry hpath
  exact ⟨hremembers refusingWorkers _ rfl, by decide +kernel⟩

end VolumeDriver.InMemory
