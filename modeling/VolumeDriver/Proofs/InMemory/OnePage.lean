import VolumeDriver.Proofs.InMemory.NodeNames
import VolumeDriver.Proofs.InMemory.PagedSearch
set_option autoImplicit false

/-! # Listings in many pages and in one

Two worlds that differ only in how many items a page has cannot be told apart by what the searches come to.
`Agrees` compares two flows, each in its own world of the two. It is kept by sequences, so a flow is compared
with itself request by request; only where listings are read do the two take different ways, and there both
come to what one step with the whole listing does (`agrees_foldPages`). -/

namespace VolumeDriver.InMemory

open ControlPlane Controller

/-! ## Two worlds -/

/-- The control plane that gives out whole listings. -/
def Cloud.onePage (c : Cloud) : Cloud :=
  { c with pageSize := none }

/-- The world with a control plane that gives out whole listings. -/
def World.onePage (w : World) : World :=
  { w with cloud := w.cloud.onePage }

/-- The first of two worlds has this control plane and the second one the same without pages
    (`Cloud.onePage`). Apart from what is on record they are the same otherwise. -/
structure ApartFromPages (c : Cloud) (w w' : World) : Prop where
  paged : w.Holds c
  whole : w'.Holds c.onePage
  beside : w' = { w with cloud := w'.cloud }

theorem apartFromPages_onePage (w : World) : ApartFromPages w.cloud w w.onePage :=
  ⟨w.holds_self, w.onePage.holds_self, rfl⟩

variable {c : Cloud} {w w' : World} {limits limits' : Limits}

theorem Readable.onePage (h : Readable c limits) (hpages : 1 ≤ limits'.pages) :
    Readable c.onePage limits' where
  calm := h.calm
  size := nofun
  long l := by
    have hlong := h.long l
    cases l with
    | instances compartmentId displayName => cases displayName <;> exact hlong
    | _ => exact hlong
  pages _ := hpages

/-! ## Two flows -/

variable {α β : Type}

/-- Two flows come to the same in worlds that are alike, and the worlds are alike then
    (`ApartFromPages`). -/
def Agrees (c : Cloud) (m m' : Flow signature α) : Prop :=
  ∀ w w', ApartFromPages c w w' →
    (m.run World.controlAnswer w).1 = (m'.run World.controlAnswer w').1 ∧
      ApartFromPages c (m.run World.controlAnswer w).2 (m'.run World.controlAnswer w').2

theorem agrees_done (a : α) : Agrees c (.done a) (.done a) :=
  fun _ _ h => ⟨rfl, h⟩

theorem Agrees.bind {m m' : Flow signature α} {f f' : α → Flow signature β} (hm : Agrees c m m')
    (hf : ∀ a, Agrees c (f a) (f' a)) : Agrees c (m.bind f) (m'.bind f') := by
  intro w w' h
  obtain ⟨hanswer, hafter⟩ := hm w w' h
  rw [Flow.run_bind, Flow.run_bind, ← hanswer]
  exact hf _ _ _ hafter

/-- Two flows agree that agree with a third one where there are no pages. -/
theorem Agrees.both {m m' n : Flow signature α} (hm : Agrees c m n) (hm' : Agrees c.onePage m' n) :
    Agrees c m m' := by
  intro w w' h
  have hwhole : ApartFromPages c.onePage w' w' := ⟨h.whole, h.whole, rfl⟩
  obtain ⟨hanswer, hafter⟩ := hm w w' h
  obtain ⟨hanswer', hafter'⟩ := hm' w' w' hwhole
  have hbeside := hafter'.beside.symm.trans hafter.beside
  exact ⟨hanswer.trans hanswer'.symm, hafter.paged, hafter'.paged,
    congrArg (fun v : World => { v with cloud := (m'.run World.controlAnswer w').2.cloud }) hbeside⟩

/-- What only concerns files is the same in both worlds of `Agrees`. -/
theorem agrees_files {action : Action} (serve : Files.Tree → action.Answer × Files.Tree)
    (h : ∀ w : World, w.control action = ((serve w.files).1, { w with files := (serve w.files).2 })) :
    Agrees c (Flow.perform (S := signature) action) (Flow.perform (S := signature) action) := by
  intro w w' hw
  have hfiles : w'.files = w.files := (congrArg World.files hw.beside :)
  show (w.control action).1 = (w'.control action).1 ∧
    ApartFromPages c (w.control action).2 (w'.control action).2
  rw [h w, h w', hfiles]
  exact ⟨rfl, hw.paged, hw.whole,
    congrArg (fun v : World => { v with files := (serve w.files).2 }) hw.beside⟩

/-! ### Flows that may fail -/

section Runs

variable {ε ε' : Type}

/-- Two flows that may fail agree, whether or not they do. -/
def RunAgrees (c : Cloud) (m m' : Run ε α) : Prop :=
  Agrees c m.run m'.run

theorem runAgrees_pure (a : α) : RunAgrees c (pure a : Run ε α) (pure a) :=
  agrees_done _

theorem runAgrees_throw (fault : ε) : RunAgrees c (throw fault : Run ε α) (throw fault) :=
  agrees_done _

theorem RunAgrees.bind {m m' : Run ε α} {f f' : α → Run ε β} (hm : RunAgrees c m m')
    (hf : ∀ a, RunAgrees c (f a) (f' a)) : RunAgrees c (m >>= f) (m' >>= f') := by
  have hbind : Agrees c (m.run.bind (ExceptT.bindCont f)) (m'.run.bind (ExceptT.bindCont f')) := by
    refine Agrees.bind hm fun result => ?_
    cases result with
    | ok a => exact hf a
    | error fault => exact agrees_done _
  exact hbind

theorem RunAgrees.wrap {m m' : Run ε' α} (hm : RunAgrees c m m') (f : ε' → ε) :
    RunAgrees c (Fallible.wrap f m) (Fallible.wrap f m') := by
  refine Agrees.bind (show Agrees c m.run m'.run from hm) fun result => ?_
  cases result with
  | ok a => exact agrees_done _
  | error fault => exact agrees_done _

/-- What a flow always comes to, only going on record, it comes to in one world alone. -/
theorem agrees_of_runs {m : Run ε α} {result : Except ε α} {operations : List String}
    (hm : ∀ w : World, w.Holds c →
      Fallible.runs World.controlAnswer m w = (result, w.asked operations)) :
    Agrees c m.run (.done result) := by
  intro w w' h
  have hrun : m.run.run World.controlAnswer w = (result, w.asked operations) := hm w h.paged
  rw [hrun]
  exact ⟨rfl, h.paged.asked _, h.whole, h.beside⟩

/-- What comes to a value in that way and is gone on with. -/
theorem runAgrees_ask {m : Run ε α} {a : α} {operation : String}
    (hm : ∀ w : World, w.Holds c →
      Fallible.runs World.controlAnswer m w = (.ok a, w.asked [operation]))
    {f : α → Run ε β} {m' : Run ε β} (hf : RunAgrees c (f a) m') : RunAgrees c (m >>= f) m' := by
  intro w w' h
  have hrun : (m >>= f).run.run World.controlAnswer w =
      (f a).run.run World.controlAnswer (w.asked [operation]) :=
    Fallible.runs_bind_ok (hm w h.paged)
  rw [hrun]
  exact hf _ _ ⟨h.paged.asked _, h.whole, h.beside⟩

/-- A request that is answered the same in both worlds of `RunAgrees` and changes neither. -/
theorem runAgrees_request (hcalm : c.failures.Drained) {e : Exchange} {answer : Except Fault e.Answer}
    (h : c.respond e = (answer, c)) (h' : c.onePage.respond e = (answer, c.onePage)) :
    RunAgrees c (request e) (request e) := by
  intro w w' hw
  have hrun : (request e).run.run World.controlAnswer w = (answer, w.asked [e.operation]) :=
    runs_request hcalm h hw.paged
  have hrun' : (request e).run.run World.controlAnswer w' = (answer, w'.asked [e.operation]) :=
    runs_request (c := c.onePage) hcalm h' hw.whole
  rw [hrun, hrun']
  exact ⟨rfl, hw.paged.asked _, hw.whole.asked _,
    congrArg (fun v : World => { v with cloud := (w'.asked [e.operation]).cloud }) hw.beside⟩

end Runs

/-! ### Flows that learn -/

/-- Two flows that learn about interfaces agree, whatever they have learnt before. -/
def LearningAgrees (c : Cloud) (m m' : Learning α) : Prop :=
  ∀ cache, Agrees c (m.run cache) (m'.run cache)

theorem learningAgrees_pure (a : α) : LearningAgrees c (pure a) (pure a) :=
  fun _ => agrees_done _

theorem LearningAgrees.bind {m m' : Learning α} {f f' : α → Learning β} (hm : LearningAgrees c m m')
    (hf : ∀ a, LearningAgrees c (f a) (f' a)) : LearningAgrees c (m >>= f) (m' >>= f') := by
  intro cache
  refine Agrees.bind (hm cache) fun learnt => ?_
  obtain ⟨result, cache⟩ := learnt
  cases result with
  | ok a => exact hf a cache
  | error fault => exact agrees_done _

theorem learningAgrees_nothing {m m' : Run ResolveFault α} (hm : RunAgrees c m m') :
    LearningAgrees c (learningNothing m) (learningNothing m') :=
  fun _ => Agrees.bind hm fun _ => agrees_done _

theorem learningAgrees_ask {m : Run ResolveFault α} {a : α} {operation : String}
    (hm : ∀ w : World, w.Holds c →
      Fallible.runs World.controlAnswer m w = (.ok a, w.asked [operation]))
    {f : α → Learning β} {m' : Learning β} (hf : LearningAgrees c (f a) m') :
    LearningAgrees c (learningNothing m >>= f) m' := by
  intro cache w w' h
  have hm' : m.run.run World.controlAnswer w = (.ok a, w.asked [operation]) := hm w h.paged
  have hnothing : ((learningNothing m).run cache).run World.controlAnswer w =
      ((.ok a, cache), w.asked [operation]) := by
    refine (Flow.run_bind World.controlAnswer m.run _ w).trans ?_
    rw [hm']
    rfl
  have hrun : ((learningNothing m >>= f).run cache).run World.controlAnswer w =
      ((f a).run cache).run World.controlAnswer (w.asked [operation]) := by
    refine (Flow.run_bind World.controlAnswer ((learningNothing m).run cache) _ w).trans ?_
    rw [hnothing]
    rfl
  rw [hrun]
  exact hf cache _ _ ⟨h.paged.asked _, h.whole, h.beside⟩

/-! ## Reading listings -/

/-- **To read a listing page by page is to take one step with all of it.** `A` may be any relation between
    flows that sequences keep, and that disregards a request for a page in the first of them. -/
theorem agrees_foldPages {m : Type → Type} [Monad m] [LawfulMonad m]
    {A : {γ : Type} → m γ → m γ → Prop}
    (hbind : ∀ {γ δ : Type} {x y : m γ} {f g : γ → m δ}, A x y → (∀ a, A (f a) (g a)) →
      A (x >>= f) (y >>= g))
    {items : List α} {list : Option String → m (Page α)}
    (hlist : ∀ {γ : Type} (page : Option String) {f : Page α → m γ} {y : m γ},
      A (f (c.paginate items page)) y → A (list page >>= f) y)
    {step : β → List α → m β} (hstep : ∀ acc part, A (step acc part) (step acc part))
    (happend : ∀ acc part rest, step acc (part ++ rest) = step acc part >>= fun acc => step acc rest)
    (hsize : c.pageSize ≠ some 0) (hlong : items.length < UInt64.size) (endless : m β) {pages : Nat}
    (acc : β) (page : Option String)
    (hpages : pageCount c.pageSize (items.length - Cloud.offset page) ≤ pages) :
    A (foldPages endless list step pages acc page) (step acc (items.drop (Cloud.offset page))) := by
  -- The one step is taken apart at the end of each page, and its rest is compared with the rest of the pages.
  induction pages generalizing acc page with
  | zero => exact absurd hpages (Nat.not_le_of_gt (pageCount_pos hsize))
  | succ pages ih =>
    refine hlist page ?_
    rcases Cloud.paginate_cases hsize hlong page with
      ⟨hlast, -⟩ | ⟨size, token, hsome, hpos, htoken, hmore, hpage⟩
    · rw [hlast]
      dsimp only
      rw [bind_pure]
      exact hstep acc _
    · have hrest : items.drop (Cloud.offset page) = _ := Cloud.drop_page htoken
      have hfew : pageCount c.pageSize (items.length - Cloud.offset (some token)) ≤ pages := by
        rw [Cloud.pageCount_page hsome hpos htoken hmore] at hpages
        exact Nat.le_of_succ_le_succ hpages
      rw [hpage, hrest, happend, ← hrest]
      exact hbind (hstep acc _) fun acc => ih acc (some token) hfew

/-! ## Where the first match is the answer -/

section Target

variable (h : Readable c limits) (hpages : 1 ≤ limits'.pages)

include h hpages

theorem runAgrees_findAttachment (compartmentId volumeId : String) :
    RunAgrees c (findAttachment limits compartmentId volumeId)
      (findAttachment limits' compartmentId volumeId) :=
  Agrees.both (agrees_of_runs fun _ hw => runs_findAttachment h hw compartmentId volumeId)
    (agrees_of_runs fun _ hw => runs_findAttachment (h.onePage hpages) hw compartmentId volumeId)

theorem runAgrees_findExport (t : ExportTarget) :
    RunAgrees c (findExport limits t) (findExport limits' t) :=
  Agrees.both (agrees_of_runs fun _ hw => runs_findExport h hw t)
    (agrees_of_runs fun _ hw => runs_findExport (h.onePage hpages) hw t)

theorem runAgrees_activeMountTarget (compartmentId domain : String) :
    RunAgrees c (activeMountTarget limits compartmentId domain)
      (activeMountTarget limits' compartmentId domain) :=
  Agrees.both (agrees_of_runs fun _ hw => runs_activeMountTarget h hw compartmentId domain)
    (agrees_of_runs fun _ hw => runs_activeMountTarget (h.onePage hpages) hw compartmentId domain)

theorem runAgrees_resolveTarget (compartmentId fileSystemId : String) :
    RunAgrees c (resolveTarget limits compartmentId fileSystemId)
      (resolveTarget limits' compartmentId fileSystemId) := by
  unfold resolveTarget
  refine RunAgrees.bind ((runAgrees_request h.calm rfl rfl).wrap _) fun fileSystem => ?_
  refine RunAgrees.bind (runAgrees_activeMountTarget h hpages _ _) fun mountTarget => ?_
  split
  · exact runAgrees_throw _
  · exact RunAgrees.bind ((runAgrees_request h.calm rfl rfl).wrap _) fun _ => runAgrees_pure _

end Target

/-! ## The search for a node -/

section Node

variable {scope : SearchScope} {node : String} {subnets : List String}

theorem runAgrees_runningByName_whole (h : Readable c limits) :
    RunAgrees c (runningByName limits scope node) (pure (c.foundByName node)) := by
  let items := c.instances.filter fun i => i.displayName = node
  have hlist : ∀ page (w : World), w.Holds c → Fallible.runs World.controlAnswer
      (requestNode (.listInstances scope.compartmentId (some node) page)) w =
        (.ok (c.paginate items page), w.asked ["ListInstances"]) :=
    fun _ _ hw => runs_requested h.calm rfl hw _
  have hlong : items.length < UInt64.size := h.long (.instances scope.compartmentId (some node))
  -- The control plane has sorted the instances by name, and they are sorted once more.
  have hfound : [] ++ items.filter (fun i => i.displayName = node && i.state = .running) =
      c.foundByName node := by
    rw [List.nil_append, List.filter_filter, Cloud.foundByName]
    refine List.filter_congr fun i _ => ?_
    by_cases hname : i.displayName = node <;> simp [hname]
  rw [← hfound]
  exact agrees_foldPages (A := RunAgrees c) RunAgrees.bind
    (fun page _ _ hrest => runAgrees_ask (hlist page) hrest) (fun _ _ => runAgrees_pure _) (by simp)
    h.size hlong _ [] none (h.pages (.instances scope.compartmentId (some node)))

theorem runAgrees_subnetIds_whole (h : Readable c limits) (compartmentId : String) :
    RunAgrees c (subnetIds limits scope compartmentId)
      (pure ((c.subnets.filter fun s => s.vcnId = scope.vcnId).map Subnet.id)) := by
  let items := c.subnets.filter fun s => s.vcnId = scope.vcnId
  have hlist : ∀ page (w : World), w.Holds c → Fallible.runs World.controlAnswer
      (requestNode (.listSubnets compartmentId scope.vcnId page)) w =
        (.ok (c.paginate items page), w.asked ["ListSubnets"]) :=
    fun _ _ hw => runs_requested h.calm rfl hw _
  have hlong : items.length < UInt64.size := h.long (.subnets compartmentId scope.vcnId)
  exact agrees_foldPages (A := RunAgrees c) RunAgrees.bind
    (fun page _ _ hrest => runAgrees_ask (hlist page) hrest) (fun _ _ => runAgrees_pure _) (by simp)
    h.size hlong _ [] none (h.pages (.subnets compartmentId scope.vcnId))

theorem learningAgrees_knownVnic (hcalm : c.failures.Drained) (id : String) :
    LearningAgrees c (knownVnic id) (knownVnic id) := by
  unfold knownVnic
  refine LearningAgrees.bind (fun cache => agrees_done _) fun cache => ?_
  split
  · exact learningAgrees_pure _
  · refine LearningAgrees.bind (learningAgrees_nothing
      ((runAgrees_request hcalm rfl rfl).wrap _)) fun vnic => ?_
    exact LearningAgrees.bind (fun cache => agrees_done _) fun _ => learningAgrees_pure _

theorem learningAgrees_searchAttachment (hcalm : c.failures.Drained) (search : Search)
    (a : VnicAttachment) :
    LearningAgrees c (searchAttachment subnets node search a)
      (searchAttachment subnets node search a) := by
  unfold searchAttachment
  split
  · exact learningAgrees_pure _
  · split
    · refine LearningAgrees.bind (learningAgrees_knownVnic hcalm _) fun vnic => ?_
      split
      · exact learningAgrees_pure _
      · refine LearningAgrees.bind (learningAgrees_nothing
          ((runAgrees_request hcalm rfl rfl).wrap _)) fun machine => ?_
        split <;> exact learningAgrees_pure _
    · exact learningAgrees_pure _

/-- The search of attachments that are all at hand. -/
def searchAll (attachments : List VnicAttachment) (subnets : List String) (node : String) :
    Learning (List Instance) := do
  let search ← attachments.foldlM (searchAttachment subnets node) {}
  return search.running

theorem learningAgrees_searchVnics_whole (h : Readable c limits) :
    LearningAgrees c (searchVnics limits scope subnets node)
      (searchAll c.vnicAttachments subnets node) := by
  have hstep : ∀ (search : Search) (part : List VnicAttachment),
      LearningAgrees c (part.foldlM (searchAttachment subnets node) search)
        (part.foldlM (searchAttachment subnets node) search) :=
    fun search part => foldlM_closed (P := fun m => LearningAgrees c m m) learningAgrees_pure
      LearningAgrees.bind (learningAgrees_searchAttachment h.calm) part search
  have hlist : ∀ page (w : World), w.Holds c → Fallible.runs World.controlAnswer
      (requestNode (.listVnicAttachments scope.compartmentId page)) w =
        (.ok (c.paginate c.vnicAttachments page), w.asked ["ListVnicAttachments"]) :=
    fun _ _ hw => runs_requested h.calm rfl hw _
  have hlong : c.vnicAttachments.length < UInt64.size := h.long (.vnicAttachments scope.compartmentId)
  unfold searchVnics searchAll
  refine LearningAgrees.bind ?_ fun search => learningAgrees_pure _
  exact agrees_foldPages (A := LearningAgrees c) LearningAgrees.bind
    (fun page _ _ hrest => learningAgrees_ask (hlist page) hrest) hstep
    (fun _ _ _ => List.foldlM_append) h.size hlong _ {} none
    (h.pages (.vnicAttachments scope.compartmentId))

variable (h : Readable c limits) (hpages : 1 ≤ limits'.pages)

include h hpages

theorem runAgrees_runningByName :
    RunAgrees c (runningByName limits scope node) (runningByName limits' scope node) :=
  Agrees.both (runAgrees_runningByName_whole h) (runAgrees_runningByName_whole (h.onePage hpages))

theorem runAgrees_subnetIds (compartmentId : String) :
    RunAgrees c (subnetIds limits scope compartmentId) (subnetIds limits' scope compartmentId) :=
  Agrees.both (runAgrees_subnetIds_whole h compartmentId)
    (runAgrees_subnetIds_whole (h.onePage hpages) compartmentId)

theorem learningAgrees_searchVnics :
    LearningAgrees c (searchVnics limits scope subnets node)
      (searchVnics limits' scope subnets node) :=
  fun cache => Agrees.both (learningAgrees_searchVnics_whole h cache)
    (learningAgrees_searchVnics_whole (h.onePage hpages) cache)

end Node

theorem runAgrees_withCache {m m' : Learning α} (path : String) (hm : LearningAgrees c m m') :
    RunAgrees c (withCache path m) (withCache path m') := by
  have hopen : RunAgrees c
      (.ofFlow (Flow.perform (S := signature) (.openCache path)) : Run String (List UInt8))
      (.ofFlow (Flow.perform (S := signature) (.openCache path))) :=
    agrees_files (openCacheIn · path) fun _ => rfl
  refine RunAgrees.bind (hopen.wrap _) fun content => ?_
  refine Agrees.bind (hm _) fun searched => ?_
  have hsave : Agrees c (Flow.perform (S := signature) (.saveCache path searched.2.toContent))
      (Flow.perform (S := signature) (.saveCache path searched.2.toContent)) :=
    agrees_files (saveCacheIn · path searched.2.toContent) fun _ => rfl
  exact Agrees.bind hsave fun _ => agrees_done _

theorem runAgrees_resolveNode (h : Readable c limits) (hpages : 1 ≤ limits'.pages)
    (scope : SearchScope) (node : String) :
    RunAgrees c (resolveNode limits scope node) (resolveNode limits' scope node) := by
  have hvnic : RunAgrees c (runningByVnic limits scope node) (runningByVnic limits' scope node) := by
    rw [runningByVnic_eq, runningByVnic_eq]
    refine RunAgrees.bind ((runAgrees_request h.calm rfl rfl).wrap _) fun vcn => ?_
    refine RunAgrees.bind (runAgrees_subnetIds h hpages _) fun subnets => ?_
    split
    · exact runAgrees_throw _
    · exact runAgrees_withCache _ (learningAgrees_searchVnics h hpages)
  unfold resolveNode
  refine RunAgrees.bind (runAgrees_runningByName h hpages) fun found => ?_
  split
  · exact runAgrees_pure _
  · refine RunAgrees.bind hvnic fun found => ?_
    split
    · exact runAgrees_pure _
    · exact runAgrees_throw _

/-! ## Nothing of all this shows pages -/

/-- The first flow, where listings come in pages, comes to what the second one comes to where they do not
    (`World.onePage`), and leaves the same behind. -/
def SameOnOnePage (w : World) (m m' : Flow signature α) : Prop :=
  (m.run World.controlAnswer w).1 = (m'.run World.controlAnswer w.onePage).1 ∧
    ApartFromPages w.cloud (m.run World.controlAnswer w).2 (m'.run World.controlAnswer w.onePage).2

/-- What is searched for is found whether listings come in pages of `k` items or whole, and what is gathered is
    gathered from all there is. Where the first match is the answer, no page after its own is asked for. -/
structure PagesUnseen (w : World) (k : Nat) (limits limits' : Limits) : Prop where
  attachment : ∀ compartmentId volumeId,
    let items := w.cloud.attachments.filter fun a => a.volumeId = volumeId
    SameOnOnePage w (findAttachment limits compartmentId volumeId).run
        (findAttachment limits' compartmentId volumeId).run ∧
      Fallible.runs World.controlAnswer (findAttachment limits compartmentId volumeId) w =
        (found volumeId (items.find? (·.state.isLive)),
          w.asked (List.replicate (pagesUntil (some k) (·.state.isLive) items) "ListVolumeAttachments"))
  exported : ∀ t : ExportTarget,
    let isSought : Export → Bool := fun e => e.path = t.path && e.state.isLive
    SameOnOnePage w (findExport limits t).run (findExport limits' t).run ∧
      Fallible.runs World.controlAnswer (findExport limits t) w =
        (.ok ((w.cloud.exportsFor t).find? isSought),
          w.asked (List.replicate (pagesUntil (some k) isSought (w.cloud.exportsFor t)) "ListExports"))
  mountTarget : ∀ compartmentId domain,
    let items := w.cloud.mountTargets.filter fun t => t.availabilityDomain = domain
    SameOnOnePage w (activeMountTarget limits compartmentId domain).run
        (activeMountTarget limits' compartmentId domain).run ∧
      Fallible.runs World.controlAnswer (activeMountTarget limits compartmentId domain) w =
        (foundTarget domain (items.find? (·.state = .active)),
          w.asked (List.replicate (pagesUntil (some k) (·.state = .active) items) "ListMountTargets"))
  target : ∀ compartmentId fileSystemId,
    SameOnOnePage w (resolveTarget limits compartmentId fileSystemId).run
      (resolveTarget limits' compartmentId fileSystemId).run
  byName : ∀ scope node,
    SameOnOnePage w (runningByName limits scope node).run (runningByName limits' scope node).run ∧
      (Fallible.runs World.controlAnswer (runningByName limits scope node) w).1 =
        .ok (w.cloud.foundByName node)
  subnets : ∀ scope compartmentId,
    SameOnOnePage w (subnetIds limits scope compartmentId).run
        (subnetIds limits' scope compartmentId).run ∧
      (Fallible.runs World.controlAnswer (subnetIds limits scope compartmentId) w).1 =
        .ok ((w.cloud.subnets.filter fun s => s.vcnId = scope.vcnId).map Subnet.id)
  vnics : ∀ scope subnets node (cache : VnicCache),
    SameOnOnePage w ((searchVnics limits scope subnets node).run cache)
        ((searchVnics limits' scope subnets node).run cache) ∧
      SameOnOnePage w ((searchVnics limits scope subnets node).run cache)
        ((searchAll w.cloud.vnicAttachments subnets node).run cache)
  node : ∀ scope node,
    SameOnOnePage w (resolveNode limits scope node).run (resolveNode limits' scope node).run

theorem Agrees.onePage {m m' : Flow signature α} (h : Agrees w.cloud m m') : SameOnOnePage w m m' :=
  h w w.onePage (apartFromPages_onePage w)

theorem pagesUnseen {k : Nat} (h : Readable w.cloud limits) (hsize : w.cloud.pageSize = some k)
    (hpages : 1 ≤ limits'.pages) : PagesUnseen w k limits limits' where
  attachment compartmentId volumeId := by
    have hruns := runs_findAttachment h w.holds_self compartmentId volumeId
    rw [hsize] at hruns
    exact ⟨(runAgrees_findAttachment h hpages compartmentId volumeId).onePage, hruns⟩
  exported t := by
    have hruns := runs_findExport h w.holds_self t
    rw [hsize] at hruns
    exact ⟨(runAgrees_findExport h hpages t).onePage, hruns⟩
  mountTarget compartmentId domain := by
    have hruns := runs_activeMountTarget h w.holds_self compartmentId domain
    rw [hsize] at hruns
    exact ⟨(runAgrees_activeMountTarget h hpages compartmentId domain).onePage, hruns⟩
  target compartmentId fileSystemId :=
    (runAgrees_resolveTarget h hpages compartmentId fileSystemId).onePage
  byName _ _ :=
    ⟨(runAgrees_runningByName h hpages).onePage, (runAgrees_runningByName_whole h).onePage.1⟩
  subnets _ compartmentId :=
    ⟨(runAgrees_subnetIds h hpages compartmentId).onePage,
      (runAgrees_subnetIds_whole h compartmentId).onePage.1⟩
  vnics _ _ _ cache :=
    ⟨(learningAgrees_searchVnics h hpages cache).onePage,
      (learningAgrees_searchVnics_whole h cache).onePage⟩
  node scope node := (runAgrees_resolveNode h hpages scope node).onePage

/-- Whatever is listed, there are not more items than there are things. -/
theorem Listing.length_items_le (l : Listing) (c : Cloud) :
    (l.items c).length ≤ c.attachments.length + c.instances.length + c.subnets.length +
      c.vnicAttachments.length + c.mountTargets.length + c.exports.length := by
  cases l with
  | attachments _ _ => exact Nat.le_trans (List.length_filter_le _ c.attachments) (by omega)
  | instances _ displayName =>
    cases displayName with
    | none => exact Nat.le_trans (Nat.le_refl c.instances.length) (by omega)
    | some _ => exact Nat.le_trans (List.length_filter_le _ c.instances) (by omega)
  | subnets _ _ => exact Nat.le_trans (List.length_filter_le _ c.subnets) (by omega)
  | vnicAttachments _ => exact Nat.le_trans (Nat.le_refl c.vnicAttachments.length) (by omega)
  | mountTargets _ _ => exact Nat.le_trans (List.length_filter_le _ c.mountTargets) (by omega)
  | exports _ _ => exact Nat.le_trans (List.length_filter_le _ c.exports) (by omega)

/-- **Pages do not show.** However few items a page has, each `Listing` can be followed to its end in one
    way only, which brings every item once and in order on as many pages as the items fill; and some number
    of pages is enough for all listings. With as many to be read, what is searched for is found as it is
    where there is one page (`SameOnOnePage`), which takes one page to be read. -/
theorem paging_unseen {k : Nat} (hcalm : w.Calm) (hsize : w.cloud.pageSize = some k) (hpos : 0 < k)
    (hlong : ∀ l : Listing, (l.items w.cloud).length < UInt64.size) :
    (∀ l : Listing, ∃ parts, l.Reads none w.cloud parts
        (w.cloud.asked (List.replicate parts.length l.operation)) ∧
      (∀ parts' c', l.Reads none w.cloud parts' c' → parts' = parts) ∧
      parts.flatMap Page.items = l.items w.cloud ∧
      parts.length = max 1 (((l.items w.cloud).length + (k - 1)) / k)) ∧
    (∃ enough, ∀ limits : Limits, enough ≤ limits.pages →
      ∀ l : Listing, pageCount (some k) (l.items w.cloud).length ≤ limits.pages) ∧
    ∀ limits limits' : Limits,
      (∀ l : Listing, pageCount (some k) (l.items w.cloud).length ≤ limits.pages) →
      1 ≤ limits'.pages → PagesUnseen w k limits limits' := by
  have hsome : some k ≠ some 0 := by
    rintro ⟨⟩
    exact Nat.lt_irrefl 0 hpos
  refine ⟨fun l => ?_, ?_, fun limits limits' henough hone => ?_⟩
  · obtain ⟨parts, hreads, hitems, hlength⟩ :=
      Listing.exists_reads hcalm (hsize ▸ hsome) (hlong l) none []
    rw [Cloud.asked_nil] at hreads
    rw [hsize] at hlength
    exact ⟨parts, hreads, fun parts' c' hreads' => (hreads'.unique hreads).1, hitems, hlength⟩
  · refine ⟨w.cloud.attachments.length + w.cloud.instances.length + w.cloud.subnets.length +
      w.cloud.vnicAttachments.length + w.cloud.mountTargets.length + w.cloud.exports.length + 1, ?_⟩
    intro limits henough l
    have hpages := pageCount_le hsome (l.items w.cloud).length
    have hitems := l.length_items_le w.cloud
    omega
  · exact pagesUnseen ⟨hcalm, hsize ▸ hsome, hlong, hsize ▸ henough⟩ hsize hone

/-- In `workersWorld`, where a page has one item, four attachments of interfaces are read on four pages, and
    the node is found as on one page. -/
theorem paging_unseen_workersWorld :
    (∃ parts c', (Listing.vnicAttachments "compartment").Reads none workersWorld.cloud parts c' ∧
      parts.length = 4) ∧
    SameOnOnePage workersWorld (resolveNode {} workersScope "worker-1").run
      (resolveNode ⟨{}, 1⟩ workersScope "worker-1").run := by
  have hlong : ∀ l : Listing, (l.items workersWorld.cloud).length ≤ 9 :=
    fun l => l.length_items_le workersWorld.cloud
  obtain ⟨hreads, -, hsearches⟩ := paging_unseen (w := workersWorld) (by decide) rfl Nat.one_pos
    fun l => Nat.lt_of_le_of_lt (hlong l) (by decide)
  refine ⟨?_, ?_⟩
  · obtain ⟨parts, hparts, -, -, hlength⟩ := hreads (.vnicAttachments "compartment")
    exact ⟨parts, _, hparts, hlength⟩
  · refine (hsearches {} ⟨{}, 1⟩ (fun l => ?_) (Nat.le_refl 1)).node workersScope "worker-1"
    have hpages : pageCount (some 1) (l.items workersWorld.cloud).length ≤ _ :=
      pageCount_le (by decide) _
    have := hlong l
    show _ ≤ 1000000
    omega

end VolumeDriver.InMemory
