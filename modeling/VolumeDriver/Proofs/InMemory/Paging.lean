import VolumeDriver.Proofs.InMemory.Listing
set_option autoImplicit false

/-! # Following a listing from page to page

Six exchanges bring a page of a listing. Who begins with the first page and goes on with the page that each
one names comes to the end of the listing, has read every item of it once and in order by then, and has
asked for no more pages than the items fill, or for one if there are none (`Listing.exists_reads`). -/

namespace VolumeDriver.InMemory

open ControlPlane

/-! ## Counting pages -/

/-- The page that an item is on. Both are counted from 0. -/
def pageOf : Option Nat → Nat → Nat
  | some size, i => i / size
  | none, _ => 0

/-- The number of pages of a listing. One without items has one page. -/
def pageCount : Option Nat → Nat → Nat
  | some size, n => max 1 ((n + (size - 1)) / size)
  | none, _ => 1

/-- The number of pages up to the first one with an item that has the property `p`, or of all pages if there
    is none. -/
def pagesUntil {α : Type} (size : Option Nat) (p : α → Bool) (items : List α) : Nat :=
  match items.findIdx? p with
  | some i => pageOf size i + 1
  | none => pageCount size items.length

section Counting

variable {α : Type} {size : Option Nat} {n i k : Nat} {p : α → Bool} {part rest : List α}

/-- The last page is the one that the last item is on (`pageOf`). -/
theorem pageCount_eq (hsize : size ≠ some 0) (n : Nat) : pageCount size n = pageOf size (n - 1) + 1 := by
  cases size with
  | none => rfl
  | some k =>
    have hpos : 0 < k := Nat.pos_of_ne_zero fun h => hsize (by rw [h])
    show max 1 ((n + (k - 1)) / k) = (n - 1) / k + 1
    cases n with
    | zero =>
      have hnone : (0 + (k - 1)) / k = 0 := Nat.div_eq_of_lt (by omega)
      rw [hnone, Nat.zero_sub, Nat.zero_div]
      rfl
    | succ n =>
      have hsum : n + 1 + (k - 1) = n + k := by omega
      rw [hsum, Nat.add_div_right n hpos, Nat.add_sub_cancel]
      exact Nat.max_eq_right (Nat.le_add_left 1 _)

theorem pageCount_pos (hsize : size ≠ some 0) : 0 < pageCount size n := by
  rw [pageCount_eq hsize]
  exact Nat.succ_pos _

theorem pageOf_first (h : ∀ k, size = some k → i < k) : pageOf size i = 0 := by
  cases size with
  | none => rfl
  | some k => exact Nat.div_eq_of_lt (h k rfl)

theorem pageOf_next (hpos : 0 < k) (i : Nat) : pageOf (some k) (i + k) = pageOf (some k) i + 1 :=
  Nat.add_div_right i hpos

theorem pageCount_fits (hsize : size ≠ some 0) (h : ∀ k, size = some k → n ≤ k) :
    pageCount size n = 1 := by
  rw [pageCount_eq hsize, pageOf_first]
  intro k hk
  have hpos : 0 < k := Nat.pos_of_ne_zero fun hzero => hsize (by rw [hk, hzero])
  have := h k hk
  omega

theorem pageCount_more (hpos : 0 < k) (h : k < n) :
    pageCount (some k) n = pageCount (some k) (n - k) + 1 := by
  have hsize : some k ≠ some 0 := by
    rintro ⟨⟩
    exact Nat.lt_irrefl 0 hpos
  have hlast : n - 1 = n - k - 1 + k := by omega
  rw [pageCount_eq hsize, pageCount_eq hsize, hlast, pageOf_next hpos]

theorem pageCount_le (hsize : size ≠ some 0) (n : Nat) : pageCount size n ≤ n + 1 := by
  rw [pageCount_eq hsize]
  cases size with
  | none => exact Nat.le_add_left _ _
  | some k =>
    have hpage : (n - 1) / k ≤ n - 1 := Nat.div_le_self _ _
    show (n - 1) / k + 1 ≤ n + 1
    omega

/-- What is on a single page is found there, or not at all. -/
theorem pagesUntil_fits (hsize : size ≠ some 0) (h : ∀ k, size = some k → part.length ≤ k) :
    pagesUntil size p part = 1 := by
  unfold pagesUntil
  cases hfound : part.findIdx? p with
  | none => exact pageCount_fits hsize h
  | some i =>
    obtain ⟨hi, -⟩ := List.findIdx?_eq_some_iff_getElem.1 hfound
    dsimp only
    rw [pageOf_first fun k hk => Nat.lt_of_lt_of_le hi (h k hk)]

/-- What is found on the first page needs no other. -/
theorem pagesUntil_here (hpart : part.length = k) (h : (part.find? p).isSome) :
    pagesUntil (some k) p (part ++ rest) = 1 := by
  have hany : (part.findIdx? p).isSome := by
    rw [List.findIdx?_isSome, List.any_eq_true]
    exact List.find?_isSome.1 h
  obtain ⟨i, hfound⟩ := Option.isSome_iff_exists.1 hany
  obtain ⟨hi, -⟩ := List.findIdx?_eq_some_iff_getElem.1 hfound
  unfold pagesUntil
  rw [List.findIdx?_append, hfound]
  dsimp only [Option.or]
  rw [pageOf_first]
  rintro _ ⟨⟩
  exact hpart ▸ hi

/-- What is not on the first page is one page further on than among the rest. -/
theorem pagesUntil_beyond (hpos : 0 < k) (hpart : part.length = k) (hrest : rest ≠ [])
    (h : part.find? p = none) :
    pagesUntil (some k) p (part ++ rest) = pagesUntil (some k) p rest + 1 := by
  have hnot : part.findIdx? p = none := by
    rw [List.findIdx?_eq_none_iff]
    intro a ha
    simpa using List.find?_eq_none.1 h a ha
  unfold pagesUntil
  rw [List.findIdx?_append, hnot, Option.none_or]
  cases rest.findIdx? p with
  | some i =>
    dsimp only [Option.map_some]
    rw [hpart, pageOf_next hpos]
  | none =>
    have hmore : 0 < rest.length := List.length_pos_iff.2 hrest
    dsimp only [Option.map_none]
    rw [List.length_append, hpart, pageCount_more hpos (by omega), Nat.add_sub_cancel_left]

end Counting

namespace Cloud

variable {α : Type} {c : Cloud} {items : List α} {p : α → Bool} {page : Option String} {token : String}
  {k : Nat}

/-- A page that is not the last one is full. -/
theorem length_page (hmore : offset page + k < items.length) :
    ((items.drop (offset page)).take k).length = k := by
  rw [List.length_take, List.length_drop]
  omega

/-- From a page that is not the last one on, `pageCount` is one more than from the next one on. -/
theorem pageCount_page {n : Nat} (hsome : c.pageSize = some k) (hpos : 0 < k)
    (htoken : offset (some token) = offset page + k) (hmore : offset page + k < n) :
    pageCount c.pageSize (n - offset page) = pageCount c.pageSize (n - offset (some token)) + 1 := by
  rw [hsome, pageCount_more hpos (by omega), Nat.sub_sub, ← htoken]

theorem pagesUntil_found (hsome : c.pageSize = some k)
    (htoken : offset (some token) = offset page + k) (hmore : offset page + k < items.length)
    (h : (((items.drop (offset page)).take k).find? p).isSome) :
    pagesUntil c.pageSize p (items.drop (offset page)) = 1 := by
  rw [hsome, drop_page htoken]
  exact pagesUntil_here (length_page hmore) h

theorem pagesUntil_missed (hsome : c.pageSize = some k) (hpos : 0 < k)
    (htoken : offset (some token) = offset page + k) (hmore : offset page + k < items.length)
    (h : ((items.drop (offset page)).take k).find? p = none) :
    pagesUntil c.pageSize p (items.drop (offset page)) =
      pagesUntil c.pageSize p (items.drop (offset (some token))) + 1 := by
  have hrest : items.drop (offset (some token)) ≠ [] := by
    rw [Ne, List.drop_eq_nil_iff]
    omega
  rw [hsome, drop_page htoken]
  exact pagesUntil_beyond hpos (length_page hmore) hrest h

end Cloud

/-! ## Asking -/

namespace Cloud

variable {c : Cloud}

/-- The control plane with more exchanges on record. -/
def asked (c : Cloud) (operations : List String) : Cloud :=
  { c with calls := c.calls ++ operations }

theorem asked_nil (c : Cloud) : c.asked [] = c := by
  unfold asked
  rw [List.append_nil]

theorem asked_asked (c : Cloud) (operations more : List String) :
    (c.asked operations).asked more = c.asked (operations ++ more) := by
  simp only [asked, List.append_assoc]

/-- Where nothing is made to fail, an exchange that changes nothing goes on record and is answered. -/
theorem exchange_asked (hcalm : c.failures.Drained) {e : Exchange} {answer : Except Fault e.Answer}
    (h : c.respond e = (answer, c)) (operations : List String) :
    (c.asked operations).exchange e = (answer, c.asked (operations ++ [e.operation])) := by
  have hrecord := respond_record e c c.failures (c.calls ++ operations ++ [e.operation])
  rw [h] at hrecord
  unfold exchange asked
  simp only [Dictionary.Drained.pop hcalm]
  rw [hrecord, List.append_assoc]

end Cloud

/-! ## Listings -/

/-- What can be listed. -/
inductive Listing
  | attachments (compartmentId volumeId : String)
  | instances (compartmentId : String) (displayName : Option String)
  | subnets (compartmentId vcnId : String)
  | vnicAttachments (compartmentId : String)
  | mountTargets (compartmentId availabilityDomain : String)
  | exports (exportSetId fileSystemId : String)

namespace Listing

/-- What is listed. -/
def Item : Listing → Type
  | attachments .. => VolumeAttachment
  | instances .. => Instance
  | subnets .. => Subnet
  | vnicAttachments .. => VnicAttachment
  | mountTargets .. => MountTarget
  | exports .. => Export

/-- All that a `Listing` should bring. -/
def items (c : Cloud) : (l : Listing) → List l.Item
  | attachments _ volumeId => c.attachments.filter fun a => a.volumeId = volumeId
  | instances _ (some name) => c.instances.filter fun i => i.displayName = name
  | instances _ none => c.instances
  | subnets _ vcnId => c.subnets.filter fun s => s.vcnId = vcnId
  | vnicAttachments _ => c.vnicAttachments
  | mountTargets _ domain => c.mountTargets.filter fun t => t.availabilityDomain = domain
  | exports exportSetId fileSystemId =>
    c.exports.filter fun e => e.exportSetId = exportSetId && e.fileSystemId = fileSystemId

/-- The control plane's name for what brings a page of a `Listing`. -/
def operation : Listing → String
  | attachments .. => "ListVolumeAttachments"
  | instances .. => "ListInstances"
  | subnets .. => "ListSubnets"
  | vnicAttachments .. => "ListVnicAttachments"
  | mountTargets .. => "ListMountTargets"
  | exports .. => "ListExports"

/-- Asks for a page of a `Listing`. -/
def ask (c : Cloud) (page : Option String) : (l : Listing) → Except Fault (Page l.Item) × Cloud
  | attachments compartmentId volumeId =>
    c.exchange (.listVolumeAttachments compartmentId volumeId page)
  | instances compartmentId displayName => c.exchange (.listInstances compartmentId displayName page)
  | subnets compartmentId vcnId => c.exchange (.listSubnets compartmentId vcnId page)
  | vnicAttachments compartmentId => c.exchange (.listVnicAttachments compartmentId page)
  | mountTargets compartmentId domain => c.exchange (.listMountTargets compartmentId domain page)
  | exports exportSetId fileSystemId => c.exchange (.listExports exportSetId fileSystemId page)

/-- A listing is followed from a page to its end, and these are its pages from there on. -/
inductive Reads (l : Listing) : Option String → Cloud → List (Page l.Item) → Cloud → Prop
  | last {page : Option String} {c c' : Cloud} {part : Page l.Item}
      (hask : l.ask c page = (.ok part, c')) (hlast : part.nextPage = none) : Reads l page c [part] c'
  | more {page : Option String} {c c' c'' : Cloud} {part : Page l.Item} {next : String}
      {parts : List (Page l.Item)} (hask : l.ask c page = (.ok part, c'))
      (hnext : part.nextPage = some next) (hrest : Reads l (some next) c' parts c'') :
      Reads l page c (part :: parts) c''

variable {l : Listing} {c : Cloud}

/-- What is answered is all there is to say of how a listing is followed with `Reads`. -/
theorem Reads.unique {page : Option String} {c' c'' : Cloud} {parts parts' : List (Page l.Item)}
    (h : l.Reads page c parts c') (h' : l.Reads page c parts' c'') : parts = parts' ∧ c' = c'' := by
  induction h generalizing parts' with
  | last hask hlast =>
    cases h' with
    | last hask' =>
      cases hask.symm.trans hask'
      exact ⟨rfl, rfl⟩
    | more hask' hnext' =>
      cases hask.symm.trans hask'
      cases hlast.symm.trans hnext'
  | more hask hnext _ ih =>
    cases h' with
    | last hask' hlast' =>
      cases hask.symm.trans hask'
      cases hlast'.symm.trans hnext
    | more hask' hnext' hrest' =>
      cases hask.symm.trans hask'
      cases hnext.symm.trans hnext'
      obtain ⟨rfl, rfl⟩ := ih hrest'
      exact ⟨rfl, rfl⟩

/-- What `ask` brings is a page of the whole listing. -/
theorem ask_asked (hcalm : c.failures.Drained) (l : Listing) (page : Option String)
    (operations : List String) : l.ask (c.asked operations) page =
      (.ok (c.paginate (l.items c) page), c.asked (operations ++ [l.operation])) := by
  cases l with
  | instances compartmentId displayName =>
    cases displayName with
    | none =>
      have hall : c.instances.filter (fun _ => true) = c.instances := by simp
      have hrespond : c.respond (.listInstances compartmentId none page) =
          (.ok (c.paginate c.instances page), c) :=
        congrArg (fun all => (Except.ok (c.paginate all page), c)) hall
      exact Cloud.exchange_asked hcalm hrespond operations
    | some name =>
      exact Cloud.exchange_asked hcalm (e := .listInstances compartmentId (some name) page) rfl operations
  | _ => exact Cloud.exchange_asked hcalm rfl operations

/-- **A listing can be followed to its end** (`Reads`), and then every item has been read once and in order,
    on as many pages as the items fill. -/
theorem exists_reads (hcalm : c.failures.Drained) (hsize : c.pageSize ≠ some 0)
    (hlong : (l.items c).length < UInt64.size) (page : Option String) (operations : List String) :
    ∃ parts, l.Reads page (c.asked operations) parts
        (c.asked (operations ++ List.replicate parts.length l.operation)) ∧
      parts.flatMap Page.items = (l.items c).drop (Cloud.offset page) ∧
      parts.length = pageCount c.pageSize ((l.items c).length - Cloud.offset page) := by
  -- Every page that is not the last one leaves fewer items to be read.
  generalize hleft : (l.items c).length - Cloud.offset page = left
  induction left using Nat.strongRecOn generalizing page operations with
  | ind left ih =>
    have hask := ask_asked hcalm l page operations
    rcases Cloud.paginate_cases hsize hlong page with
      ⟨hlast, hfits⟩ | ⟨size, token, hsome, hpos, htoken, hmore, hpage⟩
    · rw [hlast] at hask
      refine ⟨[⟨(l.items c).drop (Cloud.offset page), none⟩], .last hask rfl, by simp, ?_⟩
      have hone : pageCount c.pageSize left = 1 :=
        pageCount_fits hsize fun size hsome => by
          have := hfits size hsome
          omega
      rw [hone]
      rfl
    · rw [hpage] at hask
      obtain ⟨parts, hreads, hitems, hlength⟩ :=
        ih ((l.items c).length - Cloud.offset (some token)) (by omega) (some token)
          (operations ++ [l.operation]) rfl
      refine ⟨⟨((l.items c).drop (Cloud.offset page)).take size, some token⟩ :: parts, ?_, ?_, ?_⟩
      · rw [List.append_assoc] at hreads
        exact .more hask rfl hreads
      · rw [List.flatMap_cons, hitems, ← Cloud.drop_page htoken]
      · rw [List.length_cons, hlength, ← hleft, Cloud.pageCount_page hsome hpos htoken hmore]

end Listing

end VolumeDriver.InMemory
