import VolumeDriver.Controller.Attachment
import VolumeDriver.Proofs.Driver.Trace
import VolumeDriver.Proofs.Flow.Events
set_option autoImplicit false

/-! # What an attach comes to, whatever it is answered

Nothing is assumed of the control plane here: it may keep any state, or none, and answer with any records
and faults. `Controller.attach` makes its request once. Only where that is a conflict does it read the
listing of the volume's attachments, page after page, up to the first that is in place or about to be. -/

namespace VolumeDriver.Controller

open ControlPlane Fallible

/-! ## Reading a listing -/

/-- What a page of attachments is answered with. -/
abbrev Listing : Type := Except Fault (Page VolumeAttachment)

/-- The page that is asked for after one with this `Listing`. -/
def following : Listing → Option String
  | .ok listing => listing.nextPage
  | .error _ => none

/-- The listing of a volume's attachments that is read from a page on, with the `Listing` that answers each
    page. -/
def reading (compartmentId volumeId : String) :
    Option String → List Listing → List (Event signature)
  | _, [] => []
  | page, answer :: answers =>
    exchanged (.listVolumeAttachments compartmentId volumeId page) answer ::
      reading compartmentId volumeId (following answer) answers

/-- A page without an attachment that is in place or about to be, after which there is another page. -/
def LeadsOn (answer : Listing) : Prop :=
  ∃ listing, answer = .ok listing ∧ (∀ a ∈ listing.items, a.state.isLive = false) ∧
    listing.nextPage ≠ none

/-- The last page of a search by its `answer`, and what the search has `found` there. -/
inductive Closes : Listing → Except Fault (Option VolumeAttachment) → Prop
  | refused (fault : Fault) : Closes (.error fault) (.error fault)
  | found {listing : Page VolumeAttachment} {before after : List VolumeAttachment}
      {a : VolumeAttachment} (items : listing.items = before ++ a :: after)
      (passed : ∀ b ∈ before, b.state.isLive = false)
      (live : a.state = .attaching ∨ a.state = .attached) : Closes (.ok listing) (.ok (some a))
  | exhausted {listing : Page VolumeAttachment}
      (passed : ∀ b ∈ listing.items, b.state.isLive = false) (last : listing.nextPage = none) :
      Closes (.ok listing) (.ok none)

/-- What a search comes to by the answers to the pages that it has read: pages that `LeadsOn` and one that
    `Closes`. A search that has read as many pages as its `limit`, and of which none is the last, is given
    up as `endless`. -/
def SearchEnds (endless : Fault) (limit : Nat) (answers : List Listing)
    (found : Except Fault (Option VolumeAttachment)) : Prop :=
  (∃ passed last, answers = passed ++ [last] ∧ answers.length ≤ limit ∧
      (∀ answer ∈ passed, LeadsOn answer) ∧ Closes last found) ∨
    answers.length = limit ∧ (∀ answer ∈ answers, LeadsOn answer) ∧ found = .error endless

section

variable {endless : Fault} {limit : Nat} {answer : Listing} {answers : List Listing}
  {found : Except Fault (Option VolumeAttachment)}

theorem Closes.searchEnds (h : Closes answer found) : SearchEnds endless (limit + 1) [answer] found :=
  .inl ⟨[], answer, rfl, by simp, by simp, h⟩

/-- A page that `LeadsOn` is read before the pages after it. -/
theorem LeadsOn.cons (h : LeadsOn answer) (hrest : SearchEnds endless limit answers found) :
    SearchEnds endless (limit + 1) (answer :: answers) found := by
  rcases hrest with ⟨passed, last, rfl, hlimit, hpassed, hlast⟩ | ⟨hlimit, hpassed, hendless⟩
  · refine .inl ⟨answer :: passed, last, rfl, ?_, List.forall_mem_cons.2 ⟨h, hpassed⟩, hlast⟩
    rw [List.length_cons]
    omega
  · refine .inr ⟨?_, List.forall_mem_cons.2 ⟨h, hpassed⟩, hendless⟩
    rw [List.length_cons, hlimit]

end

theorem isLive_iff {state : AttachmentState} :
    state.isLive = true ↔ state = .attaching ∨ state = .attached := by
  cases state <;> simp [AttachmentState.isLive]

variable {limits : Limits} {compartmentId instanceId volumeId : String}

/-- What `list page` comes to is the `Listing` that answers its one request, and nothing else is asked
    for. -/
def Asks (compartmentId volumeId : String)
    (list : Option String → Run AttachmentFault (Page VolumeAttachment)) : Prop :=
  ∀ page trace result, Ends (list page) trace result → ∃ answer : Listing,
    trace = [exchanged (.listVolumeAttachments compartmentId volumeId page) answer] ∧
      result = answer.mapError .controlPlane

theorem asks_listVolumeAttachments : Asks compartmentId volumeId fun page =>
    requestAttachment (.listVolumeAttachments compartmentId volumeId page) := by
  intro page trace result h
  obtain ⟨answer, hrequest, hresult⟩ := ends_wrap h
  exact ⟨answer, ends_request hrequest, hresult⟩

/-- Pages are read by `findOnPages` in order until one of them `Closes` the search. -/
theorem ends_findOnPages {endless : Fault} {pages : Nat} {page : Option String}
    {trace : List (Event signature)}
    {result : Except AttachmentFault (Option VolumeAttachment)}
    {list : Option String → Run AttachmentFault (Page VolumeAttachment)}
    (hlist : Asks compartmentId volumeId list)
    (h : Ends (findOnPages (throw (.controlPlane endless)) list (fun a => a.state.isLive) pages page)
      trace result) :
    ∃ answers found, trace = reading compartmentId volumeId page answers ∧
      SearchEnds endless pages answers found ∧ result = found.mapError .controlPlane := by
  induction pages generalizing page trace with
  | zero =>
    obtain ⟨rfl, rfl⟩ := ends_throw h
    exact ⟨[], .error endless, rfl, .inr ⟨rfl, by simp, rfl⟩, rfl⟩
  | succ pages ih =>
    rw [findOnPages] at h
    rcases ends_bind h with ⟨fault, rfl, hfirst⟩ | ⟨first, rest, listing, rfl, hfirst, hrest⟩
    · obtain ⟨answer, rfl, hanswer⟩ := hlist _ _ _ hfirst
      cases answer with
      | ok _ => cases hanswer
      | error refusal =>
        cases hanswer
        exact ⟨[.error refusal], .error refusal, rfl, (Closes.refused refusal).searchEnds, rfl⟩
    · obtain ⟨answer, rfl, hanswer⟩ := hlist _ _ _ hfirst
      cases answer with
      | error refusal => cases hanswer
      | ok listing =>
        cases hanswer
        split at hrest
        · rename_i found hfound
          obtain ⟨rfl, rfl⟩ := ends_pure hrest
          obtain ⟨hlive, before, after, hitems, hbefore⟩ := List.find?_eq_some_iff_append.1 hfound
          have hcloses : Closes (.ok listing) (.ok (some found)) :=
            .found hitems (by simpa using hbefore) (isLive_iff.1 hlive)
          exact ⟨[.ok listing], _, rfl, hcloses.searchEnds, rfl⟩
        · rename_i hnone hlast
          obtain ⟨rfl, rfl⟩ := ends_pure hrest
          have hcloses : Closes (.ok listing) (.ok none) :=
            .exhausted (by simpa using hnone) hlast
          exact ⟨[.ok listing], _, rfl, hcloses.searchEnds, rfl⟩
        · rename_i next hnone hnext
          obtain ⟨answers, found, rfl, hends, rfl⟩ := ih hrest
          have hleads : LeadsOn (.ok listing) :=
            ⟨listing, rfl, by simpa using hnone, by simp [hnext]⟩
          refine ⟨.ok listing :: answers, found, ?_, hleads.cons hends, rfl⟩
          simp only [reading, following, hnext, List.singleton_append]

/-! ## Attaching -/

/-- What a search comes to for those who need what it finds: nothing found is `AttachmentFault.notFound`. -/
def sought (volumeId : String) :
    Except Fault (Option VolumeAttachment) → Except AttachmentFault VolumeAttachment
  | .ok (some a) => .ok a
  | .ok none => .error (.notFound volumeId)
  | .error fault => .error (.controlPlane fault)

theorem ends_findAttachment {trace : List (Event signature)}
    {result : Except AttachmentFault VolumeAttachment}
    (h : Ends (findAttachment limits compartmentId volumeId) trace result) :
    ∃ answers found, trace = reading compartmentId volumeId none answers ∧
      SearchEnds (.endless "ListVolumeAttachments" limits.pages) limits.pages answers found ∧
        result = sought volumeId found := by
  rcases ends_bind h with ⟨fault, rfl, hfind⟩ | ⟨first, rest, found, rfl, hfind, hrest⟩
  · obtain ⟨answers, found, rfl, hends, hresult⟩ := ends_findOnPages asks_listVolumeAttachments hfind
    refine ⟨answers, found, rfl, hends, ?_⟩
    cases found with
    | ok _ => cases hresult
    | error fault =>
      cases hresult
      rfl
  · obtain ⟨answers, found', rfl, hends, hresult⟩ := ends_findOnPages asks_listVolumeAttachments hfind
    cases found' with
    | error fault => cases hresult
    | ok found' =>
      cases hresult
      cases found with
      | some a =>
        obtain ⟨rfl, rfl⟩ := ends_pure hrest
        exact ⟨answers, _, List.append_nil _, hends, rfl⟩
      | none =>
        obtain ⟨rfl, rfl⟩ := ends_throw hrest
        exact ⟨answers, _, List.append_nil _, hends, rfl⟩

/-- What `Controller.attach` comes to after a conflict, by what its search finds. -/
def verdict (conflict : Fault) (instanceId volumeId : String) :
    Except Fault (Option VolumeAttachment) → Except AttachmentFault VolumeAttachment
  | .ok (some a) =>
    if a.instanceId = instanceId then .ok a else .error (.attachedElsewhere volumeId a.instanceId)
  | .ok none => .error (.controlPlane conflict)
  | .error fault => .error (.controlPlane fault)

/-- What `Controller.attach` comes to by the answer to its request and by the `Listing`s that answer the
    pages it reads. -/
inductive Attaches (limits : Limits) (instanceId volumeId : String) :
    Except Fault VolumeAttachment → List Listing → Except AttachmentFault VolumeAttachment → Prop
  | given (a : VolumeAttachment) : Attaches limits instanceId volumeId (.ok a) [] (.ok a)
  | refused {fault : Fault} (other : fault.status? ≠ some 409) :
      Attaches limits instanceId volumeId (.error fault) [] (.error (.controlPlane fault))
  | conflicting {conflict : Fault} {answers : List Listing}
      {found : Except Fault (Option VolumeAttachment)} (status : conflict.status? = some 409)
      (search : SearchEnds (.endless "ListVolumeAttachments" limits.pages) limits.pages answers found) :
      Attaches limits instanceId volumeId (.error conflict) answers
        (verdict conflict instanceId volumeId found)

theorem isConflict_iff {fault : Fault} : fault.isConflict = true ↔ fault.status? = some 409 :=
  decide_eq_true_iff

theorem ends_attach {trace : List (Event signature)}
    {result : Except AttachmentFault VolumeAttachment}
    (h : Ends (attach limits compartmentId instanceId volumeId) trace result) :
    ∃ created answers, trace = exchanged (.attachVolume instanceId volumeId) created ::
        reading compartmentId volumeId none answers ∧
      Attaches limits instanceId volumeId created answers result := by
  rcases ends_bind h with ⟨fault, rfl, hask⟩ | ⟨asked, rest, created, rfl, hask, hrest⟩
  · exact absurd hask not_ends_outcome_error
  obtain rfl := ends_request (ends_outcome hask)
  split at hrest
  · obtain ⟨rfl, rfl⟩ := ends_pure hrest
    exact ⟨_, [], rfl, .given _⟩
  · rename_i conflict
    split at hrest
    · rename_i hconflict
      have hstatus : conflict.status? = some 409 := isConflict_iff.1 hconflict
      rcases ends_bind hrest with
        ⟨fault, rfl, hsearch⟩ | ⟨searched, rest, outcome, rfl, hsearch, hlast⟩
      · exact absurd hsearch not_ends_outcome_error
      obtain ⟨answers, found, rfl, hends, rfl⟩ := ends_findAttachment (ends_outcome hsearch)
      suffices hresult : rest = [] ∧ result = verdict conflict instanceId volumeId found by
        obtain ⟨rfl, rfl⟩ := hresult
        exact ⟨_, answers, by rw [List.append_nil]; rfl, .conflicting hstatus hends⟩
      rcases found with fault | _ | a
      · exact ends_throw hlast
      · exact ends_throw hlast
      · simp only [sought] at hlast
        split at hlast
        · rename_i hsame
          rw [verdict, if_pos hsame]
          exact ends_pure hlast
        · rename_i hother
          rw [verdict, if_neg hother]
          exact ends_throw hlast
    · rename_i hother
      obtain ⟨rfl, rfl⟩ := ends_throw hrest
      exact ⟨_, [], rfl, .refused (fun hstatus => hother (isConflict_iff.2 hstatus))⟩

/-- **What an attach comes to is decided by what it is answered, against any control plane.** The events of
    `Controller.attach` are its request, then the `reading` of the pages; its result is the one that
    `Attaches` gives for these answers. -/
theorem attach_against_any {σ : Type}
    (answer : (action : signature.Action) → σ → signature.Answer action × σ) (s : σ)
    (limits : Limits) (compartmentId instanceId volumeId : String) :
    ∃ created answers,
      (attach limits compartmentId instanceId volumeId).run.events answer s =
        exchanged (.attachVolume instanceId volumeId) created ::
          reading compartmentId volumeId none answers ∧
      Attaches limits instanceId volumeId created answers
        (runs answer (attach limits compartmentId instanceId volumeId) s).1 :=
  ends_attach (Flow.ends_events answer _ s)

end VolumeDriver.Controller
