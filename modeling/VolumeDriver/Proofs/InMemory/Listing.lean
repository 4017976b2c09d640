import VolumeDriver.Proofs.InMemory.Leads
import VolumeDriver.Proofs.Text.Numeral
set_option autoImplicit false

/-! # Reading and searching listings

However a listing is cut into pages by `Cloud.paginate`, to read it page by page gathers what there is in
the whole list, and to search it finds the first item of the whole list that has the property, as long as
the pages have items on them and are not too many. -/

namespace VolumeDriver.InMemory

open ControlPlane Controller

namespace Cloud

variable {α : Type} {c : Cloud} {items : List α}

/-- The `offset` that a page token stands for is the one it was made for. -/
theorem offset_toString {n : Nat} (h : n < UInt64.size) : offset (some (toString n)) = n := by
  rw [offset, Numeral.parse?_toString (Nat.le_of_lt_succ h)]
  rfl

/-- What `paginate` gives is either the rest of a listing, if a page has as much, or as much of it as a page
    has, with the place to go on at. -/
theorem paginate_cases (hsize : c.pageSize ≠ some 0) (hlong : items.length < UInt64.size)
    (page : Option String) :
    (c.paginate items page = ⟨items.drop (offset page), none⟩ ∧
      ∀ size, c.pageSize = some size → items.length ≤ offset page + size) ∨
    ∃ size token, c.pageSize = some size ∧ 0 < size ∧ offset (some token) = offset page + size ∧
      offset page + size < items.length ∧
      c.paginate items page = ⟨(items.drop (offset page)).take size, some token⟩ := by
  rw [paginate]
  cases hc : c.pageSize with
  | none => exact .inl ⟨rfl, nofun⟩
  | some size =>
    have hpos : size ≠ 0 := fun h => hsize (by rw [hc, h])
    dsimp only
    split
    · rename_i hmore
      rw [List.length_take, List.length_drop] at hmore ⊢
      have hmin : min size (items.length - offset page) = size := by omega
      rw [hmin] at hmore ⊢
      exact .inr ⟨size, _, rfl, Nat.pos_of_ne_zero hpos, offset_toString (by omega), hmore, rfl⟩
    · rename_i hmore
      rw [List.length_take, List.length_drop] at hmore
      have hfits : items.length ≤ offset page + size := by omega
      refine .inl ⟨?_, ?_⟩
      · rw [List.take_of_length_le]
        rw [List.length_drop]
        omega
      · rintro _ ⟨⟩
        exact hfits

/-- What there is from a page on is what is on that page and what there is from the next one on. -/
theorem drop_page {page : Option String} {token : String} {size : Nat}
    (htoken : offset (some token) = offset page + size) : items.drop (offset page) =
      (items.drop (offset page)).take size ++ items.drop (offset (some token)) := by
  rw [htoken, ← List.drop_drop, List.take_append_drop]

end Cloud

/-! ## Reading a listing to its end -/

section Reading

variable {m : Type → Type} [Monad m] {α β : Type}

/-- A loop over a list leads to what its steps lead to, one after the other. `L` may be any relation
    between flows and their values that sequences keep. -/
theorem leads_foldlM {L : {γ : Type} → m γ → γ → Prop}
    (hpure : ∀ {γ : Type} (c : γ), L (pure c) c)
    (hbind : ∀ {γ δ : Type} {x : m γ} {f : γ → m δ} {c : γ} {d : δ}, L x c → L (f c) d →
      L (x >>= f) d)
    {step : β → α → m β} {g : β → α → β} {items : List α}
    (hstep : ∀ acc, ∀ a ∈ items, L (step acc a) (g acc a)) (acc : β) :
    L (items.foldlM step acc) (items.foldl g acc) := by
  induction items generalizing acc with
  | nil => exact hpure acc
  | cons a items ih =>
    rw [List.foldlM_cons, List.foldl_cons]
    exact hbind (hstep acc a List.mem_cons_self)
      (ih (fun acc b hb => hstep acc b (List.mem_cons_of_mem _ hb)) _)

/-- **A `foldPages` leads to what is gathered from the whole list**, however it is cut into pages. -/
theorem leads_foldPages {L : {γ : Type} → m γ → γ → Prop}
    (hpure : ∀ {γ : Type} (c : γ), L (pure c) c)
    (hbind : ∀ {γ δ : Type} {x : m γ} {f : γ → m δ} {c : γ} {d : δ}, L x c → L (f c) d →
      L (x >>= f) d)
    {c : Cloud} {items : List α} (endless : m β) {list : Option String → m (Page α)}
    {step : β → List α → m β} (g : β → List α → β)
    (hlist : ∀ page, L (list page) (c.paginate items page))
    (hsize : c.pageSize ≠ some 0) (hlong : items.length < UInt64.size)
    (hstep : ∀ acc part, (∀ a ∈ part, a ∈ items) → L (step acc part) (g acc part))
    (hg : ∀ acc part rest, g (g acc part) rest = g acc (part ++ rest))
    {pages : Nat} (acc : β) (page : Option String)
    (hpages : items.length - Cloud.offset page < pages) :
    L (foldPages endless list step pages acc page) (g acc (items.drop (Cloud.offset page))) := by
  induction pages generalizing acc page with
  | zero => exact absurd hpages (Nat.not_lt_zero _)
  | succ pages ih =>
    refine hbind (hlist page) ?_
    rcases Cloud.paginate_cases hsize hlong page with
      ⟨hlast, -⟩ | ⟨size, token, -, hpos, htoken, hmore, hpage⟩
    · rw [hlast]
      exact hbind (hstep acc _ fun a ha => List.mem_of_mem_drop ha) (hpure _)
    · rw [hpage]
      refine hbind (hstep acc _ fun a ha => List.mem_of_mem_drop (List.mem_of_mem_take ha)) ?_
      have hrest : items.drop (Cloud.offset page) = _ := Cloud.drop_page htoken
      rw [hrest, ← hg, ← hrest]
      exact ih _ (some token) (by omega)

end Reading

/-! ## Searching a listing -/

variable {ε α : Type} {p : Picture} {items : List α} {select : α → Bool} {endless : Run ε (Option α)}
  {list : Option String → Run ε (Page α)}

theorem leads_findOnPages_from
    (hlist : ∀ page, ControllerLeads p (list page) (.ok (p.cloud.paginate items page)) p (· = p))
    (hsize : p.cloud.pageSize ≠ some 0) (hlong : items.length < UInt64.size) {pages : Nat}
    (page : Option String) (hpages : items.length - Cloud.offset page < pages) :
    ControllerLeads p (findOnPages endless list select pages page)
      (.ok ((items.drop (Cloud.offset page)).find? select)) p (· = p) := by
  induction pages generalizing page with
  | zero => exact absurd hpages (Nat.not_lt_zero _)
  | succ pages ih =>
    refine (hlist page).bind ?_
    rcases Cloud.paginate_cases hsize hlong page with
      ⟨hlast, -⟩ | ⟨size, token, -, hpos, htoken, hmore, hpage⟩
    · rw [hlast]
      cases (items.drop (Cloud.offset page)).find? select with
      | some found => exact leads_pure _
      | none => exact leads_pure _
    · rw [hpage]
      have hrest : items.drop (Cloud.offset page) = _ := Cloud.drop_page htoken
      rw [hrest, List.find?_append, ← hrest]
      cases ((items.drop (Cloud.offset page)).take size).find? select with
      | some found => exact leads_pure _
      | none => exact ih _ (by omega)

variable (select endless) in
/-- **A `findOnPages` finds the first item with the property.** -/
theorem leads_findOnPages
    (hlist : ∀ page, ControllerLeads p (list page) (.ok (p.cloud.paginate items page)) p (· = p))
    (hsize : p.cloud.pageSize ≠ some 0) (hlong : items.length < UInt64.size) {pages : Nat}
    (hpages : items.length < pages) :
    ControllerLeads p (findOnPages endless list select pages none) (.ok (items.find? select)) p
      (· = p) :=
  leads_findOnPages_from hlist hsize hlong none hpages

end VolumeDriver.InMemory
