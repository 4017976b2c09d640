import VolumeDriver.InMemory.CacheFile
import VolumeDriver.Proofs.Controller.VnicCache
import VolumeDriver.Proofs.Files.Tree
import VolumeDriver.Proofs.InMemory.NodeNames
set_option autoImplicit false

/-! # A map that outlives the program

To who uses the cache it is a map in memory that is loaded from a file when it is opened and put back
there when it is closed for the first time. `PersistentMap` is that and no more: it knows of no tree of
files and of no order of keys, and of the text in the file it only says what it spells. What a cache file
answers, whatever is done with it in whatever order, is what such a map may answer
(`cacheFile_is_persistentMap`). -/

namespace VolumeDriver

/-- What is known of interfaces by their identifiers. -/
abbrev VnicMap : Type := String → Option Vnic

/-- The map that knows nothing. -/
def VnicMap.nothing : VnicMap := fun _ => none

/-- The number of identifiers that a map knows something of. -/
def VnicMap.Knows (known : VnicMap) (n : Nat) : Prop :=
  InMemory.Number (fun id => (known id).isSome) n

/-- A content is text, not all of it blank, and spells a map in JSON. -/
structure Spells (content : List UInt8) (known : VnicMap) : Prop where
  text : ∃ text, Utf8.decode content = .ok text ∧ ∃ c ∈ text, Blank.isBlank c = false
  decoded : ∃ cache, VnicCache.codec.decode content = .ok cache ∧ cache.get? = known

namespace InMemory

/-! ## The map and its file -/

/-- What is to be found at a path. -/
inductive PlaceOfFile
  /-- the path can neither be opened nor written; reading it may bring another fault -/
  | outOfReach (fault : Files.Fault) (reading : Except Files.Fault (List UInt8))
  | missing
  | holding (content : List UInt8)

namespace PlaceOfFile

/-- What there is to read. -/
def reading : PlaceOfFile → Except Files.Fault (List UInt8)
  | outOfReach _ reading => reading
  | missing => .error .notFound
  | holding content => .ok content

/-- What writing comes to, and what is to be found afterwards. -/
def written (content : List UInt8) : PlaceOfFile → Except Files.Fault Unit × PlaceOfFile
  | outOfReach fault reading => (.error fault, outOfReach fault reading)
  | missing | holding _ => (.ok (), holding content)

/-- What is loaded from a file. A file that is missing, blank, no text or no map in JSON does for
    `VnicMap.nothing`. -/
inductive Loads : PlaceOfFile → VnicMap → Prop
  | missing : Loads .missing .nothing
  | noText {content : List UInt8} {fault : Utf8.Fault} (h : Utf8.decode content = .error fault) :
      Loads (.holding content) .nothing
  | blank {content : List UInt8} {text : List Char} (h : Utf8.decode content = .ok text)
      (hblank : ∀ c ∈ text, Blank.isBlank c) : Loads (.holding content) .nothing
  | noMap {content : List UInt8} {fault : Json.Fault}
      (h : VnicCache.codec.decode content = .error fault) : Loads (.holding content) .nothing
  | map {content : List UInt8} {known : VnicMap} (h : Spells content known) :
      Loads (.holding content) known

/-- A file is made where it is missing. -/
def made : PlaceOfFile → PlaceOfFile
  | missing => holding []
  | place => place

end PlaceOfFile

/-- A map and its file. -/
structure PersistentMap where
  file : PlaceOfFile
  /-- the map in memory, if one was opened, and whether it is still open -/
  memory : Option (VnicMap × Bool)

namespace PersistentMap

/-- What is known in memory. -/
def known (p : PersistentMap) : VnicMap :=
  match p.memory with
  | some (known, _) => known
  | none => .nothing

/-- The map with one more thing known, if there is one. -/
def set (p : PersistentMap) (id : String) (vnic : Vnic) : PersistentMap :=
  { p with memory := p.memory.map fun (known, isOpen) =>
      (fun other => if other = id then some vnic else known other, isOpen) }

/-- What closing comes to. Only a map that is open touches its file, which `Spells` the map then, whatever
    it held before. -/
inductive Closes : PersistentMap → Except Files.Fault Unit → PersistentMap → Prop
  | puts {place : PlaceOfFile} {known : VnicMap} {content : List UInt8} (h : Spells content known) :
      Closes ⟨place, some (known, true)⟩ (place.written content).1
        ⟨(place.written content).2, some (known, false)⟩
  | again {place : PlaceOfFile} {known : VnicMap} :
      Closes ⟨place, some (known, false)⟩ (.ok ()) ⟨place, some (known, false)⟩
  | without {place : PlaceOfFile} : Closes ⟨place, none⟩ (.ok ()) ⟨place, none⟩

/-- What a `CacheStep` may answer, and the map and its file afterwards. -/
inductive Step : PersistentMap → (s : CacheStep) → s.Answer → PersistentMap → Prop
  | openCache {p p' : PersistentMap} {closed : Except Files.Fault Unit} {known : VnicMap} {n : Nat}
      (hclose : Closes p closed p') (hload : p'.file.Loads known) (hn : known.Knows n) :
      Step p .openCache (Except.ok n) ⟨p'.file.made, some (known, true)⟩
  | openFails {p p' : PersistentMap} {closed : Except Files.Fault Unit} {fault : Files.Fault}
      {reading : Except Files.Fault (List UInt8)} (hclose : Closes p closed p')
      (hfile : p'.file = .outOfReach fault reading) :
      Step p .openCache (Except.error fault) ⟨p'.file, none⟩
  | get (p : PersistentMap) (id : String) : Step p (.get id) (p.known id) p
  | set (p : PersistentMap) (id : String) (vnic : Vnic) {n : Nat} (hn : (p.set id vnic).known.Knows n) :
      Step p (.set id vnic) n (p.set id vnic)
  | size (p : PersistentMap) {n : Nat} (hn : p.known.Knows n) : Step p .size n p
  | close {p p' : PersistentMap} {closed : Except Files.Fault Unit} (hclose : Closes p closed p') :
      Step p .close closed p'
  | drop {p p' : PersistentMap} {closed : Except Files.Fault Unit} (hclose : Closes p closed p') :
      Step p .drop closed ⟨p'.file, none⟩
  | read (p : PersistentMap) : Step p .read p.file.reading p
  | write (p : PersistentMap) (content : List UInt8) :
      Step p (.write content) (p.file.written content).1 { p with file := (p.file.written content).2 }

/-- What steps may answer one after the other. -/
inductive Run : PersistentMap → List ((s : CacheStep) × s.Answer) → PersistentMap → Prop
  | stop (p : PersistentMap) : Run p [] p
  | go {p p' p'' : PersistentMap} {s : CacheStep} {answer : s.Answer}
      {rest : List ((s : CacheStep) × s.Answer)} (h : Step p s answer p') (hrest : Run p' rest p'') :
      Run p (⟨s, answer⟩ :: rest) p''

end PersistentMap

/-! ### What the map says is settled

Only the spelling in its file is open. -/

theorem Number.unique {α : Type} {P : α → Prop} {m n : Nat} (h : Number P m) (h' : Number P n) :
    m = n := by
  obtain ⟨l, hl, hmem, rfl⟩ := h
  obtain ⟨l', hl', hmem', rfl⟩ := h'
  have hsame : ∀ a, a ∈ l ↔ a ∈ l' := fun a => (hmem a).trans (hmem' a).symm
  exact ((List.perm_ext_iff_of_nodup hl hl').2 hsame).length_eq

/-- What a content `Spells` is loaded, and nothing else is. -/
theorem PlaceOfFile.Loads.eq_of_spells {content : List UInt8} {known loaded : VnicMap}
    (h : (PlaceOfFile.holding content).Loads loaded) (hspells : Spells content known) :
    loaded = known := by
  obtain ⟨⟨text, htext, c, hc, hprinted⟩, cache, hcache, rfl⟩ := hspells
  cases h with
  | noText hfault => cases hfault.symm.trans htext
  | blank hfound hblank =>
    cases hfound.symm.trans htext
    rw [hblank c hc] at hprinted
    cases hprinted
  | noMap hfault => cases hfault.symm.trans hcache
  | map hmap =>
    obtain ⟨-, found, hfound, rfl⟩ := hmap
    cases hfound.symm.trans hcache
    rfl

theorem PlaceOfFile.Loads.unique {place : PlaceOfFile} {known loaded : VnicMap} (h : place.Loads known)
    (h' : place.Loads loaded) : known = loaded := by
  have hknown := h
  have hloaded := h'
  cases h with
  | missing =>
    cases h'
    rfl
  | map hmap => exact (hloaded.eq_of_spells hmap).symm
  | noText _ | blank _ _ | noMap _ =>
    cases h' with
    | map hmap => exact hknown.eq_of_spells hmap
    | noText _ | blank _ _ | noMap _ => rfl

namespace PersistentMap

variable {p p' p'' : PersistentMap}

/-- However the map is spelled when it `Closes`, the same comes of it. -/
theorem Closes.unique {closed closed' : Except Files.Fault Unit} (h : Closes p closed p')
    (h' : Closes p closed' p'') : closed = closed' ∧ p'.memory = p''.memory ∧
      (p'.file = p''.file ∨ ∃ known content content', p'.file = .holding content ∧
        p''.file = .holding content' ∧ Spells content known ∧ Spells content' known) := by
  cases h with
  | @puts place known content hspells =>
    cases h' with
    | puts hspells' =>
      cases place with
      | outOfReach fault reading => exact ⟨rfl, rfl, .inl rfl⟩
      | missing => exact ⟨rfl, rfl, .inr ⟨known, _, _, rfl, rfl, hspells, hspells'⟩⟩
      | holding before => exact ⟨rfl, rfl, .inr ⟨known, _, _, rfl, rfl, hspells, hspells'⟩⟩
  | again =>
    cases h'
    exact ⟨rfl, rfl, .inl rfl⟩
  | without =>
    cases h'
    exact ⟨rfl, rfl, .inl rfl⟩

/-- Closing does not bring a path `outOfReach`, nor within. -/
theorem Closes.outOfReach {closed closed' : Except Files.Fault Unit} {fault : Files.Fault}
    {reading : Except Files.Fault (List UInt8)} (h : Closes p closed p') (h' : Closes p closed' p'')
    (hfile : p'.file = .outOfReach fault reading) : p''.file = .outOfReach fault reading := by
  obtain ⟨-, -, hsame | ⟨_, _, _, hholding, -⟩⟩ := h.unique h'
  · rw [← hsame, hfile]
  · cases hholding.symm.trans hfile

/-- **What a `Step` is answered is settled**, and so is what is known afterwards. -/
theorem Step.unique {s : CacheStep} {answer answer' : s.Answer} (h : Step p s answer p')
    (h' : Step p s answer' p'') : answer = answer' ∧ p'.memory = p''.memory := by
  cases h with
  | openCache hclose hload hn =>
    cases h' with
    | openCache hclose' hload' hn' =>
      obtain ⟨-, -, hsame | ⟨known, _, _, hfile, hfile', hspells, hspells'⟩⟩ := hclose.unique hclose'
      · rw [hsame] at hload
        obtain rfl := hload.unique hload'
        rw [hn.unique hn']
        exact ⟨rfl, rfl⟩
      · rw [hfile] at hload
        rw [hfile'] at hload'
        obtain rfl := hload.eq_of_spells hspells
        obtain rfl := hload'.eq_of_spells hspells'
        rw [hn.unique hn']
        exact ⟨rfl, rfl⟩
    | openFails hclose' hfile =>
      rw [hclose'.outOfReach hclose hfile] at hload
      cases hload
  | openFails hclose hfile =>
    cases h' with
    | openCache hclose' hload _ =>
      rw [hclose.outOfReach hclose' hfile] at hload
      cases hload
    | openFails hclose' hfile' =>
      cases (hclose.outOfReach hclose' hfile).symm.trans hfile'
      exact ⟨rfl, rfl⟩
  | set id vnic hn =>
    cases h' with
    | set _ _ hn' => exact ⟨hn.unique hn', rfl⟩
  | size hn =>
    cases h' with
    | size hn' => exact ⟨hn.unique hn', rfl⟩
  | close hclose =>
    cases h' with
    | close hclose' =>
      obtain ⟨hanswer, hmemory, -⟩ := hclose.unique hclose'
      exact ⟨hanswer, hmemory⟩
  | drop hclose =>
    cases h' with
    | drop hclose' => exact ⟨(hclose.unique hclose').1, rfl⟩
  | get _ | read | write _ =>
    cases h'
    exact ⟨rfl, rfl⟩

end PersistentMap

/-! ## What a cache file is of this -/

namespace CacheFile

variable {f : CacheFile}

/-- What is to be found at the path of a cache file. -/
def place (f : CacheFile) : PlaceOfFile :=
  match f.files.openOrCreate f.path with
  | .error fault => .outOfReach fault (f.files.read f.path)
  | .ok _ =>
    match f.files.read f.path with
    | .ok content => .holding content
    | .error _ => .missing

/-- The map that a cache file is, and its file. -/
def view (f : CacheFile) : PersistentMap :=
  ⟨f.place, f.cache.map fun cache => (cache.entries.get?, cache.isOpen)⟩

/-- What steps are answered one after the other, and the cache file afterwards. -/
def run (f : CacheFile) : List CacheStep → List ((s : CacheStep) × s.Answer) × CacheFile
  | [] => ([], f)
  | s :: steps =>
    let (answer, f) := f.step s
    let (answers, f) := f.run steps
    (⟨s, answer⟩ :: answers, f)

/-! ### The file -/

theorem place_error {fault : Files.Fault} (h : f.files.openOrCreate f.path = .error fault) :
    f.place = .outOfReach fault (f.files.read f.path) := by
  unfold place
  rw [h]

theorem place_opened {content : List UInt8} {files : Files.Tree}
    (h : f.files.openOrCreate f.path = .ok (content, files)) :
    f.place.made = .holding content ∧ ({ f with files } : CacheFile).place = .holding content := by
  have hafter : ({ f with files } : CacheFile).place = .holding content := by
    unfold place
    simp only [Files.Tree.openOrCreate_again h, Files.Tree.read_opened h]
  refine ⟨?_, hafter⟩
  rcases Files.Tree.read_before_opened h with ⟨-, rfl⟩ | ⟨hread, rfl⟩
  · rw [hafter]
    rfl
  · unfold place
    simp only [h, hread]
    rfl

theorem reading_place (f : CacheFile) : f.place.reading = f.files.read f.path := by
  cases h : f.files.openOrCreate f.path with
  | error fault =>
    rw [place_error h]
    rfl
  | ok opened =>
    obtain ⟨content, files⟩ := opened
    unfold place
    rcases Files.Tree.read_before_opened h with ⟨hread, -⟩ | ⟨hread, -⟩
    · simp only [h, hread]
      rfl
    · simp only [h, hread]
      rfl

/-- A file is replaced if its path can be opened, as `written` says. -/
theorem replace_view (f : CacheFile) (content : List UInt8) :
    (f.replace content).1 = (f.place.written content).1 ∧
      (f.replace content).2.view = { f.view with file := (f.place.written content).2 } := by
  cases h : f.files.openOrCreate f.path with
  | error fault =>
    have hplace := place_error h
    unfold replace
    rw [Files.Tree.write_error h, hplace]
    refine ⟨rfl, ?_⟩
    show f.view = _
    rw [view, hplace]
    rfl
  | ok opened =>
    obtain ⟨before, files⟩ := opened
    obtain ⟨files', hwrite, hopen⟩ := Files.Tree.write_of_openOrCreate h content
    have hwritten : f.place.written content = (.ok (), .holding content) := by
      have hmade := (place_opened h).1
      cases hplace : f.place with
      | outOfReach fault reading =>
        rw [hplace] at hmade
        cases hmade
      | missing => rfl
      | holding content => rfl
    have hafter := (place_opened (f := { f with files := files' }) hopen).2
    unfold replace
    rw [hwrite, hwritten]
    exact ⟨rfl, congrArg (PersistentMap.mk · _) hafter⟩

/-! ### The map -/

theorem knows_size (cache : VnicCache) : VnicMap.Knows cache.get? cache.size :=
  ⟨cache.keys, cache.nodup_keys, fun _ => Dictionary.mem_keys_iff, List.length_map _⟩

/-- What `VnicCache.toContent` writes for a cache spells it. -/
theorem spells_toContent (cache : VnicCache) : Spells (Utf8.octets cache.toContent) cache.get? where
  text := by
    obtain ⟨text, htext, hblank⟩ := cache.text_toContent
    rw [List.all_eq_false] at hblank
    obtain ⟨c, hc, hprinted⟩ := hblank
    exact ⟨text, htext, c, hc, by simpa using hprinted⟩
  decoded := ⟨cache, cache.decode_toContent, rfl⟩

theorem loads_content (content : List UInt8) :
    (PlaceOfFile.holding content).Loads (VnicCache.ofContent content).get? := by
  unfold VnicCache.ofContent
  cases htext : Utf8.decode content with
  | error fault => exact .noText htext
  | ok text =>
    dsimp only
    split
    · rename_i hblank
      exact .blank htext (List.all_eq_true.1 hblank)
    · rename_i hprinted
      rw [Bool.not_eq_true, List.all_eq_false] at hprinted
      obtain ⟨c, hc, hcblank⟩ := hprinted
      cases hmap : VnicCache.codec.decode content with
      | error fault => exact .noMap hmap
      | ok cache => exact .map ⟨⟨text, htext, c, hc, by simpa using hcblank⟩, cache, hmap, rfl⟩

/-- What `openOrCreate` opens is what is loaded from the file, one that is made included. -/
theorem loads_opened {content : List UInt8} {files : Files.Tree}
    (h : f.files.openOrCreate f.path = .ok (content, files)) :
    f.place.Loads (VnicCache.ofContent content).get? := by
  have hmade := (place_opened h).1
  cases hplace : f.place with
  | outOfReach fault reading =>
    rw [hplace] at hmade
    cases hmade
  | missing =>
    rw [hplace] at hmade
    cases hmade
    have hempty : VnicCache.ofContent [] = .empty := by
      have htext : Utf8.decode [] = .ok [] := Utf8.decode_encode []
      simp [VnicCache.ofContent, htext]
    rw [hempty]
    exact .missing
  | holding found =>
    rw [hplace] at hmade
    cases hmade
    exact loads_content content

theorem known_view (f : CacheFile) : f.view.known = f.entries.get? := by
  unfold PersistentMap.known view entries
  cases f.cache <;> rfl

theorem set_view (f : CacheFile) (id : String) (vnic : Vnic) :
    (f.set id vnic).view = f.view.set id vnic := by
  unfold CacheFile.set view PersistentMap.set
  cases f.cache with
  | none => rfl
  | some cache =>
    have hset : (cache.entries.insert id vnic).get? =
        fun other => if other = id then some vnic else cache.entries.get? other :=
      funext fun other => Dictionary.get?_insert cache.entries id other vnic
    simp only [Option.map_some, hset]
    rfl

/-! ### The steps -/

theorem closes (f : CacheFile) : PersistentMap.Closes f.view f.close.1 f.close.2.view := by
  unfold close
  cases hcache : f.cache with
  | none =>
    simp only [view, hcache]
    exact .without
  | some cache =>
    obtain ⟨entries, isOpen⟩ := cache
    cases isOpen with
    | false =>
      simp only [view, hcache]
      exact .again
    | true =>
      obtain ⟨hanswer, hview⟩ := replace_view { f with cache := some ⟨entries, false⟩ }
        (Utf8.octets entries.toContent)
      have hopen : f.view = ⟨f.place, some (entries.get?, true)⟩ := by
        unfold view
        rw [hcache]
        rfl
      dsimp only
      rw [hanswer, hview, hopen]
      exact .puts (spells_toContent entries)

/-- A cache that is dropped is closed and forgotten. -/
theorem drop_view (f : CacheFile) : f.drop.2.view = ⟨f.close.2.place, none⟩ := rfl

theorem opens (f : CacheFile) : PersistentMap.Step f.view .openCache f.openCache.1 f.openCache.2.view := by
  unfold openCache
  cases h : f.drop.2.files.openOrCreate f.drop.2.path with
  | error fault =>
    have hplace : f.close.2.place = .outOfReach fault (f.drop.2.files.read f.drop.2.path) :=
      place_error (f := f.drop.2) h
    dsimp only
    rw [h, drop_view]
    exact .openFails (closes f) hplace
  | ok opened =>
    obtain ⟨content, files⟩ := opened
    obtain ⟨hmade, hafter⟩ := place_opened h
    have hview : ({ f.drop.2 with
        files, cache := some ⟨VnicCache.ofContent content, true⟩ } : CacheFile).view =
          ⟨f.close.2.place.made, some ((VnicCache.ofContent content).get?, true)⟩ :=
      congrArg (PersistentMap.mk · _) (hafter.trans hmade.symm)
    dsimp only
    rw [h]
    dsimp only
    rw [hview]
    exact .openCache (closes f) (loads_opened h) (knows_size _)

/-- **A cache file answers a step as a map that outlives the program does** (`PersistentMap.Step`). -/
theorem step_view (f : CacheFile) (s : CacheStep) :
    PersistentMap.Step f.view s (f.step s).1 (f.step s).2.view := by
  cases s with
  | openCache => exact opens f
  | get id =>
    have hget := PersistentMap.Step.get f.view id
    rwa [known_view] at hget
  | set id vnic =>
    have hknows : (f.view.set id vnic).known.Knows (f.set id vnic).entries.size := by
      rw [← set_view, known_view]
      exact knows_size _
    have hset := PersistentMap.Step.set f.view id vnic hknows
    rwa [← set_view] at hset
  | size =>
    refine PersistentMap.Step.size f.view ?_
    rw [known_view]
    exact knows_size _
  | close => exact .close (closes f)
  | drop => exact .drop (closes f)
  | read =>
    have hread := PersistentMap.Step.read f.view
    rwa [view, reading_place] at hread
  | write content =>
    obtain ⟨hanswer, hview⟩ := replace_view f content
    show PersistentMap.Step f.view (.write content) (f.replace content).1 (f.replace content).2.view
    rw [hanswer, hview]
    exact .write f.view content

theorem run_view (f : CacheFile) (steps : List CacheStep) :
    PersistentMap.Run f.view (f.run steps).1 (f.run steps).2.view := by
  induction steps generalizing f with
  | nil => exact .stop _
  | cons s steps ih => exact .go (step_view f s) (ih _)

/-- Every step of a `run` is answered. -/
theorem run_steps (f : CacheFile) (steps : List CacheStep) :
    (f.run steps).1.map (fun answered => answered.1) = steps := by
  induction steps generalizing f with
  | nil => rfl
  | cons s steps ih => exact congrArg (s :: ·) (ih _)

/-! ## What is put back is found again -/

theorem run_append (f : CacheFile) (steps more : List CacheStep) :
    (f.run (steps ++ more)).2 = ((f.run steps).2.run more).2 := by
  induction steps generalizing f with
  | nil => rfl
  | cons s steps ih => exact ih _

theorem openCache_ok {n : Nat} (h : f.openCache.1 = Except.ok n) :
    ∃ content, f.openCache.2.cache = some ⟨VnicCache.ofContent content, true⟩ ∧
      n = (VnicCache.ofContent content).size ∧
      f.openCache.2.files.openOrCreate f.openCache.2.path = .ok (content, f.openCache.2.files) := by
  unfold openCache at h ⊢
  dsimp only at h ⊢
  cases hopen : f.drop.2.files.openOrCreate f.drop.2.path with
  | error fault =>
    rw [hopen] at h
    cases h
  | ok opened =>
    obtain ⟨content, files⟩ := opened
    rw [hopen] at h
    cases h
    exact ⟨content, rfl, rfl, Files.Tree.openOrCreate_again hopen⟩

theorem run_sets {entries : VnicCache} (h : f.cache = some ⟨entries, true⟩)
    (sets : List (String × Vnic)) :
    (f.run (sets.map fun e => .set e.1 e.2)).2 =
      { f with cache := some ⟨sets.foldl (fun cache e => cache.insert e.1 e.2) entries, true⟩ } := by
  induction sets generalizing f entries with
  | nil =>
    cases f
    cases h
    rfl
  | cons e sets ih =>
    have hset : (f.set e.1 e.2).cache = some ⟨entries.insert e.1 e.2, true⟩ := by
      unfold CacheFile.set
      rw [h]
      rfl
    exact ih hset

/-- A cache that is closed is found in its file, if the file can be opened. -/
theorem reopened {entries : VnicCache} {content : List UInt8} {files : Files.Tree}
    (h : f.cache = some ⟨entries, true⟩)
    (hopen : f.files.openOrCreate f.path = .ok (content, files)) :
    (f.run [.close, .openCache]).2.cache = some ⟨entries, true⟩ := by
  obtain ⟨files', hwrite, hagain⟩ :=
    Files.Tree.write_of_openOrCreate hopen (Utf8.octets entries.toContent)
  have hclose : f.close.2 = { f with files := files', cache := some ⟨entries, false⟩ } := by
    unfold close replace
    rw [h]
    dsimp only
    rw [hwrite]
  show f.close.2.openCache.2.cache = _
  rw [hclose]
  simp only [openCache, drop, close, hagain, VnicCache.ofContent_toContent]

theorem reopened_after_sets {n : Nat} (h : f.openCache.1 = Except.ok n)
    (sets : List (String × Vnic)) :
    (f.run (.openCache :: (sets.map fun e => .set e.1 e.2) ++ [.close, .openCache])).2.cache =
      some ⟨sets.foldl (fun cache e => cache.insert e.1 e.2) f.openCache.2.entries, true⟩ := by
  obtain ⟨content, hcache, -, hopen⟩ := openCache_ok h
  have hentries : f.openCache.2.entries = VnicCache.ofContent content := by
    unfold entries
    rw [hcache]
  have hsets : (f.run (.openCache :: sets.map fun e => .set e.1 e.2)).2 = _ := run_sets hcache sets
  rw [run_append, hsets, hentries]
  exact reopened rfl hopen

end CacheFile

/-- **A cache file is a map that outlives the program.** Whatever is done with it, in whatever order, it
    answers as a `PersistentMap` does, which has no other answer to give. What was set after it was opened
    is found when it is closed and opened again, so every map is found again that was put into an empty
    cache. -/
theorem cacheFile_is_persistentMap :
    (∀ (f : CacheFile) (steps : List CacheStep),
      (f.run steps).1.map (fun answered => answered.1) = steps ∧
        PersistentMap.Run f.view (f.run steps).1 (f.run steps).2.view) ∧
    (∀ (f : CacheFile) (s : CacheStep) (answer : s.Answer) (p : PersistentMap),
      PersistentMap.Step f.view s answer p → (f.step s).1 = answer) ∧
    (∀ (f : CacheFile) (n : Nat) (sets : List (String × Vnic)), f.openCache.1 = Except.ok n →
      (f.run (.openCache :: (sets.map fun e => .set e.1 e.2) ++ [.close, .openCache])).2.cache =
        some ⟨sets.foldl (fun cache e => cache.insert e.1 e.2) f.openCache.2.entries, true⟩) ∧
    (∀ (f : CacheFile) (cache : VnicCache), f.openCache.1 = Except.ok 0 →
      (f.run (.openCache :: (cache.entries.map fun e => .set e.1 e.2) ++
        [.close, .openCache])).2.cache = some ⟨cache, true⟩) := by
  refine ⟨fun f steps => ⟨f.run_steps steps, f.run_view steps⟩,
    fun f s _ _ hstep => ((f.step_view s).unique hstep).1,
    fun f n sets hopen => CacheFile.reopened_after_sets hopen sets, ?_⟩
  intro f cache hopen
  obtain ⟨content, hcache, hsize, -⟩ := CacheFile.openCache_ok hopen
  have hempty : f.openCache.2.entries.entries = [] := by
    unfold CacheFile.entries
    rw [hcache]
    exact List.length_eq_zero_iff.1 hsize.symm
  rw [CacheFile.reopened_after_sets hopen,
    Dictionary.foldl_insert_entries [] hempty (List.nil_append _).symm]

/-- A file that holds no text. -/
def damagedFile : CacheFile where
  path := "/c"
  files := { entries := [(["c"], .file [0xff])] }

/-- Two interfaces, one with an identifier that JSON has to escape. -/
def twoInterfaces : VnicCache :=
  .ofList [("\"\\", ⟨"v", some "10.0.0.7", none, none⟩), ("a", ⟨"", none, none, some "s"⟩)]

theorem cacheFile_is_persistentMap_damaged :
    damagedFile.openCache.1 = Except.ok 0 ∧
      (damagedFile.run (.openCache :: (twoInterfaces.entries.map fun e => .set e.1 e.2) ++
        [.close, .openCache])).2.cache = some ⟨twoInterfaces, true⟩ := by
  have hfound : damagedFile.files.openOrCreate damagedFile.path = .ok ([0xff], damagedFile.files) := by
    rfl
  have htext : Utf8.decode [0xff] = .error (.invalid 1 0) := by
    unfold Utf8.decode
    rw [Utf8.decodeFrom]
    rfl
  have hopen : damagedFile.openCache.1 = Except.ok 0 := by
    have hdrop : damagedFile.drop.2 = damagedFile := rfl
    unfold CacheFile.openCache
    simp only [hdrop, hfound, VnicCache.ofContent, htext]
    rfl
  exact ⟨hopen, cacheFile_is_persistentMap.2.2.2 damagedFile twoInterfaces hopen⟩

end InMemory

end VolumeDriver
