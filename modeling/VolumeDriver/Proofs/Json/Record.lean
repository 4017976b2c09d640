import VolumeDriver.Json.Record
import VolumeDriver.Proofs.Json.Grammar
set_option autoImplicit false

/-! # Records read back

A record is read back if its fields have names of their own and each of them keeps its value: a value that is
written is read back, and one that is not is what its absence stands for. The members may stand in any order
and have members of other names among them, whose values are passed over.

Conversely, each value of a record that has been read was read by the codec of its field or stands for its
absence. -/

namespace VolumeDriver.Json

/-! ## Fields that keep their values -/

section Field

variable {α : Type} {c : Codec α}

/-- The value is not lost: it is read back (`Codec.ReadsBack`) if it is written, and it stands for its
    absence if it is not. -/
def Field.Keeps (field : Field α) (a : α) : Prop :=
  (field.omitted a = false → field.codec.ReadsBack a) ∧ (field.omitted a = true → field.absent = some a)

theorem keeps_required {a : α} (name : String) (h : c.ReadsBack a) : (Field.required name c).Keeps a :=
  ⟨fun _ => h, nofun⟩

theorem keeps_defaulted {a : α} (name : String) (absent : α) (h : c.ReadsBack a) :
    (Field.defaulted name c absent).Keeps a :=
  ⟨fun _ => h, nofun⟩

theorem keeps_whenPresent (name : String) (h : ∀ a, c.ReadsBack a ∧ c.Opens a) (o : Option α) :
    (Field.whenPresent name c).Keeps o := by
  refine ⟨fun _ => readsBack_optional h o, fun homitted => ?_⟩
  rw [Option.isNone_iff_eq_none.1 homitted]
  rfl

theorem keeps_whenTrue (name : String) (b : Bool) : (Field.whenTrue name).Keeps b := by
  refine ⟨fun _ => readsBack_flag b, fun homitted => ?_⟩
  cases b with
  | false => rfl
  | true => cases homitted

theorem keeps_text (name s : String) : (Field.required name .text).Keeps s :=
  keeps_required name (readsBack_text s)

theorem keeps_textIfAny (name : String) (o : Option String) :
    (Field.defaulted name Codec.text.optional none).Keeps o :=
  keeps_defaulted name none (readsBack_optional (fun s => ⟨readsBack_text s, opens_text s⟩) o)

theorem keeps_textIfPresent (name : String) (o : Option String) : (Field.whenPresent name .text).Keeps o :=
  keeps_whenPresent name (fun s => ⟨readsBack_text s, opens_text s⟩) o

end Field

/-- Members of other names than these, each with a value of any kind (`Conforms`). -/
def Unknown (names : List String) (members : List RawMember) : Prop :=
  ∀ m ∈ members, m.1 ∉ names ∧ Conforms .value m.2

namespace Fields

/-- The names of the fields. -/
def names {ts : List Type} : Fields ts → List String
  | .nil => []
  | .cons field fields => field.name :: fields.names

/-- Each field keeps its value (`Field.Keeps`). -/
def Keep {ts : List Type} : Fields ts → Row Id ts → Prop
  | .nil, _ => True
  | .cons field fields, (a, row) => field.Keeps a ∧ fields.Keep row

/-- What there is of a record when the values that are written have been read, in the way in which `member`
    fills a row. -/
def slots {ts : List Type} : Fields ts → Row Id ts → Row Option ts
  | .nil, _ => ()
  | .cons field fields, (a, row) => (if field.omitted a then none else some a, fields.slots row)

theorem name_of_mem_write {ts : List Type} {fields : Fields ts} {row : Row Id ts}
    {m : String × Json} (h : m ∈ fields.write row) : m.1 ∈ fields.names := by
  induction fields with
  | nil => cases h
  | cons field fields ih =>
    obtain ⟨a, row⟩ := row
    rw [write] at h
    split at h
    · exact List.mem_cons_of_mem _ (ih h)
    · rcases List.mem_cons.1 h with rfl | h
      · exact List.mem_cons_self
      · exact List.mem_cons_of_mem _ (ih h)

/-! ## Members gathered in any order -/

/-- Members of other names go past a field. -/
theorem gathers_past {t : Type} {ts : List Type} {field : Field t} {fields : Fields ts}
    {slot : Option t} {row row' : Row Option ts} {members : List RawMember}
    (h : Gathers fields.member row members row') (hne : ∀ m ∈ members, m.1 ≠ field.name) :
    Gathers (Fields.cons field fields).member (slot, row) members (slot, row') := by
  induction h with
  | nil row => exact .nil _
  | @cons row row₁ row₂ key raw members read known reads more ih =>
    have hkey : key ≠ field.name := hne (key, raw) List.mem_cons_self
    refine .cons (fun s => (fun r => ((slot, r.1), r.2)) <$> read s) ?_ ?_
      (ih fun m hm => hne m (List.mem_cons_of_mem _ hm))
    · rw [member, if_neg hkey, known]
    · intro rest hrest
      rw [reads rest hrest]
      rfl

/-- A field takes its value from the member of its name. -/
theorem gathers_field {t : Type} {ts : List Type} {field : Field t} {a : t} (h : field.codec.ReadsBack a)
    (fields : Fields ts) (row : Row Option ts) :
    Gathers (Fields.cons field fields).member (none, row)
      [(field.name, (field.codec.write a).render)] (some a, row) := by
  refine .cons (fun s => (fun r => ((some r.1, row), r.2)) <$> field.codec.read s) ?_ ?_ (.nil _)
  · rw [member, if_pos rfl]
    rfl
  · intro rest hrest
    rw [h rest hrest]
    rfl

/-- What is no field's is passed over, as long as it conforms to the grammar (`Conforms`). -/
theorem gathers_unknown {members : List RawMember} (h : ∀ m ∈ members, Conforms .value m.2) :
    Gathers Fields.nil.member () members () := by
  induction members with
  | nil => exact .nil _
  | cons m members ih =>
    obtain ⟨hm, hmembers⟩ := List.forall_mem_cons.1 h
    refine .cons (fun s => ((), ·) <$> skipValue s) rfl (fun rest hrest => ?_) (ih hmembers)
    rw [skipValue_conforms hm hrest.endsNumber]
    rfl

/-- **Members in any order are gathered** (`Gathers`) to what was written, and others among them (`Unknown`)
    are passed over. -/
theorem gathers_members {ts : List Type} {fields : Fields ts} {row : Row Id ts}
    {added members : List RawMember} (hnames : fields.names.Nodup) (hkeep : fields.Keep row)
    (hadded : Unknown fields.names added)
    (hmembers : members.Perm ((fields.write row).map .ofJson ++ added)) :
    Gathers fields.member (Row.blank ts) members (fields.slots row) := by
  induction fields generalizing members with
  | nil => exact gathers_unknown fun m hm => (hadded m (hmembers.mem_iff.1 hm)).2
  | @cons t ts field fields ih =>
    obtain ⟨a, row⟩ := row
    obtain ⟨⟨hvalue, -⟩, hmore⟩ := hkeep
    rw [names, List.nodup_cons] at hnames
    have htail : Unknown fields.names added := fun m hm =>
      ⟨fun hmem => (hadded m hm).1 (List.mem_cons_of_mem _ hmem), (hadded m hm).2⟩
    -- The members of the other fields and those of no field are not called as this field is.
    have hother : ∀ m ∈ (fields.write row).map .ofJson ++ added, m.1 ≠ field.name := by
      intro m hm hname
      rcases List.mem_append.1 hm with hm | hm
      · obtain ⟨written, hwritten, rfl⟩ := List.mem_map.1 hm
        exact hnames.1 (hname ▸ name_of_mem_write hwritten)
      · exact (hadded m hm).1 (hname ▸ List.mem_cons_self)
    rw [write] at hmembers
    rw [slots, Row.blank]
    by_cases ho : field.omitted a
    · rw [if_pos ho] at hmembers ⊢
      exact gathers_past (ih hnames.2 hmore htail hmembers) fun m hm => hother m (hmembers.mem_iff.1 hm)
    · rw [if_neg ho, List.map_cons, List.cons_append] at hmembers
      rw [if_neg ho]
      obtain ⟨before, after, rfl⟩ := List.append_of_mem (hmembers.mem_iff.2 List.mem_cons_self)
      have hrest := (List.perm_middle.symm.trans hmembers).cons_inv
      obtain ⟨between, hbefore, hafter⟩ := (ih hnames.2 hmore htail hrest).of_append
      have hne : ∀ m ∈ before ++ after, m.1 ≠ field.name := fun m hm => hother m (hrest.mem_iff.1 hm)
      have hone := gathers_field (hvalue (Bool.eq_false_iff.2 ho)) fields between
      exact (gathers_past hbefore fun m hm => hne m (List.mem_append_left _ hm)).append
        (hone.append (gathers_past hafter fun m hm => hne m (List.mem_append_right _ hm)))

theorem complete_slots {ts : List Type} {fields : Fields ts} {row : Row Id ts}
    (h : fields.Keep row) : fields.complete (fields.slots row) = .ok row := by
  induction fields with
  | nil => rfl
  | cons field fields ih =>
    obtain ⟨a, row⟩ := row
    obtain ⟨⟨-, habsent⟩, hmore⟩ := h
    rw [slots]
    by_cases ho : field.omitted a
    · simp only [if_pos ho, complete, habsent ho, ih hmore]
      rfl
    · simp only [if_neg ho, complete, ih hmore]
      rfl

section Codec

variable {α : Type} {ts : List Type} {name : String} {fields : Fields ts} {toRow : α → Row Id ts}
  {ofRow : Row Id ts → α} {a : α}

/-- **A record is read from its members** (`objectText`), whatever their order and whatever others are among
    them. -/
theorem read_objectText (hnames : fields.names.Nodup) (hkeep : fields.Keep (toRow a))
    (hback : ofRow (toRow a) = a) {added members : List RawMember} (hadded : Unknown fields.names added)
    (hmembers : members.Perm ((fields.write (toRow a)).map .ofJson ++ added)) (rest : List UInt8) :
    (fields.codec name toRow ofRow).read (Utf8.encode (objectText members) ++ rest) = .ok (a, rest) := by
  have hgather := readMembers_text (gathers_members hnames hkeep hadded hmembers) rest
  show (fun r => (ofRow r.1, r.2)) <$> fields.read name (Utf8.encode (objectText members) ++ rest) = _
  rw [encode_objectText, read, afterBlanks_cons (by decide), if_pos rfl, hgather]
  simp only [complete_slots hkeep]
  show Except.ok (ofRow (toRow a), rest) = _
  rw [hback]

/-- **A record is read back** (`Codec.ReadsBack`) if its fields `Keep` their values. -/
theorem readsBack_codec (hnames : fields.names.Nodup) (hkeep : fields.Keep (toRow a))
    (hback : ofRow (toRow a) = a) : (fields.codec name toRow ofRow).ReadsBack a := by
  intro rest _
  show (fields.codec name toRow ofRow).read
    (Utf8.encode (Json.object (fields.write (toRow a))).render ++ rest) = _
  rw [render_object]
  exact read_objectText hnames hkeep hback (List.forall_mem_nil _) (by rw [List.append_nil]) rest

theorem opens_codec (a : α) : (fields.codec name toRow ofRow).Opens a :=
  opens_object rfl

end Codec

end Fields

/-! ## Values that have been read -/

section Yields

variable {α β : Type} {c : Codec α}

/-- The codec reads the value from some text, so it is one that `decode` may come to. -/
def Codec.Yields (c : Codec α) (a : α) : Prop :=
  ∃ s rest, c.read s = .ok (a, rest)

theorem yields_of_decode {s : List UInt8} {a : α} (h : c.decode s = .ok a) : c.Yields a := by
  rw [Codec.decode] at h
  split at h
  · cases h
  · rename_i a' rest hread
    split at h
    · cases h
      exact ⟨s, rest, hread⟩
    · cases h

/-- A value of a type that is seen `through` another one is made from a value of that one. -/
theorem Codec.Yields.exists_back {forth : β → α} {back : α → β} {b : β}
    (h : (c.through forth back).Yields b) : ∃ a, back a = b := by
  obtain ⟨s, rest, h⟩ := h
  obtain ⟨⟨a, _⟩, -, heq⟩ := map_eq_ok h
  exact ⟨a, congrArg Prod.fst heq⟩

/-- The value was read by the field's codec or stands for its absence. -/
def Field.Yields (field : Field α) (a : α) : Prop :=
  field.codec.Yields a ∨ field.absent = some a

theorem yields_required {name : String} {a : α} (h : (Field.required name c).Yields a) : c.Yields a :=
  h.resolve_right nofun

end Yields

namespace Fields

variable {ts : List Type} {fields : Fields ts}

/-- Each value was read by its field's codec or stands for its absence (`Field.Yields`). -/
def Yields {ts : List Type} : Fields ts → Row Id ts → Prop
  | .nil, _ => True
  | .cons field fields, (a, row) => field.Yields a ∧ fields.Yields row

/-- Each value that there is was read by its field's codec (`Codec.Yields`). -/
def Holds {ts : List Type} : Fields ts → Row Option ts → Prop
  | .nil, _ => True
  | .cons field fields, (slot, row) => (∀ a ∈ slot, field.codec.Yields a) ∧ fields.Holds row

theorem holds_blank (fields : Fields ts) : fields.Holds (Row.blank ts) := by
  induction fields with
  | nil => trivial
  | cons field fields ih => exact ⟨nofun, ih⟩

/-- What a member is read into still `Holds` only what was read. -/
theorem holds_member {row row' : Row Option ts} {key : String} {read : Reader (Row Option ts)}
    {s rest : List UInt8} (h : fields.Holds row) (hmember : fields.member row key = .ok read)
    (hread : read s = .ok (row', rest)) : fields.Holds row' := by
  induction fields with
  | nil => trivial
  | @cons t ts field fields ih =>
    obtain ⟨slot, row⟩ := row
    obtain ⟨hslot, hrow⟩ := h
    rw [member] at hmember
    split at hmember
    · split at hmember
      · cases hmember
      · cases hmember
        obtain ⟨⟨a, _⟩, ha, heq⟩ := map_eq_ok hread
        cases heq
        exact ⟨fun b hb => Option.mem_some.1 hb ▸ ⟨s, rest, ha⟩, hrow⟩
    · split at hmember
      · cases hmember
      · rename_i readMore hmore
        cases hmember
        obtain ⟨⟨row₁, _⟩, hrow₁, heq⟩ := map_eq_ok hread
        cases heq
        exact ⟨hslot, ih hrow hmore hrow₁⟩

theorem yields_complete {slots : Row Option ts} {row : Row Id ts} (h : fields.Holds slots)
    (hcomplete : fields.complete slots = .ok row) : fields.Yields row := by
  induction fields with
  | nil => trivial
  | @cons t ts field fields ih =>
    obtain ⟨slot, slots⟩ := slots
    obtain ⟨hslot, hslots⟩ := h
    have hrest : ∀ {a : t}, (fun row => (a, row)) <$> fields.complete slots = .ok row →
        row.1 = a ∧ fields.Yields row.2 := by
      intro a h
      obtain ⟨more, hmore, rfl⟩ := map_eq_ok h
      exact ⟨rfl, ih hslots hmore⟩
    simp only [complete] at hcomplete
    split at hcomplete
    · obtain ⟨heq, hmore⟩ := hrest hcomplete
      exact ⟨heq ▸ .inl (hslot _ rfl), hmore⟩
    · rename_i habsent
      obtain ⟨heq, hmore⟩ := hrest hcomplete
      exact ⟨heq ▸ .inr habsent, hmore⟩
    · cases hcomplete

theorem yields_readRow {expected : String} {index : Nat} {s rest : List UInt8} {row : Row Id ts}
    (h : fields.readRow expected index s = .ok (row, rest)) : fields.Yields row := by
  induction fields generalizing index s with
  | nil => trivial
  | @cons t ts field fields ih =>
    rw [readRow] at h
    split at h
    · cases h
    · split at h
      · cases h
      · rename_i a after hread
        obtain ⟨⟨more, _⟩, hmore, heq⟩ := map_eq_ok h
        cases heq
        exact ⟨.inl ⟨_, _, hread⟩, ih hmore⟩
    · split at h
      · rename_i a habsent
        obtain ⟨⟨more, _⟩, hmore, heq⟩ := map_eq_ok h
        cases heq
        exact ⟨.inr habsent, ih hmore⟩
      · cases h

/-- **What a record is read as was read by its fields** (`Yields`), whether from an object or from a
    list. -/
theorem yields_read {name : String} {s rest : List UInt8} {row : Row Id ts}
    (h : fields.read name s = .ok (row, rest)) : fields.Yields row := by
  rw [read, afterBlanks] at h
  split at h
  · cases h
  · split at h
    · split at h
      · cases h
      · rename_i slots after hread
        have hholds : fields.Holds slots := readMembers_invariant
          (fun _ _ _ _ _ _ hacc hknown hread => holds_member hacc hknown hread) hread (holds_blank fields)
        split at h
        · rename_i hcomplete
          cases h
          exact yields_complete hholds hcomplete
        · cases h
    · split at h
      · split at h
        · cases h
        · rename_i row' after hread
          obtain ⟨_, -, heq⟩ := map_eq_ok h
          cases heq
          exact yields_readRow hread
      · cases h

/-- So is the record that `decode` comes to. -/
theorem yields_of_decode {α : Type} {name : String} {toRow : α → Row Id ts} {ofRow : Row Id ts → α}
    {text : List UInt8} {a : α} (h : (fields.codec name toRow ofRow).decode text = .ok a) :
    ∃ row, fields.Yields row ∧ ofRow row = a := by
  obtain ⟨s, rest, hread⟩ := Json.yields_of_decode h
  obtain ⟨⟨row, _⟩, hrow, heq⟩ := map_eq_ok hread
  exact ⟨row, yields_read hrow, congrArg Prod.fst heq⟩

end Fields

end VolumeDriver.Json
