import VolumeDriver.Proofs.Dictionary
import VolumeDriver.Proofs.Json.Codec
set_option autoImplicit false

/-! # Objects read member by member

What the reader of an object, `readMembers`, gathers from members that are each read back is said by
`Gathers`. The values of the members are texts here (`RawMember`), for what is passed over may be more than
this program ever writes. A dictionary is read back if its values are. -/

namespace VolumeDriver.Json

variable {α : Type}

/-! ## The texts of objects -/

/-- A member as its key and the text of its value. -/
abbrev RawMember : Type := String × List Char

/-- The text of a member. -/
def RawMember.text (m : RawMember) : List Char :=
  renderText m.1 ++ ':' :: m.2

/-- A member as this program writes it, with the value that `Json.render` gives. -/
def RawMember.ofJson (m : String × Json) : RawMember :=
  (m.1, m.2.render)

/-- The text of an object with these members. -/
def objectText (members : List RawMember) : List Char :=
  '\x7b' :: (separated (members.map RawMember.text) ++ ['\x7d'])

theorem renderMembers_eq (members : List (String × Json)) :
    renderMembers members = separated ((members.map .ofJson).map RawMember.text) := by
  induction members with
  | nil => rfl
  | cons m members ih =>
    obtain ⟨key, value⟩ := m
    cases members with
    | nil => simp [renderMembers, separated, behindCommas, RawMember.text, RawMember.ofJson]
    | cons next members =>
      rw [renderMembers, ih]
      · simp [separated, behindCommas, RawMember.text, RawMember.ofJson]
      · simp

/-- What `render` writes for an object is the text of its members (`objectText`). -/
theorem render_object (members : List (String × Json)) :
    (Json.object members).render = objectText (members.map .ofJson) := by
  rw [render, renderMembers_eq]
  rfl

theorem encode_objectText (members : List RawMember) (rest : List UInt8) :
    Utf8.encode (objectText members) ++ rest =
      0x7B :: (Utf8.encode (separated (members.map RawMember.text)) ++ 0x7D :: rest) := by
  rw [objectText, Utf8.encode_cons, Utf8.encode_append, List.append_assoc, List.append_assoc]
  rfl

theorem opens_object {c : Codec α} {a : α} {members : List (String × Json)}
    (h : c.write a = .object members) : c.Opens a := by
  have hencode := encode_objectText (members.map .ofJson) []
  rw [List.append_nil, ← render_object, ← h] at hencode
  exact ⟨0x7B, _, hencode, by decide, by decide, by decide⟩

/-! ## What is gathered -/

/-- What the reader of an object (`readMembers`) gathers from its members, one after the other. -/
inductive Gathers (member : α → String → Except Cause (Reader α)) : α → List RawMember → α → Prop
  | nil (acc : α) : Gathers member acc [] acc
  | cons {acc acc' acc'' : α} {key : String} {raw : List Char} {members : List RawMember}
      (read : Reader α) (known : member acc key = .ok read)
      (reads : ∀ rest, Delimits rest → read (Utf8.encode raw ++ rest) = .ok (acc', rest))
      (more : Gathers member acc' members acc'') :
      Gathers member acc ((key, raw) :: members) acc''

section Gathers

variable {member : α → String → Except Cause (Reader α)} {acc acc' acc'' : α} {members : List RawMember}

theorem Gathers.append {after : List RawMember} (h : Gathers member acc members acc')
    (hafter : Gathers member acc' after acc'') : Gathers member acc (members ++ after) acc'' := by
  induction h with
  | nil => exact hafter
  | cons read known reads _ ih => exact .cons read known reads (ih hafter)

theorem Gathers.of_append {after : List RawMember} (h : Gathers member acc (members ++ after) acc'') :
    ∃ acc', Gathers member acc members acc' ∧ Gathers member acc' after acc'' := by
  induction members generalizing acc with
  | nil => exact ⟨acc, .nil acc, h⟩
  | cons m members ih =>
    obtain _ | ⟨read, known, reads, more⟩ := h
    obtain ⟨acc', hbefore, hafter⟩ := ih more
    exact ⟨acc', .cons read known reads hbefore, hafter⟩

/-- One member for `readMembers`, whose key has been come to. -/
theorem readMembers_member {first : Bool} {key : String} {raw : List Char} {read : Reader α}
    {s rest : List UInt8} (known : member acc key = .ok read)
    (reads : ∀ rest, Delimits rest → read (Utf8.encode raw ++ rest) = .ok (acc', rest))
    (hrest : Delimits rest) (hlength : rest.length < s.length)
    (hnext : nextMember first s = .ok (true, Utf8.encode (key.toList.flatMap escape ++ ['"']) ++
      0x3A :: (Utf8.encode raw ++ rest))) :
    readMembers member first acc s = readMembers member false acc' rest := by
  have hcolon : skipColon (0x3A :: (Utf8.encode raw ++ rest)) = .ok (Utf8.encode raw ++ rest) := by
    rw [skipColon, skipBlanks_cons (by decide)]
    rfl
  rw [readMembers, hnext]
  simp only [readText_render, known, hcolon, reads rest hrest, hlength, if_true]

/-- The octets of a member and what follows it. -/
theorem encode_member (key : String) (raw : List Char) (rest : List UInt8) :
    Utf8.encode (RawMember.text (key, raw)) ++ rest =
      0x22 :: (Utf8.encode (key.toList.flatMap escape ++ ['"']) ++ 0x3A :: (Utf8.encode raw ++ rest)) := by
  rw [RawMember.text, Utf8.encode_append, List.append_assoc, encode_renderText]
  rfl

theorem length_member (octets value rest : List UInt8) :
    rest.length < (0x22 :: (octets ++ 0x3A :: (value ++ rest))).length := by
  simp only [List.length_cons, List.length_append]
  omega

theorem readMembers_closing (member : α → String → Except Cause (Reader α)) (first : Bool) (acc : α)
    (rest : List UInt8) : readMembers member first acc (0x7D :: rest) = .ok (acc, 0x7D :: rest) := by
  rw [readMembers, nextMember, skipBlanks_cons (by decide)]
  rfl

theorem readMembers_more (h : Gathers member acc members acc') (rest : List UInt8) :
    readMembers member false acc (Utf8.encode (behindCommas (members.map RawMember.text)) ++ 0x7D :: rest) =
      .ok (acc', 0x7D :: rest) := by
  induction h with
  | nil acc => exact readMembers_closing member false acc rest
  | cons read known reads _ ih =>
    rw [List.map_cons, encode_behindCommas, encode_separated, encode_member]
    refine (readMembers_member known reads (delimits_behindCommas _ (.inr rfl) rest) ?_ ?_).trans ih
    · exact Nat.lt_succ_of_lt (length_member _ _ _)
    · rw [nextMember, skipBlanks_cons (by decide)]
      simp [skipBlanks_cons (b := 0x22) (by decide)]

/-- The reader of an object, `readMembers`, gathers what `Gathers` says of its members. -/
theorem readMembers_text (h : Gathers member acc members acc') (rest : List UInt8) :
    readMembers member true acc (Utf8.encode (separated (members.map RawMember.text)) ++ 0x7D :: rest) =
      .ok (acc', 0x7D :: rest) := by
  cases h with
  | nil => exact readMembers_closing member true acc rest
  | cons read known reads more =>
    rw [List.map_cons, encode_separated, encode_member]
    refine (readMembers_member known reads (delimits_behindCommas _ (.inr rfl) rest)
      (length_member _ _ _) ?_).trans (readMembers_more more rest)
    rw [nextMember, skipBlanks_cons (by decide)]
    rfl

/-- What each member leaves true is true of what `readMembers` has gathered in the end. -/
theorem readMembers_invariant {P : α → Prop}
    (h : ∀ acc key read s acc' rest, P acc → member acc key = .ok read → read s = .ok (acc', rest) →
      P acc') {first : Bool} {s rest : List UInt8}
    (hread : readMembers member first acc s = .ok (acc', rest)) (hacc : P acc) : P acc' := by
  fun_induction readMembers member first acc s
  case case2 =>
    cases hread
    exact hacc
  case case7 first acc s t _ key u _ read known v _ next after hnext _ ih =>
    exact ih hread (h acc key read v next after hacc known hnext)
  all_goals cases hread

end Gathers

/-! ## Dictionaries -/

/-- How `Codec.dictionary` reads a member. -/
def entryMember (c : Codec α) (d : Dictionary α) (key : String) :
    Except Cause (Reader (Dictionary α)) :=
  .ok fun s => (fun (a, rest) => (d.insert key a, rest)) <$> c.read s

/-- Entries that are read in order are put back one behind the other (`Gathers`). -/
theorem gathers_entries {c : Codec α} {d acc : Dictionary α} (before : List (String × α))
    {after : List (String × α)} (hacc : acc.entries = before) (hd : d.entries = before ++ after)
    (h : ∀ e ∈ after, c.ReadsBack e.2) :
    Gathers (entryMember c) acc (after.map fun (key, a) => (key, (c.write a).render)) d := by
  induction after generalizing acc before with
  | nil =>
    rw [List.append_nil, ← hacc] at hd
    rw [Dictionary.ext_entries hd]
    exact .nil acc
  | cons e after ih =>
    have hnext := Dictionary.entries_insert_next hacc hd
    refine .cons _ rfl (fun rest hrest => ?_) (ih _ hnext (by simp [hd]) fun e he =>
      h e (List.mem_cons_of_mem _ he))
    rw [h e List.mem_cons_self rest hrest]
    rfl

theorem read_dictionary_brace (c : Codec α) (t : List UInt8) :
    (Codec.dictionary c).read (0x7B :: t) =
      match readMembers (entryMember c) true .empty t with
      | .error f => .error f
      | .ok (d, rest) => .ok (d, rest.drop 1) := by
  simp only [Codec.dictionary, afterBlanks_cons (b := 0x7B) (by decide), if_true]
  rfl

/-- A dictionary is read back by `Codec.dictionary` if its values are. -/
theorem readsBack_dictionary {c : Codec α} {d : Dictionary α}
    (h : ∀ e ∈ d.entries, c.ReadsBack e.2) : (Codec.dictionary c).ReadsBack d := by
  intro rest _
  have hmembers : (d.entries.map fun (key, a) => (key, c.write a)).map RawMember.ofJson =
      d.entries.map fun (key, a) => (key, (c.write a).render) := List.map_map
  have hgather : Gathers (entryMember c) .empty
      (d.entries.map fun (key, a) => (key, (c.write a).render)) d := gathers_entries [] rfl rfl h
  show (Codec.dictionary c).read (Utf8.encode (Json.object _).render ++ rest) = _
  rw [render_object, hmembers, encode_objectText, read_dictionary_brace, readMembers_text hgather rest]
  rfl

end VolumeDriver.Json
