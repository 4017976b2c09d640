import VolumeDriver.Proofs.Json.Object
set_option autoImplicit false

/-! # The spellings of an object of strings

An object may be written with its strings in any of their spellings (`TextSpelling`) and with `Blanks`
between any two pieces. As with strings, this is said without the reader (`ObjectSpelling`, `Spells`), and
the reader is shown to read each object as what it spells. -/

namespace VolumeDriver.Json

open Utf8

/-! ## Objects -/

/-- Blanks, which may stand between any two pieces. -/
def Blanks (s : List Char) : Prop :=
  ∀ c ∈ s, c = ' ' ∨ c = '\t' ∨ c = '\n' ∨ c = '\r'

instance (s : List Char) : Decidable (Blanks s) :=
  decidable_of_iff (s.all fun c => c = ' ' || c = '\t' || c = '\n' || c = '\r')
    (by simp [Blanks, or_assoc])

/-- What may be written for a member: its key and its value, each in a `TextSpelling`, with `Blanks` around
    each and around the colon. -/
inductive MemberSpelling : String × String → List Char → Prop
  | mk {key value : String} {b₁ b₂ b₃ b₄ rawKey rawValue : List Char} (h₁ : Blanks b₁) (h₂ : Blanks b₂)
      (h₃ : Blanks b₃) (h₄ : Blanks b₄) (hkey : TextSpelling key.toList rawKey)
      (hvalue : TextSpelling value.toList rawValue) :
      MemberSpelling (key, value)
        (b₁ ++ '"' :: (rawKey ++ '"' :: (b₂ ++ ':' :: (b₃ ++ '"' :: (rawValue ++ '"' :: b₄)))))

/-- What may be written for members, one or more of them: a `MemberSpelling` of each, with commas
    between. -/
inductive MembersSpelling : List (String × String) → List Char → Prop
  | one {m : String × String} {raw : List Char} (h : MemberSpelling m raw) : MembersSpelling [m] raw
  | cons {m : String × String} {ms : List (String × String)} {raw raws : List Char}
      (h : MemberSpelling m raw) (more : MembersSpelling ms raws) :
      MembersSpelling (m :: ms) (raw ++ ',' :: raws)

/-- What may be written for an object of strings: its `MembersSpelling` or nothing, in braces and with
    `Blanks` around. -/
inductive ObjectSpelling : List (String × String) → List Char → Prop
  | empty {b₁ b₂ b₃ : List Char} (h₁ : Blanks b₁) (h₂ : Blanks b₂) (h₃ : Blanks b₃) :
      ObjectSpelling [] (b₁ ++ '\x7b' :: (b₂ ++ '\x7d' :: b₃))
  | members {ms : List (String × String)} {b₁ raw b₃ : List Char} (h₁ : Blanks b₁)
      (h : MembersSpelling ms raw) (h₃ : Blanks b₃) :
      ObjectSpelling ms (b₁ ++ '\x7b' :: (raw ++ '\x7d' :: b₃))

/-- The text is an object, in any `ObjectSpelling`, that has these values under its keys, and no others. Of
    two members with one key the later one counts. -/
def Spells (text : String) (m : String → Option String) : Prop :=
  ∃ members, ObjectSpelling members text.toList ∧
    ∀ key, Dictionary.lookup key members.reverse = m key

theorem skipBlanks_blanks {b : List Char} (h : Blanks b) (s : List UInt8) :
    skipBlanks (encode b ++ s) = skipBlanks s := by
  induction b with
  | nil => rfl
  | cons c b ih =>
    have hb := ih fun c hc => h c (List.mem_cons_of_mem _ hc)
    rcases h c List.mem_cons_self with rfl | rfl | rfl | rfl
    all_goals
      rw [encode_cons, List.append_assoc, ← hb]
      rfl

theorem skipBlanks_blanks_cons {b : List Char} (h : Blanks b) {o : UInt8} (ho : isBlank o = false)
    (s : List UInt8) : skipBlanks (encode b ++ o :: s) = o :: s := by
  rw [skipBlanks_blanks h, skipBlanks_cons ho]

theorem read_text_blanks {b : List Char} (h : Blanks b) (s : List UInt8) :
    Codec.text.read (encode b ++ 0x22 :: s) = readText s := by
  simp only [Codec.text, afterBlanks, skipBlanks_blanks_cons h (o := 0x22) (by decide), if_true]

/-- What stands before the key of a member where `readMembers` begins to read it: nothing before the first
    member of an object, and a comma before another. -/
inductive Leads : Bool → List UInt8 → Prop
  | first : Leads true []
  | next {b : List Char} (h : Blanks b) : Leads false (encode b ++ [0x2C])

theorem nextMember_key {first : Bool} {lead : List UInt8} (hlead : Leads first lead) {b : List Char}
    (hb : Blanks b) (s : List UInt8) :
    nextMember first (lead ++ (encode b ++ 0x22 :: s)) = .ok (true, s) := by
  cases hlead with
  | first => simp [nextMember, skipBlanks_blanks_cons hb (o := 0x22) (by decide)]
  | next h =>
    simp [nextMember, List.append_assoc, skipBlanks_blanks_cons h (o := 0x2C) (by decide),
      skipBlanks_blanks_cons hb (o := 0x22) (by decide)]

theorem nextMember_close {first : Bool} {b : List Char} (hb : Blanks b) (s : List UInt8) :
    nextMember first (encode b ++ 0x7D :: s) = .ok (false, 0x7D :: s) := by
  simp [nextMember, skipBlanks_blanks_cons hb (o := 0x7D) (by decide)]

/-- Every `MemberSpelling` is read by `readMembers` as its member, up to the `Blanks` after it. -/
theorem readMembers_memberSpelling {first : Bool} {lead : List UInt8} (hlead : Leads first lead)
    {m : String × String} {raw : List Char} (h : MemberSpelling m raw) (acc : Dictionary String) :
    ∃ b, Blanks b ∧ ∀ rest,
      readMembers (entryMember .text) first acc (lead ++ (encode raw ++ rest)) =
        readMembers (entryMember .text) false (acc.insert m.1 m.2) (encode b ++ rest) := by
  obtain @⟨key, value, b₁, b₂, b₃, b₄, rawKey, rawValue, h₁, h₂, h₃, h₄, hkey, hvalue⟩ := h
  refine ⟨b₄, h₄, fun rest => ?_⟩
  have hoctets : encode (b₁ ++ '"' :: (rawKey ++ '"' :: (b₂ ++ ':' :: (b₃ ++ '"' ::
      (rawValue ++ '"' :: b₄))))) ++ rest =
      encode b₁ ++ 0x22 :: (encode rawKey ++ 0x22 :: (encode b₂ ++ 0x3A :: (encode b₃ ++ 0x22 ::
        (encode rawValue ++ 0x22 :: (encode b₄ ++ rest))))) := by
    simp
    rfl
  have hcolon : skipColon (encode b₂ ++ 0x3A :: (encode b₃ ++ 0x22 ::
      (encode rawValue ++ 0x22 :: (encode b₄ ++ rest)))) =
      .ok (encode b₃ ++ 0x22 :: (encode rawValue ++ 0x22 :: (encode b₄ ++ rest))) := by
    rw [skipColon, skipBlanks_blanks_cons h₂ (by decide)]
    rfl
  rw [hoctets, readMembers, nextMember_key hlead h₁]
  simp only [readText_spelling hkey, entryMember, hcolon, read_text_blanks h₃, readText_spelling hvalue]
  refine if_pos ?_
  simp only [List.length_append, List.length_cons]
  omega

/-- Of a `MembersSpelling`, `readMembers` gathers the entries of the members, put in one after the other. -/
theorem readMembers_membersSpelling {ms : List (String × String)} {raw : List Char}
    (h : MembersSpelling ms raw) {first : Bool} {lead : List UInt8} (hlead : Leads first lead)
    (acc : Dictionary String) (rest : List UInt8) :
    readMembers (entryMember .text) first acc (lead ++ (encode raw ++ 0x7D :: rest)) =
      .ok (ms.foldl (fun d e => d.insert e.1 e.2) acc, 0x7D :: rest) := by
  induction h generalizing first lead acc with
  | one h =>
    obtain ⟨b, hb, hread⟩ := readMembers_memberSpelling hlead h acc
    rw [hread, readMembers, nextMember_close hb]
    rfl
  | @cons m ms raw raws h _ ih =>
    obtain ⟨b, hb, hread⟩ := readMembers_memberSpelling hlead h acc
    have hmore := ih (.next hb) (acc.insert m.1 m.2)
    rw [List.foldl_cons, ← hmore, encode_append, List.append_assoc, hread]
    simp
    rfl

/-- An object is decoded as what `readMembers` gathers between its braces. -/
theorem decode_braces {b₁ b₃ raw : List Char} (h₁ : Blanks b₁) (h₃ : Blanks b₃) {d : Dictionary String}
    (h : ∀ rest, readMembers (entryMember .text) true .empty (encode raw ++ 0x7D :: rest) =
      .ok (d, 0x7D :: rest)) :
    (Codec.dictionary .text).decode (encode (b₁ ++ '\x7b' :: (raw ++ '\x7d' :: b₃))) = .ok d := by
  have hoctets : encode (b₁ ++ '\x7b' :: (raw ++ '\x7d' :: b₃)) =
      encode b₁ ++ 0x7B :: (encode raw ++ 0x7D :: encode b₃) := by
    simp
    rfl
  have hblanks : (Codec.dictionary .text).read (encode b₁ ++ 0x7B :: (encode raw ++ 0x7D :: encode b₃)) =
      (Codec.dictionary .text).read (0x7B :: (encode raw ++ 0x7D :: encode b₃)) := by
    simp only [Codec.dictionary, afterBlanks, skipBlanks_blanks h₁]
  have hread : (Codec.dictionary .text).read (encode b₁ ++ 0x7B :: (encode raw ++ 0x7D :: encode b₃)) =
      .ok (d, encode b₃) := by
    rw [hblanks, read_dictionary_brace, h]
    rfl
  have hend : skipBlanks (encode b₃) = [] := by
    rw [← List.append_nil (encode b₃), skipBlanks_blanks h₃]
    rfl
  rw [Codec.decode, hoctets, hread]
  simp only [hend]

/-- **Every `ObjectSpelling` is decoded as its members,** put in one after the other
    (`Dictionary.ofList`). -/
theorem decode_objectSpelling {ms : List (String × String)} {raw : List Char}
    (h : ObjectSpelling ms raw) : (Codec.dictionary .text).decode (encode raw) = .ok (.ofList ms) := by
  cases h with
  | empty h₁ h₂ h₃ =>
    refine decode_braces h₁ h₃ fun rest => ?_
    rw [readMembers, nextMember_close h₂]
    rfl
  | members h₁ h h₃ =>
    exact decode_braces h₁ h₃ fun rest => readMembers_membersSpelling h .first .empty rest

/-- What a text `Spells` is what it is decoded as. -/
theorem Spells.decode {text : String} {m : String → Option String} (h : Spells text m) :
    ∃ d, (Codec.dictionary .text).decode (octets text) = .ok d ∧ ∀ key, d.get? key = m key := by
  obtain ⟨members, hspelling, hvalues⟩ := h
  refine ⟨.ofList members, decode_objectSpelling hspelling, fun key => ?_⟩
  rw [Dictionary.get?_ofList, hvalues]

end VolumeDriver.Json
