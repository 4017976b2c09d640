import VolumeDriver.Json.Codec
import VolumeDriver.Proofs.Json.Number
import VolumeDriver.Proofs.Json.Text
set_option autoImplicit false

/-! # Values read back

`Codec.ReadsBack` says that a codec reads a value back as it wrote it and leaves alone what follows. It
is shown of each way to make codecs from others, so a codec is known to read back from how it is made. -/

namespace VolumeDriver.Json

variable {α β : Type}

/-- Octets that may follow a value: none, or first a comma or a closing bracket, as `Codec.ReadsBack` needs
    it. -/
def Delimits : List UInt8 → Prop
  | [] => True
  | b :: _ => b = 0x2C ∨ b = 0x5D ∨ b = 0x7D

theorem Delimits.isBlank {b : UInt8} {s : List UInt8} (h : Delimits (b :: s)) : isBlank b = false := by
  rcases h with rfl | rfl | rfl <;> decide

theorem Delimits.endsNumber {s : List UInt8} (h : Delimits s) : EndsNumber s := by
  cases s with
  | nil => trivial
  | cons b s => rcases h with rfl | rfl | rfl <;> exact ⟨by decide, by decide, by decide, by decide⟩

/-- The codec reads a value back as it wrote it, whatever may follow (`Delimits`). -/
def Codec.ReadsBack (c : Codec α) (a : α) : Prop :=
  ∀ rest, Delimits rest → c.read (Utf8.encode (c.write a).render ++ rest) = .ok (a, rest)

/-- What the codec writes for the value begins with neither a blank nor what `null` begins with, nor with
    the bracket that closes a list. -/
def Codec.Opens (c : Codec α) (a : α) : Prop :=
  ∃ b t, Utf8.encode (c.write a).render = b :: t ∧ isBlank b = false ∧ b ≠ 0x6E ∧ b ≠ 0x5D

theorem octets_encode (c : Codec α) (a : α) :
    Utf8.octets (c.encode a) = Utf8.encode (c.write a).render := by
  rw [Codec.encode, toText, Utf8.octets, String.toList_ofList]

/-- What `Codec.read` reads up to the end is what `Codec.decode` decodes. -/
theorem decode_of_read {c : Codec α} {a : α} {s : List UInt8} (h : c.read s = .ok (a, [])) :
    c.decode s = .ok a := by
  rw [Codec.decode, h]
  rfl

/-- A value that is read back (`Codec.ReadsBack`) is decoded from its text. -/
theorem decode_encode {c : Codec α} {a : α} (h : c.ReadsBack a) :
    c.decode (Utf8.octets (c.encode a)) = .ok a := by
  have hread := h [] trivial
  rw [List.append_nil] at hread
  rw [octets_encode, decode_of_read hread]

theorem skipBlanks_cons {b : UInt8} (h : isBlank b = false) (s : List UInt8) :
    skipBlanks (b :: s) = b :: s := by
  rw [skipBlanks, List.dropWhile_cons_of_neg (by simp [h])]

theorem afterBlanks_cons {b : UInt8} (h : isBlank b = false) (read : UInt8 → Reader α)
    (s : List UInt8) : afterBlanks read (b :: s) = read b s := by
  rw [afterBlanks, skipBlanks_cons h]

/-! ## Strings -/

theorem encode_renderText (s : String) (rest : List UInt8) :
    Utf8.encode (renderText s) ++ rest =
      0x22 :: (Utf8.encode (s.toList.flatMap escape ++ ['"']) ++ rest) :=
  rfl

theorem read_text_quote (t : List UInt8) : Codec.text.read (0x22 :: t) = readText t := by
  simp only [Codec.text, afterBlanks_cons (b := 0x22) (by decide), if_true]

theorem readsBack_text (s : String) : Codec.text.ReadsBack s := by
  intro rest _
  show Codec.text.read (Utf8.encode (renderText s) ++ rest) = _
  rw [encode_renderText, read_text_quote]
  exact readText_render s rest

theorem opens_text (s : String) : Codec.text.Opens s :=
  ⟨0x22, _, rfl, by decide, by decide, by decide⟩

/-! ## Truth values and numbers -/

theorem readsBack_flag (b : Bool) : Codec.flag.ReadsBack b := by
  intro rest _
  cases b <;> rfl

/-- A number is written with a digit in front. -/
theorem encode_decimal (n : Nat) :
    ∃ b t, Utf8.encode (Numeral.decimal n) = b :: t ∧ isDigit b = true := by
  obtain ⟨c, s, hdecimal, -⟩ := Numeral.decimal_eq_cons n
  have hc : c.isDigit = true := Numeral.isDigit_of_mem_decimal (n := n) (hdecimal ▸ List.mem_cons_self)
  obtain ⟨hoctet, hdigit, -⟩ := encodeChar_digit hc
  refine ⟨c.toNat.toUInt8, Utf8.encode s, ?_, hdigit⟩
  rw [hdecimal, Utf8.encode_cons, hoctet]
  rfl

theorem opens_word16 (n : UInt16) : Codec.word16.Opens n := by
  obtain ⟨b, t, ht, hdigit⟩ := encode_decimal n.toNat
  exact ⟨b, t, ht, isBlank_digit hdigit, ne_of_isDigit hdigit _ rfl, ne_of_isDigit hdigit _ rfl⟩

theorem readsBack_word16 (n : UInt16) : Codec.word16.ReadsBack n := by
  intro rest hrest
  have hlt : n.toNat < 2 ^ 16 := n.toNat_lt
  obtain ⟨b, t, ht, hdigit⟩ := encode_decimal n.toNat
  have hread := readNumber_decimal (n := n.toNat) (Nat.le_trans (Nat.le_of_lt hlt) (by decide))
    hrest.endsNumber
  show Codec.word16.read (Utf8.encode (Numeral.decimal n.toNat) ++ rest) = _
  rw [ht, List.cons_append] at hread ⊢
  have hle : n.toNat ≤ 65535 := by omega
  simp only [Codec.word16, afterBlanks_cons (isBlank_digit hdigit), if_neg (ne_of_isDigit hdigit 0x2D rfl),
    hdigit, if_true, hread, naturalUpTo, if_pos hle]
  show Except.ok (UInt16.ofNat n.toNat, rest) = _
  rw [UInt16.ofNat_toNat]

/-! ## Values that may be missing -/

theorem readsBack_none (c : Codec α) : c.optional.ReadsBack none :=
  fun _ _ => rfl

theorem readsBack_some {c : Codec α} {a : α} (hread : c.ReadsBack a) (hopen : c.Opens a) :
    c.optional.ReadsBack (some a) := by
  intro rest hrest
  obtain ⟨b, t, ht, hblank, hnull, -⟩ := hopen
  have h := hread rest hrest
  show c.optional.read (Utf8.encode (c.write a).render ++ rest) = _
  rw [ht, List.cons_append] at h ⊢
  simp only [Codec.optional, skipBlanks_cons hblank, if_neg hnull, h]
  rfl

theorem readsBack_optional {c : Codec α} (h : ∀ a, c.ReadsBack a ∧ c.Opens a) (o : Option α) :
    c.optional.ReadsBack o := by
  cases o with
  | none => exact readsBack_none c
  | some a => exact readsBack_some (h a).1 (h a).2

/-! ## Types seen through others, and choices -/

theorem readsBack_through {c : Codec α} {forth : β → α} {back : α → β} {b : β}
    (h : c.ReadsBack (forth b)) (hback : back (forth b) = b) : (c.through forth back).ReadsBack b := by
  intro rest hrest
  show (fun r => (back r.1, r.2)) <$> c.read (Utf8.encode (c.write (forth b)).render ++ rest) = _
  rw [h rest hrest]
  exact congrArg (fun b => Except.ok (b, rest)) hback

/-- A `Codec.choice` is read back if it is what its name stands for. -/
theorem readsBack_choice {known : List (String × α)} {name : α → String} {a : α}
    (h : Dictionary.lookup (name a) known = some a) : (Codec.choice known name).ReadsBack a := by
  intro rest _
  show (Codec.choice known name).read (Utf8.encode (renderText (name a)) ++ rest) = _
  rw [encode_renderText]
  simp only [Codec.choice, afterBlanks_cons (b := 0x22) (by decide), if_true, readChoice,
    readText_render, h]

/-! ## Pieces between commas -/

/-- Pieces with a comma before each. -/
def behindCommas (pieces : List (List Char)) : List Char :=
  pieces.flatMap (',' :: ·)

/-- Pieces with a comma between any two. -/
def separated : List (List Char) → List Char
  | [] => []
  | piece :: pieces => piece ++ behindCommas pieces

/-- What follows a piece is the next comma of `behindCommas` or the closing bracket. -/
theorem delimits_behindCommas (pieces : List (List Char)) {b : UInt8} (hb : b = 0x5D ∨ b = 0x7D)
    (rest : List UInt8) : Delimits (Utf8.encode (behindCommas pieces) ++ b :: rest) := by
  cases pieces with
  | nil => exact .inr hb
  | cons piece pieces => exact .inl rfl

theorem encode_behindCommas (piece : List Char) (pieces : List (List Char)) (rest : List UInt8) :
    Utf8.encode (behindCommas (piece :: pieces)) ++ rest =
      0x2C :: (Utf8.encode (separated (piece :: pieces)) ++ rest) :=
  rfl

theorem encode_separated (piece : List Char) (pieces : List (List Char)) (rest : List UInt8) :
    Utf8.encode (separated (piece :: pieces)) ++ rest =
      Utf8.encode piece ++ (Utf8.encode (behindCommas pieces) ++ rest) := by
  rw [separated, Utf8.encode_append, List.append_assoc]

/-! ## Lists -/

theorem renderItems_eq (items : List Json) : renderItems items = separated (items.map render) := by
  induction items with
  | nil => rfl
  | cons item items ih =>
    cases items with
    | nil => simp [renderItems, separated, behindCommas]
    | cons next items =>
      rw [renderItems, ih]
      · simp [separated, behindCommas]
      · simp

/-- One item of `readItems`, which `nextItem` has come to. -/
theorem readItems_item {read : Reader α} {first : Bool} {a : α} {s t rest : List UInt8}
    (hnext : nextItem first s = .ok (true, t)) (hread : read t = .ok (a, rest))
    (hlength : rest.length < s.length) {more : List α} {after : List UInt8}
    (hmore : readItems read false rest = .ok (more, after)) :
    readItems read first s = .ok (a :: more, after) := by
  rw [readItems, hnext]
  simp only [hread, hlength, if_true, hmore]

theorem readItems_closing (read : Reader α) (first : Bool) (rest : List UInt8) :
    readItems read first (0x5D :: rest) = .ok ([], 0x5D :: rest) := by
  rw [readItems, nextItem, skipBlanks_cons (by decide)]
  rfl

theorem readItems_more {c : Codec α} {items : List α} (h : ∀ a ∈ items, c.ReadsBack a ∧ c.Opens a)
    (rest : List UInt8) :
    readItems c.read false
      (Utf8.encode (behindCommas (items.map fun a => (c.write a).render)) ++ 0x5D :: rest) =
        .ok (items, 0x5D :: rest) := by
  induction items with
  | nil => exact readItems_closing c.read false rest
  | cons a items ih =>
    obtain ⟨⟨hread, b, t, ht, hblank, -, hclosing⟩, hmore⟩ := List.forall_mem_cons.1 h
    rw [List.map_cons, encode_behindCommas, encode_separated]
    refine readItems_item ?_ (hread _ (delimits_behindCommas _ (.inl rfl) rest)) ?_ (ih hmore)
    · rw [nextItem, skipBlanks_cons (by decide), ht]
      simp [skipBlanks_cons hblank, hclosing]
    · simp only [List.length_cons, List.length_append]
      omega

theorem readItems_separated {c : Codec α} {items : List α}
    (h : ∀ a ∈ items, c.ReadsBack a ∧ c.Opens a) (rest : List UInt8) :
    readItems c.read true
      (Utf8.encode (separated (items.map fun a => (c.write a).render)) ++ 0x5D :: rest) =
        .ok (items, 0x5D :: rest) := by
  cases items with
  | nil => exact readItems_closing c.read true rest
  | cons a items =>
    obtain ⟨⟨hread, b, t, ht, hblank, -, hclosing⟩, hmore⟩ := List.forall_mem_cons.1 h
    rw [List.map_cons, encode_separated]
    refine readItems_item ?_ (hread _ (delimits_behindCommas _ (.inl rfl) rest)) ?_
      (readItems_more hmore rest)
    · rw [nextItem, ht]
      simp [skipBlanks_cons hblank, hclosing]
    · rw [ht]
      simp only [List.length_append, List.length_cons]
      omega

/-- A list is read back by `Codec.list` if its items are. -/
theorem readsBack_list {c : Codec α} {items : List α} (h : ∀ a ∈ items, c.ReadsBack a ∧ c.Opens a) :
    c.list.ReadsBack items := by
  intro rest _
  have hoctets : Utf8.encode (Json.list (items.map c.write)).render ++ rest =
      0x5B :: (Utf8.encode (separated (items.map fun a => (c.write a).render)) ++ 0x5D :: rest) := by
    rw [render, renderItems_eq, List.map_map, List.cons_append, Utf8.encode_cons, Utf8.encode_append,
      List.append_assoc, List.append_assoc]
    rfl
  show c.list.read (Utf8.encode (Json.list (items.map c.write)).render ++ rest) = _
  rw [hoctets]
  simp only [Codec.list, afterBlanks_cons (b := 0x5B) (by decide), if_true, readItems_separated h]
  rfl

end VolumeDriver.Json
