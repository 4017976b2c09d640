import VolumeDriver.Options
import VolumeDriver.Proofs.Json.Spelling
import VolumeDriver.Proofs.Text.Base64
set_option autoImplicit false

/-! # Options read back

Whoever calls encodes the values of secrets (`encodeSecret`) and writes an object of strings.
`Options.parse` takes that back, whatever spelling was chosen, and refuses only what nobody can have
encoded: a secret that is not the base64 of a text (`Spoilt`). What is not a secret is kept as it is, and
nothing depends on it. -/

namespace VolumeDriver.Options

/-! ## Secrets -/

/-- A secret as callers write it: the base64 of its UTF-8. -/
def encodeSecret (value : String) : String :=
  Utf8.ascii (Base64.encode (Utf8.octets value))

/-- The value of a key as callers write it: with `encodeSecret` if the key is a secret's. -/
def encodeValue (key value : String) : String :=
  if isSecret key then encodeSecret value else value

theorem octets_encodeSecret (value : String) :
    Utf8.octets (encodeSecret value) = Base64.encode (Utf8.octets value) :=
  Utf8.octets_ascii (Base64.encode_ascii _)

/-- A secret is read by `decodeSecret` as the text that `encodeSecret` made it of, and no other value is
    read. -/
theorem decodeSecret_eq_ok_iff {value text : String} :
    decodeSecret value = .ok text ↔ value = encodeSecret text := by
  constructor
  · intro h
    rw [decodeSecret] at h
    cases hbase64 : Base64.decode (Utf8.octets value) with
    | error fault => simp [hbase64] at h
    | ok octets =>
      cases hutf8 : Utf8.decode octets with
      | error fault => simp [hbase64, hutf8] at h
      | ok cs =>
        simp only [hbase64, hutf8, Except.ok.injEq] at h
        rw [← Utf8.octets_inj, octets_encodeSecret, ← h, Utf8.octets, Utf8.octets, String.toList_ofList,
          ← Utf8.decode_eq_ok_iff.1 hutf8]
        exact Base64.decode_eq_ok_iff.1 hbase64
  · rintro rfl
    have hbase64 := Base64.decode_eq_ok_iff.2 (octets_encodeSecret text)
    have hutf8 : Utf8.decode (Utf8.octets text) = .ok text.toList := Utf8.decode_encode _
    simp only [decodeSecret, hbase64, hutf8, String.ofList_toList]

theorem decodeValue_eq_ok_iff {key value text : String} :
    decodeValue key value = .ok text ↔ value = encodeValue key text := by
  rw [decodeValue, encodeValue]
  by_cases hsecret : isSecret key = true
  · rw [if_pos hsecret, if_pos hsecret, ← decodeSecret_eq_ok_iff]
    cases decodeSecret value <;> simp
  · rw [if_neg hsecret, if_neg hsecret]
    simp

/-- Different values are written differently by `encodeValue`. -/
theorem encodeValue_inj {key a b : String} : encodeValue key a = encodeValue key b ↔ a = b := by
  refine ⟨fun h => ?_, fun h => h ▸ rfl⟩
  have ha := decodeValue_eq_ok_iff.2 h
  rw [decodeValue_eq_ok_iff.2 rfl] at ha
  exact Except.ok.inj ha

/-- What `decodeValue` refuses is a secret, and is reported under its key. -/
theorem decodeValue_eq_error {key value : String} {fault : Fault}
    (h : decodeValue key value = .error fault) :
    isSecret key = true ∧ (∀ text, value ≠ encodeSecret text) ∧ ∃ cause, fault = .secret key cause := by
  rw [decodeValue] at h
  by_cases hsecret : isSecret key = true
  · rw [if_pos hsecret] at h
    cases hvalue : decodeSecret value with
    | ok text => simp [hvalue] at h
    | error cause =>
      simp only [hvalue, Except.error.injEq] at h
      refine ⟨hsecret, fun text htext => ?_, cause, h.symm⟩
      rw [decodeSecret_eq_ok_iff.2 htext] at hvalue
      cases hvalue
  · rw [if_neg hsecret] at h
    cases h

/-! ## The whole text -/

/-- The strings of the object that a text is, before any is read as a secret. -/
def strings (text : String) : Except Json.Fault (Dictionary String) :=
  (Json.Codec.dictionary .text).decode (Utf8.octets text)

/-- The value under the key is a secret, and not the base64 of a text. -/
def Spoilt (entries : Dictionary String) (key : String) : Prop :=
  isSecret key = true ∧ ∃ value, entries.get? key = some value ∧ ∀ text, value ≠ encodeSecret text

theorem parse_of_strings {text : String} {entries : Dictionary String}
    (h : strings text = .ok entries) :
    parse text = (entries.traverse decodeValue).map Options.mk := by
  rw [strings] at h
  simp only [parse, h]
  cases entries.traverse decodeValue <;> rfl

theorem parse_eq_ok_iff {text : String} {entries : Dictionary String} {o : Options}
    (h : strings text = .ok entries) :
    parse text = .ok o ↔ entries.traverse decodeValue = .ok o.entries := by
  rw [parse_of_strings h]
  cases entries.traverse decodeValue with
  | error fault => simp [Except.map]
  | ok values => exact ⟨fun h => by cases h; rfl, fun h => by cases h; rfl⟩

theorem parse_eq_error_iff {text : String} {entries : Dictionary String} {fault : Fault}
    (h : strings text = .ok entries) :
    parse text = .error fault ↔ entries.traverse decodeValue = .error fault := by
  rw [parse_of_strings h]
  cases entries.traverse decodeValue <;> simp [Except.map]

variable {entries : Dictionary String}

/-- What `decodeValue` reads is what `encodeValue` made of it. -/
theorem get?_of_traverse {values : Dictionary String} (h : entries.traverse decodeValue = .ok values)
    (key : String) : entries.get? key = (values.get? key).map (encodeValue key) := by
  have hkey := Dictionary.traverse_eq_ok h key
  cases hvalue : values.get? key with
  | none =>
    rw [hvalue] at hkey
    exact Option.map_eq_none_iff.1 hkey.symm
  | some value =>
    rw [hvalue] at hkey
    obtain ⟨written, hwritten, hdecoded⟩ := Option.map_eq_some_iff.1 hkey.symm
    rw [hwritten, decodeValue_eq_ok_iff.1 hdecoded]
    rfl

/-- What is refused is the `Spoilt` secret with the least key. -/
theorem traverse_eq_error {fault : Fault} (h : entries.traverse decodeValue = .error fault) :
    ∃ key value, entries.get? key = some value ∧ decodeValue key value = .error fault ∧
      Spoilt entries key ∧ ∀ other, Spoilt entries other → ¬other < key := by
  obtain ⟨key, value, hkey, hvalue, hbefore⟩ := Dictionary.traverse_eq_error h
  obtain ⟨hsecret, hspoilt, -⟩ := decodeValue_eq_error hvalue
  refine ⟨key, value, hkey, hvalue, ⟨hsecret, value, hkey, hspoilt⟩, ?_⟩
  rintro other ⟨hother, value', hvalue', hspoilt'⟩ hlt
  obtain ⟨text, htext⟩ := hbefore other value' hvalue' hlt
  refine hspoilt' text ?_
  rw [decodeValue_eq_ok_iff.1 htext, encodeValue, if_pos hother]

/-- Nothing is refused while no secret is `Spoilt`. -/
theorem traverse_eq_ok (h : ∀ key, ¬Spoilt entries key) :
    ∃ values, entries.traverse decodeValue = .ok values := by
  cases hvalues : entries.traverse decodeValue with
  | ok values => exact ⟨values, rfl⟩
  | error fault =>
    obtain ⟨key, -, -, -, hspoilt, -⟩ := traverse_eq_error hvalues
    exact absurd hspoilt (h key)

theorem not_spoilt_of_traverse {values : Dictionary String}
    (h : entries.traverse decodeValue = .ok values) (key : String) : ¬Spoilt entries key := by
  rintro ⟨hsecret, value, hvalue, hspoilt⟩
  have hkey := get?_of_traverse h key
  rw [hvalue] at hkey
  obtain ⟨text, -, htext⟩ := Option.map_eq_some_iff.1 hkey.symm
  refine hspoilt text ?_
  rw [← htext, encodeValue, if_pos hsecret]

/-- What reading a text comes to, in terms of what the text spells (`Json.Spells`), of how callers encode
    values (`encodeValue`), and of the secrets that are `Spoilt`. -/
structure ReadsText (text : String) (result : Except Fault Options) : Prop where
  /-- what was encoded, in whatever spelling, is read back -/
  inverts : ∀ m : String → Option String,
    Json.Spells text (fun key => (m key).map (encodeValue key)) →
      ∃ o, result = .ok o ∧ ∀ key, o.get? key = m key
  /-- an object of strings is refused for a spoilt secret and for nothing else -/
  refuses : ∀ entries, strings text = .ok entries →
    ((∃ fault, result = .error fault) ↔ ∃ key, Spoilt entries key)
  /-- of the spoilt secrets, the one with the least key in the order of octets is reported -/
  reports : ∀ entries fault, strings text = .ok entries → result = .error fault →
    ∃ key cause, fault = .secret key cause ∧ Spoilt entries key ∧
      ∀ other, Spoilt entries other → Utf8.octets key ≤ Utf8.octets other
  /-- what is read is what was encoded: a secret was the base64 of its text, and the rest is as it was -/
  keeps : ∀ entries o, strings text = .ok entries → result = .ok o →
    ∀ key, entries.get? key = (o.get? key).map (encodeValue key)
  /-- a text with the same secrets comes to the same, whatever its other values -/
  depends : ∀ text' entries entries', strings text = .ok entries → strings text' = .ok entries' →
    (∀ key, isSecret key = true → entries'.get? key = entries.get? key) →
    (fun _ => ()) <$> parse text' = (fun _ => ()) <$> result

theorem Spoilt.congr {entries' : Dictionary String}
    (h : ∀ key, isSecret key = true → entries'.get? key = entries.get? key) {key : String} :
    Spoilt entries' key ↔ Spoilt entries key := by
  unfold Spoilt
  constructor
  · rintro ⟨hsecret, hvalue⟩
    exact ⟨hsecret, h key hsecret ▸ hvalue⟩
  · rintro ⟨hsecret, hvalue⟩
    exact ⟨hsecret, (h key hsecret).symm ▸ hvalue⟩

/-- Whether reading fails, and at what, is up to the secrets (`isSecret`) alone. -/
theorem traverse_congr {entries' : Dictionary String}
    (h : ∀ key, isSecret key = true → entries'.get? key = entries.get? key) {fault : Fault}
    (hfault : entries.traverse decodeValue = .error fault) :
    entries'.traverse decodeValue = .error fault := by
  obtain ⟨key, value, hvalue, hrefused, hspoilt, hleast⟩ := traverse_eq_error hfault
  cases hvalues' : entries'.traverse decodeValue with
  | ok values => exact absurd ((Spoilt.congr h).2 hspoilt) (not_spoilt_of_traverse hvalues' key)
  | error fault' =>
    obtain ⟨key', value', hvalue', hrefused', hspoilt', hleast'⟩ := traverse_eq_error hvalues'
    -- Both are the least, so they are one, and so are their values.
    have hkey : key' = key := String.le_antisymm
      (String.not_lt.1 (hleast' key ((Spoilt.congr h).2 hspoilt)))
      (String.not_lt.1 (hleast key' ((Spoilt.congr h).1 hspoilt')))
    subst hkey
    rw [h key' hspoilt.1, hvalue] at hvalue'
    cases hvalue'
    exact congrArg _ (Except.error.inj (hrefused'.symm.trans hrefused))

/-- **Reading inverts the encoding of options** (`encodeValue`), and refuses only what is no encoding of
    any. -/
theorem parse_readsText (text : String) : ReadsText text (parse text) where
  inverts m hm := by
    obtain ⟨entries, hentries, hvalues⟩ := hm.decode
    have hsound : ∀ key, ¬Spoilt entries key := by
      rintro key ⟨hsecret, value, hvalue, hspoilt⟩
      obtain ⟨text', -, htext'⟩ := Option.map_eq_some_iff.1 ((hvalues key).symm.trans hvalue)
      refine hspoilt text' ?_
      rw [← htext', encodeValue, if_pos hsecret]
    obtain ⟨values, hread⟩ := traverse_eq_ok hsound
    refine ⟨⟨values⟩, (parse_eq_ok_iff hentries).2 hread, fun key => ?_⟩
    have hkey := (get?_of_traverse hread key).symm.trans (hvalues key)
    exact Option.map_injective (fun a b => encodeValue_inj.1) hkey
  refuses entries hentries := by
    constructor
    · rintro ⟨fault, hfault⟩
      obtain ⟨key, -, -, -, hspoilt, -⟩ := traverse_eq_error ((parse_eq_error_iff hentries).1 hfault)
      exact ⟨key, hspoilt⟩
    · rintro ⟨key, hspoilt⟩
      cases hresult : parse text with
      | error fault => exact ⟨fault, rfl⟩
      | ok o =>
        have hread := (parse_eq_ok_iff hentries).1 hresult
        exact absurd hspoilt (not_spoilt_of_traverse hread key)
  reports entries fault hentries hfault := by
    obtain ⟨key, value, -, hrefused, hspoilt, hleast⟩ :=
      traverse_eq_error ((parse_eq_error_iff hentries).1 hfault)
    obtain ⟨-, -, cause, hcause⟩ := decodeValue_eq_error hrefused
    exact ⟨key, cause, hcause, hspoilt, fun other hother =>
      fun hlt => hleast other hother (Utf8.octets_lt_iff.1 hlt)⟩
  keeps entries o hentries ho := get?_of_traverse ((parse_eq_ok_iff hentries).1 ho)
  depends text' entries entries' hentries hentries' h := by
    cases hresult : parse text with
    | error fault =>
      have hfault := traverse_congr h ((parse_eq_error_iff hentries).1 hresult)
      rw [(parse_eq_error_iff hentries').2 hfault]
    | ok o =>
      cases hresult' : parse text' with
      | ok o' => rfl
      | error fault' =>
        have hfault := traverse_congr (fun key hkey => (h key hkey).symm)
          ((parse_eq_error_iff hentries').1 hresult')
        rw [(parse_eq_error_iff hentries).2 hfault] at hresult
        cases hresult

/-- A secret beyond ASCII, with an escape in its base64 and blanks around it, is read as it was meant. -/
theorem parse_readsText_secret :
    ∃ o, parse "\x7b \"kubernetes.io/secret/key\" : \"w6k\\u003D\"\n\x7d" = .ok o ∧
      ∀ key, o.get? key = if key = "kubernetes.io/secret/key" then some "é" else none := by
  refine (parse_readsText _).inverts _ ⟨[("kubernetes.io/secret/key", "w6k=")], ?_, fun key => ?_⟩
  · have hkey : Json.TextSpelling "kubernetes.io/secret/key".toList "kubernetes.io/secret/key".toList :=
      .plain (by decide)
    have hequals : Json.CharSpelling '=' ['\\', 'u', '0', '0', '3', 'D'] :=
      .number (.mk (by decide) (by decide) (by decide) (by decide))
    have hsymbols : Json.TextSpelling ['w', '6', 'k'] ['w', '6', 'k'] := .plain (by decide)
    have hvalue : Json.TextSpelling "w6k=".toList ['w', '6', 'k', '\\', 'u', '0', '0', '3', 'D'] :=
      hsymbols.append (.cons hequals .nil)
    have hblank : Json.Blanks [' '] := by decide
    have hline : Json.Blanks ['\n'] := by decide
    have hnone : Json.Blanks [] := by decide
    exact .members hnone (.one (.mk hblank hblank hblank hline hkey hvalue)) hnone
  · by_cases hkey : key = "kubernetes.io/secret/key"
    · subst hkey
      decide
    · simp [hkey, Dictionary.lookup, Ne.symm hkey]

end VolumeDriver.Options
