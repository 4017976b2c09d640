import VolumeDriver.Proofs.Json.Record
import VolumeDriver.Resource.Codec
set_option autoImplicit false

/-! # Resources read back

The states of a resource are open: one that has no name of its own is kept as it was reported. So each text is
the report of a state, and each state is read from its report, but for one that is kept as `other` under a name
that belongs to another state; no report is read as such a state.

A resource is decoded from what is written for it, also when the control plane adds members that the driver
does not know, and what has been decoded once is decoded again from its own text. -/

namespace VolumeDriver

open Json

/-! ## Lifecycle states -/

/-- The states of a kind of resource, with how they are reported (`text`) and read (`ofText`). -/
structure Lifecycle (σ : Type) where
  text : σ → String
  ofText : String → σ
  other : String → σ
  /-- the states that have names of their own -/
  named : List σ
  named_or_other : ∀ state, state ∈ named ∨ ∃ s, state = other s
  ne_other : ∀ state ∈ named, ∀ s, state ≠ other s
  text_other : ∀ s, text (other s) = s
  ofText_named : ∀ state ∈ named, ofText (text state) = state
  ofText_other : ∀ s, s ∉ named.map text → ofText s = other s

namespace Lifecycle

variable {σ : Type} (L : Lifecycle σ)

/-- The state is not one that is kept as `other` under a name that belongs to another state. -/
def Proper (state : σ) : Prop :=
  ∀ s, state = L.other s → s ∉ L.named.map L.text

/-- Each text is the report of the state that `ofText` reads from it. -/
theorem text_ofText (s : String) : L.text (L.ofText s) = s := by
  by_cases hs : s ∈ L.named.map L.text
  · obtain ⟨state, hstate, rfl⟩ := List.mem_map.1 hs
    rw [L.ofText_named state hstate]
  · rw [L.ofText_other s hs, L.text_other]

theorem proper_ofText (s : String) : L.Proper (L.ofText s) := by
  intro t ht
  by_cases hs : s ∈ L.named.map L.text
  · obtain ⟨state, hstate, rfl⟩ := List.mem_map.1 hs
    rw [L.ofText_named state hstate] at ht
    exact absurd ht (L.ne_other state hstate t)
  · have hst := congrArg L.text ht
    rw [text_ofText, L.text_other] at hst
    exact hst ▸ hs

variable {state : σ}

theorem ofText_text (h : L.Proper state) : L.ofText (L.text state) = state := by
  rcases L.named_or_other state with hstate | ⟨s, rfl⟩
  · exact L.ofText_named state hstate
  · rw [L.text_other, L.ofText_other s (h s rfl)]

theorem keeps_state (name : String) (h : L.Proper state) :
    (Field.required name (Codec.text.through L.text L.ofText)).Keeps state :=
  keeps_required name (readsBack_through (readsBack_text _) (L.ofText_text h))

/-- A state that has been read (`Field.Yields`) is `Proper`. -/
theorem proper_of_yields {name : String}
    (h : (Field.required name (Codec.text.through L.text L.ofText)).Yields state) : L.Proper state := by
  obtain ⟨s, rfl⟩ := (yields_required h).exists_back
  exact L.proper_ofText s

end Lifecycle

/-- The `Lifecycle` of a volume's attachment. -/
def AttachmentState.lifecycle : Lifecycle AttachmentState where
  text := text
  ofText := ofText
  other := other
  named := [attaching, attached, detaching, detached]
  named_or_other state := by cases state <;> simp
  ne_other := by simp
  text_other _ := rfl
  ofText_named := by decide
  ofText_other s hs := by simp_all [text, ofText]

/-- The `Lifecycle` of an instance. -/
def InstanceState.lifecycle : Lifecycle InstanceState where
  text := text
  ofText := ofText
  other := other
  named := [provisioning, running, starting, stopping, stopped, terminating, terminated]
  named_or_other state := by cases state <;> simp
  ne_other := by simp
  text_other _ := rfl
  ofText_named := by decide
  ofText_other s hs := by simp_all [text, ofText]

/-- The `Lifecycle` of an interface's attachment. -/
def VnicState.lifecycle : Lifecycle VnicState where
  text := text
  ofText := ofText
  other := other
  named := [attaching, attached, detaching, detached]
  named_or_other state := by cases state <;> simp
  ne_other := by simp
  text_other _ := rfl
  ofText_named := by decide
  ofText_other s hs := by simp_all [text, ofText]

/-- The `Lifecycle` of exports and mount targets. -/
def ExportState.lifecycle : Lifecycle ExportState where
  text := text
  ofText := ofText
  other := other
  named := [creating, active, deleting, deleted, failed]
  named_or_other state := by cases state <;> simp
  ne_other := by simp
  text_other _ := rfl
  ofText_named := by decide
  ofText_other s hs := by simp_all [text, ofText]

/-! ## Codecs that lose nothing -/

/-- Nothing of a proper value is lost in its text, an object whose members have these names: `encode` and
    then `decode` come to the value, whatever `Unknown` members are added and in whatever order. -/
structure Lossless {α : Type} (c : Codec α) (names : List String) (proper : α → Prop) : Prop where
  /-- A value is decoded from its own text. -/
  decodes : ∀ a, proper a → c.decode (Utf8.octets (c.encode a)) = .ok a
  /-- It still is when members of other names are added, in whatever order all of them stand. -/
  grows : ∀ a, proper a → ∃ written, c.write a = .object written ∧ (∀ m ∈ written, m.1 ∈ names) ∧
    ∀ added members, Unknown names added → members.Perm (written.map .ofJson ++ added) →
      c.decode (Utf8.encode (objectText members)) = .ok a
  /-- What is decoded is proper. -/
  proper_of_decode : ∀ text a, c.decode text = .ok a → proper a
  /-- What has been decoded is decoded again from its own text. -/
  settles : ∀ text a, c.decode text = .ok a → c.decode (Utf8.octets (c.encode a)) = .ok a

/-- A record's codec is `Lossless` on the values that its fields `Keep`, if it yields no others. -/
theorem lossless_codec {α : Type} {ts : List Type} {name : String} {fields : Fields ts}
    {toRow : α → Row Id ts} {ofRow : Row Id ts → α} {proper : α → Prop} (hnames : fields.names.Nodup)
    (hback : ∀ a, ofRow (toRow a) = a) (hkeep : ∀ a, proper a → fields.Keep (toRow a))
    (hproper : ∀ row, fields.Yields row → proper (ofRow row)) :
    Lossless (fields.codec name toRow ofRow) fields.names proper := by
  have hdecodes : ∀ a, proper a → (fields.codec name toRow ofRow).decode
      (Utf8.octets ((fields.codec name toRow ofRow).encode a)) = .ok a :=
    fun a ha => decode_encode (Fields.readsBack_codec hnames (hkeep a ha) (hback a))
  have hdecoded : ∀ text a, (fields.codec name toRow ofRow).decode text = .ok a → proper a := by
    intro text a h
    obtain ⟨row, hrow, rfl⟩ := Fields.yields_of_decode h
    exact hproper row hrow
  refine ⟨hdecodes, fun a ha => ⟨fields.write (toRow a), rfl, fun m hm => Fields.name_of_mem_write hm, ?_⟩,
    hdecoded, fun text a h => hdecodes a (hdecoded text a h)⟩
  intro added members hadded hmembers
  have hread : (fields.codec name toRow ofRow).read (Utf8.encode (objectText members) ++ []) = .ok (a, []) :=
    Fields.read_objectText hnames (hkeep a ha) (hback a) hadded hmembers []
  rw [List.append_nil] at hread
  exact decode_of_read hread

/-! ## Resources -/

theorem lossless_volumeAttachment : Lossless VolumeAttachment.codec
    ["id", "volumeId", "instanceId", "lifecycleState", "attachmentType", "ipv4", "port", "iqn"]
    fun a => AttachmentState.lifecycle.Proper a.state := by
  have hport := readsBack_optional fun n => ⟨readsBack_word16 n, opens_word16 n⟩
  refine lossless_codec (by decide) (fun _ => rfl) (fun a ha => ?_) fun row h => ?_
  · exact ⟨keeps_text _ _, keeps_text _ _, keeps_text _ _, AttachmentState.lifecycle.keeps_state _ ha,
      keeps_defaulted _ _ (readsBack_text _), keeps_textIfAny _ _, keeps_defaulted _ _ (hport _),
      keeps_textIfAny _ _, trivial⟩
  · obtain ⟨-, -, -, hstate, -⟩ := h
    exact AttachmentState.lifecycle.proper_of_yields hstate

theorem lossless_instance : Lossless Instance.codec ["id", "displayName", "lifecycleState"]
    fun i => InstanceState.lifecycle.Proper i.state := by
  refine lossless_codec (by decide) (fun _ => rfl) (fun i hi => ?_) fun row h => ?_
  · exact ⟨keeps_text _ _, keeps_defaulted _ _ (readsBack_text _),
      InstanceState.lifecycle.keeps_state _ hi, trivial⟩
  · obtain ⟨-, -, hstate, -⟩ := h
    exact InstanceState.lifecycle.proper_of_yields hstate

theorem lossless_vnicAttachment : Lossless VnicAttachment.codec
    ["id", "instanceId", "subnetId", "vnicId", "lifecycleState"]
    fun a => VnicState.lifecycle.Proper a.state := by
  refine lossless_codec (by decide) (fun _ => rfl) (fun a ha => ?_) fun row h => ?_
  · exact ⟨keeps_text _ _, keeps_text _ _, keeps_text _ _, keeps_textIfAny _ _,
      VnicState.lifecycle.keeps_state _ ha, trivial⟩
  · obtain ⟨-, -, -, -, hstate, -⟩ := h
    exact VnicState.lifecycle.proper_of_yields hstate

theorem lossless_vnic : Lossless Vnic.codec ["id", "publicIp", "privateIp", "hostnameLabel"] fun _ => True :=
  lossless_codec (by decide) (fun _ => rfl)
    (fun _ _ => ⟨keeps_text _ _, keeps_textIfPresent _ _, keeps_textIfPresent _ _, keeps_textIfPresent _ _,
      trivial⟩)
    fun _ _ => trivial

theorem lossless_vcn : Lossless Vcn.codec ["id", "compartmentId"] fun _ => True :=
  lossless_codec (by decide) (fun _ => rfl) (fun _ _ => ⟨keeps_text _ _, keeps_text _ _, trivial⟩)
    fun _ _ => trivial

theorem lossless_subnet : Lossless Subnet.codec ["id", "vcnId"] fun _ => True :=
  lossless_codec (by decide) (fun _ => rfl) (fun _ _ => ⟨keeps_text _ _, keeps_text _ _, trivial⟩)
    fun _ _ => trivial

theorem lossless_fileSystem :
    Lossless FileSystem.codec ["id", "availabilityDomain", "compartmentId"] fun _ => True :=
  lossless_codec (by decide) (fun _ => rfl)
    (fun _ _ => ⟨keeps_text _ _, keeps_text _ _, keeps_text _ _, trivial⟩) fun _ _ => trivial

theorem lossless_mountTarget : Lossless MountTarget.codec
    ["id", "availabilityDomain", "exportSetId", "privateIpIds", "lifecycleState"]
    fun t => ExportState.lifecycle.Proper t.state := by
  refine lossless_codec (by decide) (fun _ => rfl) (fun t ht => ?_) fun row h => ?_
  · have haddresses : Codec.text.list.ReadsBack t.privateIpIds :=
      readsBack_list fun s _ => ⟨readsBack_text s, opens_text s⟩
    exact ⟨keeps_text _ _, keeps_text _ _, keeps_text _ _, keeps_defaulted _ _ haddresses,
      ExportState.lifecycle.keeps_state _ ht, trivial⟩
  · obtain ⟨-, -, -, -, hstate, -⟩ := h
    exact ExportState.lifecycle.proper_of_yields hstate

theorem lossless_privateIp : Lossless PrivateIp.codec ["id", "ipAddress"] fun _ => True :=
  lossless_codec (by decide) (fun _ => rfl) (fun _ _ => ⟨keeps_text _ _, keeps_text _ _, trivial⟩)
    fun _ _ => trivial

theorem lossless_export : Lossless Export.codec
    ["id", "exportSetId", "fileSystemId", "path", "lifecycleState"]
    fun e => ExportState.lifecycle.Proper e.state := by
  refine lossless_codec (by decide) (fun _ => rfl) (fun e he => ?_) fun row h => ?_
  · exact ⟨keeps_text _ _, keeps_text _ _, keeps_text _ _, keeps_text _ _,
      ExportState.lifecycle.keeps_state _ he, trivial⟩
  · obtain ⟨-, -, -, -, hstate, -⟩ := h
    exact ExportState.lifecycle.proper_of_yields hstate

/-- **Nothing of a resource is lost in its text.** Each text is the report of the state that is read from it,
    and each kind of resource is read back, whatever the control plane adds to it, unless its state is kept
    as `other` under a name that belongs to another state. -/
theorem resources_lossless :
    (∀ s, (AttachmentState.ofText s).text = s) ∧ (∀ s, (InstanceState.ofText s).text = s) ∧
    (∀ s, (VnicState.ofText s).text = s) ∧ (∀ s, (ExportState.ofText s).text = s) ∧
    Lossless VolumeAttachment.codec
      ["id", "volumeId", "instanceId", "lifecycleState", "attachmentType", "ipv4", "port", "iqn"]
      (fun a => AttachmentState.lifecycle.Proper a.state) ∧
    Lossless Instance.codec ["id", "displayName", "lifecycleState"]
      (fun i => InstanceState.lifecycle.Proper i.state) ∧
    Lossless VnicAttachment.codec ["id", "instanceId", "subnetId", "vnicId", "lifecycleState"]
      (fun a => VnicState.lifecycle.Proper a.state) ∧
    Lossless Vnic.codec ["id", "publicIp", "privateIp", "hostnameLabel"] (fun _ => True) ∧
    Lossless Vcn.codec ["id", "compartmentId"] (fun _ => True) ∧
    Lossless Subnet.codec ["id", "vcnId"] (fun _ => True) ∧
    Lossless FileSystem.codec ["id", "availabilityDomain", "compartmentId"] (fun _ => True) ∧
    Lossless MountTarget.codec
      ["id", "availabilityDomain", "exportSetId", "privateIpIds", "lifecycleState"]
      (fun t => ExportState.lifecycle.Proper t.state) ∧
    Lossless PrivateIp.codec ["id", "ipAddress"] (fun _ => True) ∧
    Lossless Export.codec ["id", "exportSetId", "fileSystemId", "path", "lifecycleState"]
      (fun e => ExportState.lifecycle.Proper e.state) :=
  ⟨AttachmentState.lifecycle.text_ofText, InstanceState.lifecycle.text_ofText,
    VnicState.lifecycle.text_ofText, ExportState.lifecycle.text_ofText, lossless_volumeAttachment,
    lossless_instance, lossless_vnicAttachment, lossless_vnic, lossless_vcn, lossless_subnet,
    lossless_fileSystem, lossless_mountTarget, lossless_privateIp, lossless_export⟩

/-- A mount target in a state that the driver does not know, with members that it does not know among its own,
    one of them twice. -/
theorem resources_lossless_addition :
    MountTarget.codec.decode (Utf8.encode (objectText
      [("tags", ['[', '-', '1', ',', 'n', 'u', 'l', 'l', ']']), ("lifecycleState", renderText "UPDATING"),
        ("id", renderText "t"), ("tags", ['\x7b', '\x7d']), ("exportSetId", renderText "e"),
        ("availabilityDomain", renderText "ad"), ("privateIpIds", '[' :: (renderText "ip" ++ [']']))])) =
      .ok ⟨"t", "ad", "e", ["ip"], .other "UPDATING"⟩ := by
  obtain ⟨-, -, -, -, -, -, -, -, -, -, -, hmountTarget, -⟩ := resources_lossless
  have hproper : ExportState.lifecycle.Proper (.other "UPDATING") := by
    intro s hs
    cases hs
    decide
  obtain ⟨written, hwritten, -, hgrows⟩ :=
    hmountTarget.grows ⟨"t", "ad", "e", ["ip"], .other "UPDATING"⟩ hproper
  cases hwritten
  refine hgrows [("tags", ['[', '-', '1', ',', 'n', 'u', 'l', 'l', ']']), ("tags", ['\x7b', '\x7d'])] _ ?_
    (by decide)
  have hnumber := Conforms.negative (.digits (by decide) (by decide) : WholeText ['1']) .none .none
  have hfirst := @Conforms.element [] _ [] (by decide) hnumber (by decide)
  have hsecond := @Conforms.element [] _ [] (by decide) .null (by decide)
  have hlist := Conforms.list (.moreElements hfirst (.oneElement hsecond))
  simp only [Unknown, List.forall_mem_cons]
  exact ⟨⟨by decide, hlist⟩, ⟨by decide, .emptyObject (b := []) (by decide)⟩, List.forall_mem_nil _⟩

end VolumeDriver
