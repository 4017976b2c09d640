import VolumeDriver.Controller.VnicCache
import VolumeDriver.Proofs.Json.Record
set_option autoImplicit false

/-! # The cache read back

`VnicCache.ofContent` reads what `VnicCache.toContent` writes to the file of a cache back as that cache, so
nothing that was learnt about interfaces is lost between two searches. -/

namespace VolumeDriver

open Json

theorem readsBack_vnic (v : Vnic) : Vnic.codec.ReadsBack v :=
  Fields.readsBack_codec (by decide)
    ⟨keeps_text _ _, keeps_textIfPresent _ _, keeps_textIfPresent _ _, keeps_textIfPresent _ _, trivial⟩ rfl

namespace VnicCache

/-- What `VnicCache.toContent` writes is text, and not blank. -/
theorem text_toContent (cache : VnicCache) : ∃ text,
    Utf8.decode (Utf8.octets cache.toContent) = .ok text ∧ text.all Blank.isBlank = false := by
  rw [toContent, octets_encode]
  exact ⟨_, Utf8.decode_encode _, rfl⟩

/-- What `VnicCache.toContent` writes is decoded by `codec` as the cache it was written for. -/
theorem decode_toContent (cache : VnicCache) :
    codec.decode (Utf8.octets cache.toContent) = .ok cache :=
  decode_encode (readsBack_dictionary fun e _ => readsBack_vnic e.2)

/-- **What a cache's file holds is that cache**: `VnicCache.ofContent` undoes `VnicCache.toContent`. -/
theorem ofContent_toContent (cache : VnicCache) :
    ofContent (Utf8.octets cache.toContent) = cache := by
  obtain ⟨text, htext, hblank⟩ := text_toContent cache
  simp only [ofContent, htext, hblank, decode_toContent]
  rfl

end VnicCache

end VolumeDriver
