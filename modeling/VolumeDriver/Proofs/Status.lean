import VolumeDriver.Proofs.Json.Record
import VolumeDriver.Proofs.Text.Blank
import VolumeDriver.Status
set_option autoImplicit false

/-! # The answer's line

`Status.line` prints an answer as one line, for no character below U+0020 is written, a line feed and a
carriage return among them: within strings `Json.escape` escapes them, and nothing else that is written holds
any (`OnLine`). The line is decoded as the answer, so nothing of an answer is lost by what is left out of its
line. -/

namespace VolumeDriver

namespace Json

/-! ## Values on one line -/

/-- Text with no character below U+0020, line feed and carriage return among them. -/
def OnLine (s : List Char) : Prop :=
  ∀ c ∈ s, ' ' ≤ c

instance (s : List Char) : Decidable (OnLine s) :=
  decidable_of_iff (s.all fun c => ' ' ≤ c) (by simp [OnLine])

theorem onLine_cons {c : Char} {s : List Char} : OnLine (c :: s) ↔ ' ' ≤ c ∧ OnLine s :=
  List.forall_mem_cons

theorem onLine_append {s t : List Char} : OnLine (s ++ t) ↔ OnLine s ∧ OnLine t :=
  List.forall_mem_append

theorem onLine_digitChar {n : Nat} (h : n < 16) : ' ' ≤ Numeral.digitChar n := by
  rw [digitChar_eq_of_lt h]
  revert n
  decide

theorem onLine_escape (c : Char) : OnLine (escape c) := by
  unfold escape
  repeat' split
  any_goals decide
  · rename_i hlow
    have hlt : c.toNat < 32 := hlow
    simp only [onLine_cons]
    exact ⟨by decide, by decide, by decide, by decide, onLine_digitChar (by omega),
      onLine_digitChar (Nat.mod_lt _ (by decide)), List.forall_mem_nil _⟩
  · rename_i hlow
    exact List.forall_mem_singleton.2 (Char.not_lt.1 hlow)

theorem onLine_renderText (s : String) : OnLine (renderText s) := by
  have hbody : OnLine (s.toList.flatMap escape) := by
    intro d hd
    obtain ⟨c, -, hd⟩ := List.mem_flatMap.1 hd
    exact onLine_escape c d hd
  rw [renderText, List.cons_append, onLine_cons, onLine_append]
  exact ⟨by decide, hbody, by decide⟩

theorem onLine_decimal (n : Nat) : OnLine (Numeral.decimal n) := by
  intro c hc
  have hdigit := toNat_of_isDigit (Numeral.isDigit_of_mem_decimal hc)
  have hlow : ' '.toNat ≤ c.toNat := Nat.le_trans (by decide) hdigit.1
  exact hlow

mutual

/-- **A value is written on one line** (`Json.render`, `OnLine`). -/
theorem onLine_render : (j : Json) → OnLine j.render
  | .null => by decide
  | .flag true => by decide
  | .flag false => by decide
  | .number n => onLine_decimal n
  | .text s => onLine_renderText s
  | .list items => by
    rw [render, List.cons_append, onLine_cons, onLine_append]
    exact ⟨by decide, onLine_renderItems items, by decide⟩
  | .object members => by
    rw [render, List.cons_append, onLine_cons, onLine_append]
    exact ⟨by decide, onLine_renderMembers members, by decide⟩

theorem onLine_renderItems : (items : List Json) → OnLine (renderItems items)
  | [] => List.forall_mem_nil _
  | [item] => onLine_render item
  | item :: next :: items => by
    rw [renderItems, onLine_append, onLine_cons]
    · exact ⟨onLine_render item, by decide, onLine_renderItems (next :: items)⟩
    · simp

theorem onLine_renderMembers : (members : List (String × Json)) → OnLine (renderMembers members)
  | [] => List.forall_mem_nil _
  | [(key, value)] => by
    rw [renderMembers, onLine_append, onLine_cons]
    exact ⟨onLine_renderText key, by decide, onLine_render value⟩
  | (key, value) :: next :: members => by
    rw [renderMembers, onLine_append, onLine_cons, onLine_append, onLine_cons]
    · exact ⟨onLine_renderText key, by decide, onLine_render value, by decide,
        onLine_renderMembers (next :: members)⟩
    · simp

end

end Json

/-! ## Answers -/

open Json

theorem lookup_outcome (o : Outcome) : Dictionary.lookup o.name Outcome.known = some o := by
  cases o <;> decide

/-- Capabilities are read back by `Capabilities.codec`, also when none of them is written. -/
theorem readsBack_capabilities (c : Capabilities) : Capabilities.codec.ReadsBack c :=
  Fields.readsBack_codec (by decide) ⟨keeps_whenTrue _ _, keeps_whenTrue _ _, trivial⟩ rfl

theorem readsBack_status (s : Status) : Status.codec.ReadsBack s := by
  have hcapabilities := keeps_whenPresent "capabilities" fun c =>
    ⟨readsBack_capabilities c, Fields.opens_codec c⟩
  exact Fields.readsBack_codec (by decide)
    ⟨keeps_required _ (readsBack_choice (lookup_outcome s.outcome)), keeps_textIfPresent _ _,
      keeps_textIfPresent _ _, keeps_whenTrue _ _, keeps_textIfPresent _ _, hcapabilities _, trivial⟩ rfl

namespace Status

theorem toList_line (s : Status) : s.line.toList = (codec.write s).render := by
  rw [line, Codec.encode, toText, String.toList_ofList]

/-- An answer's `line` is one line for a reader of lines (`Blank.lines`). -/
theorem lines_line (s : Status) : Blank.lines s.line.toList = [s.line.toList] := by
  have hline : '\n' ∉ s.line.toList := by
    rw [toList_line]
    exact fun hmem => absurd (onLine_render _ _ hmem) (by decide)
  have hsome : s.line.toList.isEmpty = false := by
    rw [toList_line]
    rfl
  rw [Blank.lines, Cut.splitAll_of_not_mem hline, Blank.linesOf, hsome]
  rfl

theorem exitCode_eq_one_iff (s : Status) : s.exitCode = 1 ↔ s.outcome = .failure := by
  unfold exitCode
  cases s.outcome <;> decide

/-- **Nothing of an answer is lost in its `line`.** The answer is printed as one line with no character
    below U+0020, line feed and carriage return among them; `codec` decodes the line as the answer; and the
    exit code is one just if a failure is decoded. -/
theorem line_lossless (s : Status) :
    Blank.lines s.line.toList = [s.line.toList] ∧ OnLine s.line.toList ∧
      codec.decode (Utf8.octets s.line) = .ok s ∧
      ∀ read, codec.decode (Utf8.octets s.line) = .ok read →
        (s.exitCode = 1 ↔ read.outcome = .failure) := by
  have hdecode : codec.decode (Utf8.octets s.line) = .ok s := decode_encode (readsBack_status s)
  refine ⟨lines_line s, toList_line s ▸ onLine_render _, hdecode, fun read hread => ?_⟩
  rw [hdecode] at hread
  cases hread
  exact exitCode_eq_one_iff s

/-- What is empty is told from what is missing. -/
example : { failure "no\nroute" with device := some "", capabilities := some {} }.line =
    "\x7b\"status\":\"Failure\",\"message\":\"no\\nroute\",\"device\":\"\",\"capabilities\":\x7b\x7d\x7d" := by
  decide

end Status

end VolumeDriver
